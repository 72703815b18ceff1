import LinkSocks.Proxy.Gate

/-!
# CONNECT through an upstream HTTP proxy

`dialViaHTTP` reads the response of the proxy with one read, and takes it for a success
if the digits `200` are anywhere in what that read has returned.  The read may return a
part of the header, and it may return bytes of the tunnel, which are lost then.
-/

namespace LinkSocks

open Go List

namespace BufReader

/-- One `Read` of a connection into a buffer of `k` bytes. -/
def read (r : BufReader) (k : ℕ) : Except Error (Bytes × BufReader) :=
  match r.buffered, r.chunks with
  | b :: bs, _ => .ok ((b :: bs).take k, { r with buffered := (b :: bs).drop k })
  | [], chunk :: rest => .ok (chunk.take k, ⟨chunk.drop k, rest, r.ending⟩)
  | [], [] => .error r.ending

end BufReader

structure UpstreamOption where
  upstreamUsername : GoString
  upstreamPassword : GoString

/-- The text in front of the first line break. -/
def statusLine : Bytes → Bytes
  | 13 :: 10 :: _ => []
  | b :: rest => b :: statusLine rest
  | [] => []

def errorText (b : Bytes) : String := String.ofList (b.map fun x => Char.ofNat x.toNat)

def connectRequest (base64Encode : Bytes → GoString) (o : UpstreamOption)
    (targetAddr : GoString) : Bytes :=
  ascii "CONNECT " ++ targetAddr ++ ascii " HTTP/1.1\r\nHost: " ++ targetAddr ++ ascii "\r\n" ++
    (if o.upstreamUsername ≠ [] ∧ o.upstreamPassword ≠ [] then
      ascii "Proxy-Authorization: Basic " ++
        base64Encode (o.upstreamUsername ++ ascii ":" ++ o.upstreamPassword) ++ ascii "\r\n"
    else []) ++ ascii "\r\n"

/-- A connection to the proxy: what can be read from it, what has been written, and
whether the write fails. -/
structure UpstreamConn where
  reader : BufReader
  written : Bytes
  writeError : Option Error

/-- `dialViaHTTP`, from the outcome of the dial on. -/
def dialViaHTTP (base64Encode : Bytes → GoString) (o : UpstreamOption)
    (targetAddr : GoString) (dialed : Except Error UpstreamConn) : Except Error UpstreamConn :=
  match dialed with
  | .error e => .error (.wrap "connect to proxy error" e)
  | .ok conn =>
    match conn.writeError, conn.reader.read 1024 with
    | some e, _ => .error (.wrap "write CONNECT request error" e)
    | none, .error e => .error (.wrap "read CONNECT response error" e)
    | none, .ok (response, reader) =>
      if contains response (ascii "200") then
        .ok { conn with
          reader := reader
          written := conn.written ++ connectRequest base64Encode o targetAddr }
      else .error (.msg ("HTTP CONNECT failed: " ++ errorText (statusLine response)))

/-! ## Responses -/

/-- The header of a response; its lines have no line breaks, and none of them but the last
is empty. -/
structure ResponseHeader where
  version : Bytes
  code : ℕ
  reason : Bytes
  fields : List Bytes
  code_digits : 100 ≤ code ∧ code < 1000
  lines : ∀ l ∈ version :: reason :: fields, 13 ∉ l ∧ 10 ∉ l
  fields_ne : [] ∉ fields

/-- The header with the blank line behind it. -/
def ResponseHeader.bytes (h : ResponseHeader) : Bytes :=
  h.version ++ ascii " " ++ ascii (toString h.code) ++ ascii " " ++ h.reason ++ ascii "\r\n" ++
    (h.fields.map (· ++ ascii "\r\n")).flatten ++ ascii "\r\n"

theorem ResponseHeader.contains_code {h : ResponseHeader} (hcode : h.code = 200) :
    contains h.bytes (ascii "200") = true := by
  rw [contains_iff]
  refine ⟨h.version ++ ascii " ", ascii " " ++ h.reason ++ ascii "\r\n" ++
    (h.fields.map (· ++ ascii "\r\n")).flatten ++ ascii "\r\n", ?_⟩
  rw [ResponseHeader.bytes, hcode]
  simp only [append_assoc]
  rfl

/-- The connection is returned for the code 200 only, and what is read from it then is the
tunnel. -/
def DecidedByStatus (h : ResponseHeader) (tunnel : Bytes)
    (result : Except Error UpstreamConn) : Prop :=
  ((∃ conn, result = .ok conn) ↔ h.code = 200) ∧
    ∀ conn, result = .ok conn → conn.reader.stream = tunnel

def firstRead (chunks : List Bytes) : Bytes := (chunks.headD []).take 1024

/-- With the code 200 the dial is decided by it if and only if the first read is the whole
header and nothing else, and with another code if and only if the digits `200` do not occur
in the first read. -/
theorem decidedByStatus_iff (base64Encode : Bytes → GoString) (o : UpstreamOption)
    (targetAddr : GoString) (h : ResponseHeader) (tunnel : Bytes) (chunks : List Bytes)
    (ending : Error) (hchunks : chunks.flatten = h.bytes ++ tunnel) :
    DecidedByStatus h tunnel
        (dialViaHTTP base64Encode o targetAddr (.ok ⟨⟨[], chunks, ending⟩, [], none⟩)) ↔
      if h.code = 200 then firstRead chunks = h.bytes
      else contains (firstRead chunks) (ascii "200") = false := by
  obtain ⟨chunk, rest, rfl⟩ : ∃ chunk rest, chunks = chunk :: rest := by
    cases chunks with
    | nil =>
      simp only [ResponseHeader.bytes, flatten_nil, nil_eq, append_eq_nil_iff] at hchunks
      exact absurd hchunks.1.2 (by decide)
    | cons chunk rest => exact ⟨chunk, rest, rfl⟩
  have hsplit : chunk.take 1024 ++ (chunk.drop 1024 ++ rest.flatten) = h.bytes ++ tunnel := by
    rw [← append_assoc, take_append_drop]
    exact hchunks
  have htunnel : chunk.drop 1024 ++ rest.flatten = tunnel ↔ chunk.take 1024 = h.bytes := by
    constructor
    · rintro rfl
      exact append_cancel_right hsplit
    · intro heq
      rw [heq] at hsplit
      exact append_cancel_left hsplit
  simp only [DecidedByStatus, dialViaHTTP, BufReader.read, firstRead, headD_cons]
  split_ifs with hcontains hcode hcode
  · simp [hcode, BufReader.stream, htunnel]
  · simp [hcontains, hcode]
  · have hne : chunk.take 1024 ≠ h.bytes := by
      intro heq
      rw [heq] at hcontains
      exact hcontains (h.contains_code hcode)
    simp [hcode, hne]
  · simp [hcontains, hcode]

/-! ## Three responses -/

/-- A response without a reason, with at most one field. -/
def plainHeader (code : ℕ) (hcode : 100 ≤ code ∧ code < 1000) (fields : List Bytes)
    (hfields : (∀ l ∈ fields, 13 ∉ l ∧ 10 ∉ l) ∧ [] ∉ fields) : ResponseHeader where
  version := ascii "HTTP/1.1"
  code := code
  reason := []
  fields := fields
  code_digits := hcode
  lines := List.forall_mem_cons.mpr ⟨by decide, List.forall_mem_cons.mpr ⟨by simp, hfields.1⟩⟩
  fields_ne := hfields.2

def okHeader : ResponseHeader := plainHeader 200 (by decide) [] (by simp)

/-- The proxy asks for a user and a password. -/
def askHeader : ResponseHeader := plainHeader 407 (by decide) [ascii "Age: 1200"] (by decide)

def dialWith (chunks : List Bytes) : Except Error UpstreamConn :=
  dialViaHTTP id ⟨[], []⟩ (ascii "h:80") (.ok ⟨⟨[], chunks, errEOF⟩, [], none⟩)

theorem okHeader_decided : DecidedByStatus okHeader [7, 8] (dialWith [okHeader.bytes, [7, 8]]) :=
  (decidedByStatus_iff id ⟨[], []⟩ (ascii "h:80") okHeader [7, 8] [okHeader.bytes, [7, 8]]
    errEOF (by decide)).mpr (by decide)

/-- A rejection is taken for a success because of the digits in another field; a success
whose status line comes in two pieces is taken for a failure; and the bytes of the tunnel
that come with the header are lost. -/
theorem dialViaHTTP_misled : (∃ conn, dialWith [askHeader.bytes] = .ok conn) ∧
    (¬ ∃ conn, dialWith [okHeader.bytes.take 10, okHeader.bytes.drop 10, [7, 8]] = .ok conn) ∧
    ∃ conn, dialWith [okHeader.bytes ++ [7], [8]] = .ok conn ∧ conn.reader.stream = [8] := by
  refine ⟨⟨_, rfl⟩, ?_, _, rfl, rfl⟩
  rintro ⟨conn, hconn⟩
  cases hconn

end LinkSocks
