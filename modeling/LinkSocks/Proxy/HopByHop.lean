import LinkSocks.Wire.Message
import Mathlib.Data.List.Forall2

/-!
# Headers that end at the proxy

`handleHTTPAbsoluteRequest` takes the headers of one hop out of the first request of a
connection, and those that its first `Connection` line names.  The transfer encoding of the
body is written again, and what the client sends behind the request goes into the tunnel
as it is.
-/

namespace LinkSocks

open Go List

/-! ## Headers -/

/-- `validHeaderFieldByte`. -/
def isTokenByte (b : UInt8) : Bool :=
  (48 ≤ b && b ≤ 57) || (65 ≤ b && b ≤ 90) || (97 ≤ b && b ≤ 122) ||
    (ascii "!#$%&'*+-.^_`|~").contains b

/-- Letters are capitals at the start and behind a hyphen. -/
def capitalize : Bool → GoString → GoString
  | _, [] => []
  | first, b :: s =>
    (if first && 97 ≤ b && b ≤ 122 then b - 32
      else if !first && 65 ≤ b && b ≤ 90 then b + 32
      else b) :: capitalize (b = 45) s

def canonicalMIMEHeaderKey (name : GoString) : GoString :=
  if name.all isTokenByte then capitalize true name else name

/-- `http.Header`, as a list of lines with canonical names. -/
abbrev HTTPHeader := List (GoString × GoString)

namespace HTTPHeader

def del (h : HTTPHeader) (name : GoString) : HTTPHeader :=
  h.filter (·.1 ≠ canonicalMIMEHeaderKey name)

/-- `Get`: the value of the first line with the name. -/
def get (h : HTTPHeader) (name : GoString) : GoString :=
  ((h.find? (·.1 = canonicalMIMEHeaderKey name)).map (·.2)).getD []

def set (h : HTTPHeader) (name value : GoString) : HTTPHeader :=
  h.del name ++ [(canonicalMIMEHeaderKey name, value)]

end HTTPHeader

/-- What `Request.Write` says about the body. -/
inductive BodyFraming where
  | none
  | length (n : GoString)
  | chunked (trailer : Option GoString)

def BodyFraming.fields : BodyFraming → HTTPHeader
  | .none => []
  | .length n => [(ascii "Content-Length", n)]
  | .chunked trailer =>
    (ascii "Transfer-Encoding", ascii "chunked") :: (trailer.map (ascii "Trailer", ·)).toList

/-- A request as `http.ReadRequest` returns it. -/
structure ProxiedRequest where
  host : GoString
  header : HTTPHeader
  framing : BodyFraming

namespace ProxiedRequest

/-- The `User-Agent` that `Request.Write` sends. -/
def userAgent (r : ProxiedRequest) : Option GoString :=
  match r.header.find? (·.1 = ascii "User-Agent") with
  | none => some (ascii "Go-http-client/1.1")
  | some (_, value) => if value = [] then none else some value

/-- The lines of the header that `Request.Write` does not send as they are. -/
def reqWriteExcludeHeader : List GoString :=
  [ascii "Host", ascii "User-Agent", ascii "Content-Length", ascii "Transfer-Encoding",
    ascii "Trailer"]

/-- The lines that `Request.Write` writes by itself. -/
def ownLines (r : ProxiedRequest) : HTTPHeader :=
  (ascii "Host", r.host) :: (r.userAgent.map (ascii "User-Agent", ·)).toList ++ r.framing.fields

/-- `Request.Write`: the lines of the header. -/
def write (r : ProxiedRequest) : HTTPHeader :=
  r.ownLines ++ r.header.filter (·.1 ∉ reqWriteExcludeHeader)

end ProxiedRequest

/-! ## The proxy -/

def hopByHopHeaders : List GoString :=
  [ascii "connection", ascii "proxy-connection", ascii "keep-alive", ascii "proxy-authenticate",
    ascii "proxy-authorization", ascii "te", ascii "trailers", ascii "transfer-encoding",
    ascii "upgrade"]

section Proxy

variable (trimSpace : GoString → GoString)

/-- The names in a value of `Connection`. -/
def connectionTokens (value : GoString) : List GoString := (value.splitOn 44).map trimSpace

def outboundRequest (host : GoString) (r : ProxiedRequest) : ProxiedRequest :=
  let header := hopByHopHeaders.foldl .del r.header
  let connectionHeader := r.header.get (ascii "Connection")
  let header :=
    if connectionHeader ≠ [] then (connectionTokens trimSpace connectionHeader).foldl .del header
    else header
  let header := header.del (ascii "Proxy-Connection")
  { r with host := host, header := header.set (ascii "Connection") (ascii "close") }

/-- The requests in the tunnel: the first one is rewritten, and those behind it are as the
client has sent them. -/
def forwardedRequests (host : GoString) (first : ProxiedRequest) (later : List HTTPHeader) :
    List HTTPHeader := (outboundRequest trimSpace host first).write :: later

/-- The headers that the `Connection` lines name. -/
def namedHeaders (h : HTTPHeader) : List GoString :=
  (h.filter fun f => f.1 = ascii "Connection" ∧ f.2 ≠ []).flatMap fun f =>
    (connectionTokens trimSpace f.2).map canonicalMIMEHeaderKey

/-- The headers that the first `Connection` line names. -/
def firstNamed (h : HTTPHeader) : List GoString :=
  if h.get (ascii "Connection") ≠ [] then
    (connectionTokens trimSpace (h.get (ascii "Connection"))).map canonicalMIMEHeaderKey
  else []

end Proxy

/-- No header is one of a single hop or named, but the `Connection` of the proxy. -/
abbrev Clean (named : List GoString) (h : HTTPHeader) : Prop :=
  ∀ f ∈ h, f.1 ∈ hopByHopHeaders.map canonicalMIMEHeaderKey ++ named →
    f = (ascii "Connection", ascii "close")

/-- Each request in the tunnel is clean of what the client has named in it. -/
abbrev AllClean (trimSpace : GoString → GoString) (host : GoString) (first : ProxiedRequest)
    (later : List HTTPHeader) : Prop :=
  Forall₂ (fun sent h => Clean (namedHeaders trimSpace sent) h) (first.header :: later)
    (forwardedRequests trimSpace host first later)

section Cleaning

variable {trimSpace : GoString → GoString} {host : GoString} {r : ProxiedRequest}
  {f : GoString × GoString} {named : List GoString}

theorem mem_foldl_del {names : List GoString} {h : HTTPHeader} :
    f ∈ names.foldl .del h ↔ f ∈ h ∧ f.1 ∉ names.map canonicalMIMEHeaderKey := by
  induction names generalizing h with
  | nil => simp
  | cons name names ih => simp [ih, HTTPHeader.del, and_assoc]

/-- What is left of the header of a request. -/
theorem mem_outboundRequest : f ∈ (outboundRequest trimSpace host r).header ↔
    (f ∈ r.header ∧ f.1 ∉ hopByHopHeaders.map canonicalMIMEHeaderKey ++
      firstNamed trimSpace r.header) ∨ f = (ascii "Connection", ascii "close") := by
  have hconnection : canonicalMIMEHeaderKey (ascii "Connection") = ascii "Connection" := by
    decide +kernel
  have hgone : ∀ name ∈ [ascii "Connection", ascii "Proxy-Connection"],
      canonicalMIMEHeaderKey name ∈ hopByHopHeaders.map canonicalMIMEHeaderKey := by
    decide +kernel
  have hdel : ∀ {h : HTTPHeader} {name : GoString}, f ∈ h.del name ↔
      f ∈ h ∧ f.1 ≠ canonicalMIMEHeaderKey name := by
    simp [HTTPHeader.del]
  have hrest : f ∈ (if r.header.get (ascii "Connection") ≠ [] then
        (connectionTokens trimSpace (r.header.get (ascii "Connection"))).foldl HTTPHeader.del
          (hopByHopHeaders.foldl .del r.header)
      else hopByHopHeaders.foldl .del r.header) ↔
      f ∈ r.header ∧ f.1 ∉ hopByHopHeaders.map canonicalMIMEHeaderKey ++
        firstNamed trimSpace r.header := by
    rw [firstNamed]
    split_ifs <;> simp only [mem_foldl_del, mem_append, not_or, and_assoc, append_nil]
  change f ∈ HTTPHeader.set (HTTPHeader.del _ _) _ _ ↔ _
  rw [HTTPHeader.set, mem_append, hdel, hdel, hrest, mem_singleton, hconnection]
  refine or_congr_left ⟨fun hf => hf.1.1, fun hf => ⟨⟨hf, ?_⟩, ?_⟩⟩
  · exact fun heq => hf.2 (mem_append_left _ (heq ▸ hgone _ (by simp)))
  · exact fun heq => hf.2 (mem_append_left _ (heq ▸ hconnection ▸ hgone _ (by simp)))

theorem name_of_ownLines (hf : f ∈ r.ownLines) :
    f.1 ∈ [ascii "Host", ascii "User-Agent", ascii "Content-Length"] ∨
      ∃ trailer, r.framing = .chunked trailer ∧
        f.1 ∈ [ascii "Transfer-Encoding", ascii "Trailer"] := by
  rw [ProxiedRequest.ownLines, mem_append, mem_cons, Option.mem_toList] at hf
  obtain (rfl | hagent) | hbody := hf
  · exact .inl (by simp)
  · obtain ⟨value, -, rfl⟩ := Option.map_eq_some_iff.mp hagent
    exact .inl (by simp)
  · cases hr : r.framing with
    | none => simp [hr, BodyFraming.fields] at hbody
    | length n =>
      obtain rfl : f = (ascii "Content-Length", n) := by
        simpa [hr, BodyFraming.fields] using hbody
      exact .inl (by simp)
    | chunked trailer =>
      refine .inr ⟨trailer, rfl, ?_⟩
      rw [hr, BodyFraming.fields, mem_cons, Option.mem_toList] at hbody
      obtain rfl | htrailer := hbody
      · simp
      · obtain ⟨value, -, rfl⟩ := Option.map_eq_some_iff.mp htrailer
        simp

/-- The lines that `Request.Write` writes by itself are clean if the body is not chunked and
none of them is named. -/
theorem clean_ownLines : Clean named r.ownLines ↔
    (∀ trailer, r.framing ≠ .chunked trailer) ∧ ∀ f ∈ r.ownLines, f.1 ∉ named := by
  constructor
  · refine fun hclean => ⟨fun trailer hr => ?_, fun f hf hnamed => ?_⟩
    · have hmem : (ascii "Transfer-Encoding", ascii "chunked") ∈ r.ownLines := by
        simp [ProxiedRequest.ownLines, hr, BodyFraming.fields]
      have hclose := hclean _ hmem (mem_append_left _ (by decide +kernel))
      exact absurd hclose (by decide +kernel)
    · obtain rfl := hclean f hf (mem_append_right _ hnamed)
      obtain hname | ⟨-, -, hname⟩ := name_of_ownLines hf
      · exact absurd hname (by decide +kernel)
      · exact absurd hname (by decide +kernel)
  · rintro ⟨hframing, hnames⟩ f hf hbad
    obtain hname | ⟨trailer, hr, -⟩ := name_of_ownLines hf
    · obtain hhop | hnamed := mem_append.mp hbad
      · have hown : ∀ name ∈ [ascii "Host", ascii "User-Agent", ascii "Content-Length"],
            name ∉ hopByHopHeaders.map canonicalMIMEHeaderKey := by
          decide +kernel
        exact absurd hhop (hown _ hname)
      · exact absurd hnamed (hnames f hf)
    · exact absurd hr (hframing trailer)

end Cleaning

/-- The requests in the tunnel are clean if and only if the later ones are as the client
sends them, the body of the first one is not chunked, nothing is named that is written in any
case, and every other header of it that a `Connection` line names is one of those that are
taken out or are named by the first line. -/
theorem allClean_iff (trimSpace : GoString → GoString) (host : GoString) (first : ProxiedRequest)
    (later : List HTTPHeader) : AllClean trimSpace host first later ↔
      (∀ h ∈ later, Clean (namedHeaders trimSpace h) h) ∧
      (∀ trailer, first.framing ≠ .chunked trailer) ∧
      (∀ f ∈ (outboundRequest trimSpace host first).ownLines,
        f.1 ∉ namedHeaders trimSpace first.header) ∧
      ∀ f ∈ first.header, f.1 ∈ namedHeaders trimSpace first.header →
        f.1 ∈ hopByHopHeaders.map canonicalMIMEHeaderKey ++ firstNamed trimSpace first.header ++
          ProxiedRequest.reqWriteExcludeHeader := by
  rw [AllClean, forwardedRequests, forall₂_cons, forall₂_same, and_comm]
  refine and_congr_right' ?_
  rw [ProxiedRequest.write, Clean, forall_mem_append]
  refine (and_congr clean_ownLines ?_).trans and_assoc
  simp only [mem_filter, decide_eq_true_eq, mem_outboundRequest]
  constructor
  · intro hclean f hf hnamed
    by_contra hleft
    rw [mem_append, not_or] at hleft
    obtain rfl := hclean f ⟨.inl ⟨hf, hleft.1⟩, hleft.2⟩ (mem_append_right _ hnamed)
    exact hleft.1 (mem_append_left _ (by decide +kernel))
  · rintro hnamed f ⟨⟨hf, hleft⟩ | rfl, hwritten⟩ hbad
    · obtain hhop | hbad := mem_append.mp hbad
      · exact absurd (mem_append_left _ hhop) hleft
      · obtain hgone | hexcluded := mem_append.mp (hnamed f hf hbad)
        · exact absurd hgone hleft
        · exact absurd hexcluded hwritten
    · rfl

/-! ## Three connections -/

def plainRequest (header : HTTPHeader) : ProxiedRequest := ⟨ascii "host", header, .none⟩

def authorization : GoString × GoString := (ascii "Proxy-Authorization", ascii "Basic YTpi")

/-- A second `Connection` line names a header that is not there, and a later request has
nothing of this hop. -/
theorem plainRequest_clean : AllClean id (ascii "host") (plainRequest [authorization,
    (ascii "Connection", ascii "X-One"), (ascii "Connection", ascii "X-Two"), (ascii "X-One", [])])
    [[(ascii "Host", ascii "host")]] :=
  (allClean_iff id (ascii "host") _ _).mpr
    ⟨by decide +kernel, nofun, by decide +kernel, by decide +kernel⟩

/-- A second request keeps its password; a header that a second `Connection` line names, and
the encoding of a body, are forwarded. -/
theorem unclean_requests : ¬ AllClean id (ascii "host") (plainRequest []) [[authorization]] ∧
    ¬ AllClean id (ascii "host") (plainRequest [(ascii "Connection", ascii "close"),
      (ascii "Connection", ascii "X-One"), (ascii "X-One", [])]) [] ∧
    ¬ AllClean id (ascii "host") ⟨ascii "host", [], .chunked none⟩ [] := by
  refine ⟨?_, ?_, ?_⟩ <;> decide +kernel

end LinkSocks
