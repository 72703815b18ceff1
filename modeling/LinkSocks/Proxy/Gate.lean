import LinkSocks.Go.Fixed
import LinkSocks.Go.Method
import LinkSocks.Proxy.Target
import Mathlib.Data.List.Basic

/-!
# The gate of the local proxy

SOCKS5 and HTTP clients share one port.  The first byte tells them apart, and then the
client has to name the configured user and password: a SOCKS5 client in the negotiation
in front of its request, an HTTP client in a header of its first request.

A connection is what its reads return, in chunks of any size.  What the relay does for
the client, a queue, a channel or a connect request, is recorded.  The handlers are
followed up to the connect request, and whether a write, a channel or a message goes
through is taken from a list of outcomes.
-/

namespace LinkSocks

open Go List

/-! ## Reading -/

/-- The bytes that are buffered, what the next reads of the connection return, and the
error behind them. -/
structure BufReader where
  buffered : Bytes
  chunks : List Bytes
  ending : Error

def errEOF : Error := .msg "EOF"
def errUnexpectedEOF : Error := .msg "unexpected EOF"
def errNoProgress : Error := .msg "multiple Read calls return no data or error"

namespace BufReader

/-- Everything that has not been read. -/
def stream (r : BufReader) : Bytes := r.buffered ++ r.chunks.flatten

/-- `fill` of an empty buffer: a limited number of reads may return nothing. -/
def fill (ending : Error) : ℕ → List Bytes → Except Error BufReader
  | 0, _ => .error errNoProgress
  | _ + 1, [] => .error ending
  | n + 1, [] :: rest => fill ending n rest
  | _ + 1, (b :: chunk) :: rest => .ok ⟨b :: chunk, rest, ending⟩

def peek (r : BufReader) : Except Error (UInt8 × BufReader) :=
  match r.buffered with
  | b :: _ => .ok (b, r)
  | [] => (fill r.ending 100 r.chunks).map fun r' => (r'.buffered.headD 0, r')

/-- `io.ReadFull` of `k` more bytes after `got`: each read takes what is buffered, or
else the next chunk. -/
def readFullFrom (ending : Error) : List Bytes → Bytes → ℕ → ℕ → Except Error (Bytes × BufReader)
  | [], buffered, got, k =>
    if k ≤ buffered.length then .ok (buffered.take k, ⟨buffered.drop k, [], ending⟩)
    else if 0 < got + buffered.length ∧ ending = errEOF then .error errUnexpectedEOF
    else .error ending
  | chunk :: rest, buffered, got, k =>
    if k ≤ buffered.length then .ok (buffered.take k, ⟨buffered.drop k, chunk :: rest, ending⟩)
    else
      (readFullFrom ending rest chunk (got + buffered.length) (k - buffered.length)).map
        fun (b, r) => (buffered ++ b, r)

def readFull (r : BufReader) (k : ℕ) : Except Error (Bytes × BufReader) :=
  readFullFrom r.ending r.chunks r.buffered 0 k

end BufReader

/-! ## The relay and its client -/

/-- What the relay does on behalf of the client. -/
inductive ProxyEffect where
  | queue (channelID : UUID)
  | openChannel (channelID : UUID)
  | connect (m : ConnectMessage)
  deriving DecidableEq

structure ProxySession where
  reader : BufReader
  /-- The 1024 bytes of `HandleSocksRequest`. -/
  buffer : Bytes
  /-- Whether the next calls succeed that are not decided here. -/
  outcomes : List Bool
  closed : Bool
  replies : List Bytes
  effects : List ProxyEffect

/-- The fields of a request that the proxy reads; `header` is `Header.Get`. -/
structure HTTPRequest where
  method : GoString
  host : GoString
  /-- Scheme and host of the URL. -/
  url : Option (GoString × GoString)
  header : GoString → GoString

/-- The libraries and the relay around the handlers. -/
structure ProxyEnv where
  target : TargetLib
  /-- `String` of a `net.IP`. -/
  ipString : Bytes → GoString
  /-- `http.ReadRequest`. -/
  readRequest : BufReader → Except Error (HTTPRequest × BufReader)
  /-- `base64.StdEncoding.DecodeString`. -/
  decodeString : GoString → Option Bytes
  equalFold : GoString → GoString → Bool
  /-- A response with the given status and body, as it is written. -/
  response : ℕ → String → Bytes
  checkEntryAccess : GoString → Int → Except Error Unit
  /-- `uuid.New()`. -/
  channelID : UUID
  /-- The error of a call that fails. -/
  failure : Error

abbrev ProxyMethod (α : Type) := ExceptT Error (StateM ProxySession) α

namespace ProxySession

/-- `io.ReadFull(conn, buffer[:k])`. -/
def readFull (k : ℕ) (text : String) : ProxyMethod Unit := ExceptT.mk fun s =>
  match s.reader.readFull k with
  | .ok (b, reader) => (.ok (), { s with reader := reader, buffer := b ++ s.buffer.drop k })
  | .error e => (.error (.wrap text e), { s with reader := ⟨[], [], s.reader.ending⟩ })

/-- `buffer[i]`. -/
def byteAt (i : ℕ) : ProxyMethod UInt8 := ExceptT.mk fun s => (.ok (s.buffer.getD i 0), s)

/-- `buffer[lo:hi]`. -/
def bytes (lo hi : ℕ) : ProxyMethod Bytes :=
  ExceptT.mk fun s => (.ok ((s.buffer.take hi).drop lo), s)

/-- Whether the next call goes through. -/
def succeeds : ProxyMethod Bool := ExceptT.mk fun s =>
  (.ok (s.outcomes.headD false), { s with outcomes := s.outcomes.tail })

def reply (b : Bytes) : ProxyMethod Unit := ExceptT.mk fun s =>
  (.ok (), { s with replies := s.replies ++ [b] })

def close : ProxyMethod Unit := ExceptT.mk fun s => (.ok (), { s with closed := true })

def record (effect : ProxyEffect) : ProxyMethod Unit := ExceptT.mk fun s =>
  (.ok (), { s with effects := s.effects ++ [effect] })

def write (E : ProxyEnv) (b : Bytes) (text : String) : ProxyMethod Unit := do
  if ← succeeds then reply b else throw (.wrap text E.failure)

/-- A write whose error is not looked at. -/
def tryWrite (b : Bytes) : ProxyMethod Unit := do
  if ← succeeds then reply b else pure ()

def sendFailureAndClose (replyCode : UInt8) : ProxyMethod Unit := do
  tryWrite [0x05, replyCode, 0x00, 0x01, 0x00, 0x00, 0x00, 0x00, 0x00, 0x00]
  close

/-! ## Requests -/

def openChannel (E : ProxyEnv) (onFailure : ProxyMethod Unit) : ProxyMethod Unit := do
  record (.openChannel E.channelID)
  if ← succeeds then pure ()
  else do
    onFailure
    throw (.wrap "open channel transport" E.failure)

def sendConnect (E : ProxyEnv) (m : ConnectMessage) (onFailure : ProxyMethod Unit)
    (text : String) : ProxyMethod Unit := do
  record (.connect m)
  if ← succeeds then pure ()
  else do
    onFailure
    throw (.wrap text E.failure)

/-- A read of an address; the client is told if it fails. -/
def readAddress (k : ℕ) (text : String) : ProxyMethod Unit :=
  tryCatch (readFull k text) fun e => do
    sendFailureAndClose 0x01
    throw e

def readTarget (E : ProxyEnv) (atyp : UInt8) : ProxyMethod (GoString × UInt16) := do
  if atyp = 0x01 then
    readAddress 6 "read IPv4 address error"
    return (E.ipString (← bytes 0 4), uint16Of (← bytes 4 6))
  else if atyp = 0x03 then
    readAddress 1 "read domain length error"
    let domainLen := (← byteAt 0).toNat
    readAddress (domainLen + 2) "read domain error"
    return (← bytes 0 domainLen, uint16Of (← bytes domainLen (domainLen + 2)))
  else if atyp = 0x04 then
    readAddress 18 "read IPv6 address error"
    return (E.ipString (← bytes 0 16), uint16Of (← bytes 16 18))
  else
    sendFailureAndClose 0x08
    throw (.msg ("unsupported address type: " ++ toString atyp.toNat))

/-- CONNECT, up to the connect request. -/
def socksConnect (E : ProxyEnv) (targetAddr : GoString) (targetPort : UInt16) :
    ProxyMethod Unit := do
  record (.queue E.channelID)
  match E.checkEntryAccess targetAddr targetPort.toNat with
  | .error e =>
    sendFailureAndClose 0x02
    throw e
  | .ok () =>
    openChannel E (sendFailureAndClose 0x04)
    sendConnect E ⟨tcp, targetAddr, targetPort.toNat, E.channelID, false⟩
      (sendFailureAndClose 0x04) "write connect request error"

/-- UDP ASSOCIATE, up to the connect request. -/
def socksAssociate (E : ProxyEnv) : ProxyMethod Unit := do
  if ← succeeds then
    record (.queue E.channelID)
    openChannel E (pure ())
    sendConnect E ⟨udp, [], 0, E.channelID, false⟩ (pure ()) "write UDP request error"
  else throw (.wrap "listen UDP error" E.failure)

/-- The first four bytes of a request; a client may also go away. -/
def readRequestHeader : ProxyMethod Bool := ExceptT.mk fun s =>
  match s.reader.readFull 4 with
  | .ok (b, reader) => (.ok true, { s with reader := reader, buffer := b ++ s.buffer.drop 4 })
  | .error e =>
    if e = errEOF then (.ok false, s)
    else (.error (.wrap "read request header error" e), s)

/-- `HandleSocksRequest` after the negotiation. -/
def socksRequest (E : ProxyEnv) : ProxyMethod Unit := do
  if ← readRequestHeader then
    if (← byteAt 0) ≠ 0x05 then
      sendFailureAndClose 0x01
      throw (.msg "invalid socks version in request")
    else
      let cmd ← byteAt 1
      let atyp ← byteAt 3
      let (targetAddr, targetPort) ← readTarget E atyp
      if cmd = 0x01 then socksConnect E targetAddr targetPort
      else if cmd = 0x03 then socksAssociate E
      else throw (.msg ("unsupported command: " ++ toString cmd.toNat))
  else pure ()

/-! ## SOCKS5 negotiation -/

/-- The client is told that it is rejected. -/
def reject (b : Bytes) (e : Error) : ProxyMethod Unit := do
  tryWrite b
  close
  throw e

/-- The same, where a write that fails is an error of its own. -/
def rejectOrFail (E : ProxyEnv) (b : Bytes) (text : String) (e : Error) : ProxyMethod Unit := do
  write E b text
  close
  throw e

/-- A length and as many bytes, one after the other into the same buffer. -/
def readField (lengthText text : String) : ProxyMethod Bytes := do
  readFull 1 lengthText
  let len ← byteAt 0
  readFull len.toNat text
  bytes 0 len.toNat

/-- The sub-negotiation of user name and password. -/
def authenticate (E : ProxyEnv) (username password : GoString) : ProxyMethod Unit := do
  write E [0x05, 0x02] "write auth response error"
  readFull 1 "read auth version error"
  if (← byteAt 0) ≠ 0x01 then reject [0x01, 0x01] (.msg "invalid auth version")
  else
    let user ← readField "read username length error" "read username error"
    let secret ← readField "read password length error" "read password error"
    if user ≠ username ∨ secret ≠ password then
      rejectOrFail E [0x01, 0x01] "write auth failure response error"
        (.msg "authentication failed")
    else write E [0x01, 0x00] "write auth success response error"

/-- `HandleSocksRequest` up to the request. -/
def negotiate (E : ProxyEnv) (username password : GoString) : ProxyMethod Unit := do
  readFull 2 "read version error"
  if (← byteAt 0) ≠ 0x05 then
    sendFailureAndClose 0x01
    throw (.msg "invalid socks version")
  else
    let nmethods ← byteAt 1
    if nmethods = 0 then
      sendFailureAndClose 0x01
      throw (.msg "no auth methods provided")
    else
      readFull nmethods.toNat "read auth methods error"
      let methods ← bytes 0 nmethods.toNat
      if username ≠ [] ∧ password ≠ [] then
        if 0x02 ∉ methods then
          rejectOrFail E [0x05, 0xFF] "write auth method error"
            (.msg "no username/password auth method")
        else authenticate E username password
      else write E [0x05, 0x00] "write auth response error"

def handleSocksRequest (E : ProxyEnv) (username password : GoString) : ProxyMethod Unit := do
  negotiate E username password
  socksRequest E

/-! ## HTTP -/

/-- `strings.SplitN(s, ":", 2)`, if it gives two parts. -/
def splitColon (text : Bytes) : Option (Bytes × Bytes) :=
  match text.dropWhile (· ≠ 58) with
  | [] => none
  | _ :: rest => some (text.takeWhile (· ≠ 58), rest)

def authenticateHTTPProxy (E : ProxyEnv) (request : HTTPRequest)
    (expectedUsername expectedPassword : GoString) : Except Error Unit :=
  let authorizationHeader := request.header (ascii "Proxy-Authorization")
  if authorizationHeader = [] then .error (.msg "HTTP proxy authentication required")
  else if ¬ (ascii "Basic ").isPrefixOf authorizationHeader then
    .error (.msg "unsupported HTTP proxy authentication scheme")
  else
    match E.decodeString (E.target.trimSpace (authorizationHeader.drop 6)) with
    | none => .error (.msg "invalid HTTP proxy authentication encoding")
    | some decoded =>
      match splitColon decoded with
      | none => .error (.msg "invalid HTTP proxy authentication credentials")
      | some credentials =>
        if credentials ≠ (expectedUsername, expectedPassword) then
          .error (.msg "HTTP proxy authentication failed")
        else .ok ()

def writeHTTPProxyError (E : ProxyEnv) (statusCode : ℕ) (message : String) : ProxyMethod Unit := do
  tryWrite (E.response statusCode message)
  close

/-- What `handleHTTPConnect` and `handleHTTPAbsoluteRequest` share, up to the connect
request. -/
def httpTarget (E : ProxyEnv) (rawHost : GoString) (defaultPort : Int) (invalid : String) :
    ProxyMethod Unit := do
  match parseHTTPProxyTarget E.target rawHost defaultPort with
  | .error e =>
    writeHTTPProxyError E 400 invalid
    throw e
  | .ok (targetHost, targetPort) =>
    match E.checkEntryAccess targetHost targetPort with
    | .error e =>
      writeHTTPProxyError E 403 "Destination blocked by access control"
      throw e
    | .ok () =>
      record (.queue E.channelID)
      openChannel E (writeHTTPProxyError E 502 "Failed to reach backend")
      sendConnect E ⟨tcp, targetHost, targetPort, E.channelID, false⟩
        (writeHTTPProxyError E 502 "Failed to reach backend") "write connect request error"

def handleHTTPConnect (E : ProxyEnv) (request : HTTPRequest) : ProxyMethod Unit :=
  httpTarget E request.host 443 "Invalid CONNECT target"

def handleHTTPAbsoluteRequest (E : ProxyEnv) (request : HTTPRequest) : ProxyMethod Unit := do
  match request.url with
  | none =>
    writeHTTPProxyError E 400 "Absolute-form request URL required"
    throw (.msg "HTTP proxy request missing absolute URL")
  | some (scheme, host) =>
    if host = [] then
      writeHTTPProxyError E 400 "Absolute-form request URL required"
      throw (.msg "HTTP proxy request missing absolute URL")
    else if E.equalFold scheme (ascii "https") then
      writeHTTPProxyError E 400 "Use CONNECT for HTTPS targets"
      throw (.msg "absolute-form HTTPS is not supported; use CONNECT")
    else httpTarget E host 80 "Invalid request target"

def readHTTPRequest (E : ProxyEnv) : ProxyMethod HTTPRequest := ExceptT.mk fun s =>
  match E.readRequest s.reader with
  | .ok (request, reader) => (.ok request, { s with reader := reader })
  | .error e => (.error (.wrap "read HTTP proxy request error" e), { s with closed := true })

/-- The check of `HandleHTTPProxyRequest`. -/
def checkHTTPProxy (E : ProxyEnv) (username password : GoString) (request : HTTPRequest) :
    ProxyMethod Unit := do
  if username ≠ [] ∧ password ≠ [] then
    match authenticateHTTPProxy E request username password with
    | .error e => reject (E.response 407 "Proxy authentication required") e
    | .ok () => pure ()
  else pure ()

def handleHTTPProxyRequest (E : ProxyEnv) (username password : GoString) : ProxyMethod Unit := do
  let request ← readHTTPRequest E
  checkHTTPProxy E username password request
  if request.method = ascii "CONNECT" then handleHTTPConnect E request
  else handleHTTPAbsoluteRequest E request

/-! ## The shared port -/

inductive LocalProxyProtocol where
  | socks5
  | http
  deriving DecidableEq

/-- The `%02x` form of a byte. -/
def hexByte (b : UInt8) : String :=
  String.ofList [Nat.digitChar (b.toNat / 16), Nat.digitChar (b.toNat % 16)]

def detectLocalProxyProtocol (firstByte : UInt8) : Except Error LocalProxyProtocol :=
  if firstByte = 0x05 then .ok .socks5
  else if firstByte ∈ ascii "CGPHDOT" then .ok .http
  else if 0x41 ≤ firstByte ∧ firstByte ≤ 0x5A then .ok .http
  else
    .error (.msg ("unrecognized local proxy protocol (first byte 0x" ++ hexByte firstByte ++ ")"))

/-- The protocol that the next byte stands for. -/
def detect : ProxyMethod LocalProxyProtocol := ExceptT.mk fun s =>
  match s.reader.peek with
  | .error e => (.error e, { s with closed := true })
  | .ok (firstByte, reader) =>
    match detectLocalProxyProtocol firstByte with
    | .error e => (.error e, { s with reader := reader, closed := true })
    | .ok protocol => (.ok protocol, { s with reader := reader })

def handleLocalProxyRequest (E : ProxyEnv) (username password : GoString) : ProxyMethod Unit := do
  match ← detect with
  | .socks5 => handleSocksRequest E username password
  | .http => handleHTTPProxyRequest E username password

def start (chunks : List Bytes) (ending : Error) (outcomes : List Bool) : ProxySession :=
  ⟨⟨[], chunks, ending⟩, List.replicate 1024 0, outcomes, false, [], []⟩

/-! ## Chunks do not matter -/

end ProxySession

/-- A full read returns the next bytes of the stream. -/
theorem BufReader.readFullFrom_ok {ending : Error} {chunks : List Bytes} {buffered b : Bytes}
    {got k : ℕ} {r : BufReader} (h : readFullFrom ending chunks buffered got k = .ok (b, r)) :
    b.length = k ∧ buffered ++ chunks.flatten = b ++ r.stream := by
  induction chunks generalizing buffered b got k with
  | nil =>
    rw [readFullFrom] at h
    split_ifs at h with hle
    cases h
    refine ⟨by rw [length_take, Nat.min_eq_left hle], ?_⟩
    simp [stream]
  | cons chunk rest ih =>
    rw [readFullFrom] at h
    split_ifs at h with hle
    · cases h
      refine ⟨by rw [length_take, Nat.min_eq_left hle], ?_⟩
      simp [stream, ← append_assoc]
    · cases hrest : readFullFrom ending rest chunk (got + buffered.length)
          (k - buffered.length) with
      | error e =>
        rw [hrest] at h
        cases h
      | ok result =>
        rw [hrest] at h
        cases h
        obtain ⟨hlength, hstream⟩ := ih hrest
        refine ⟨?_, ?_⟩
        · rw [length_append]
          omega
        · rw [flatten_cons, hstream, append_assoc]

theorem BufReader.readFull_ok {r r' : BufReader} {k : ℕ} {b : Bytes}
    (h : r.readFull k = .ok (b, r')) : b.length = k ∧ r.stream = b ++ r'.stream := readFullFrom_ok h

theorem BufReader.fill_ok {ending : Error} {n : ℕ} {chunks : List Bytes} {r : BufReader}
    (h : fill ending n chunks = .ok r) :
    r.stream = chunks.flatten ∧ r.stream.head? = some (r.buffered.headD 0) := by
  induction n, chunks using fill.induct with
  | case1 => cases h
  | case2 => cases h
  | case3 n rest ih =>
    exact ih h
  | case4 n b chunk rest =>
    cases h
    exact ⟨rfl, rfl⟩

theorem BufReader.peek_ok {r r' : BufReader} {b : UInt8} (h : r.peek = .ok (b, r')) :
    r'.stream = r.stream ∧ r.stream.head? = some b := by
  rw [peek] at h
  split at h
  · rename_i b' rest hbuffered
    cases h
    refine ⟨rfl, ?_⟩
    rw [stream, hbuffered]
    rfl
  · rename_i hbuffered
    cases hfill : fill r.ending 100 r.chunks with
    | error e =>
      rw [hfill] at h
      cases h
    | ok filled =>
      rw [hfill] at h
      cases h
      obtain ⟨hstream, hhead⟩ := fill_ok hfill
      have hr : r.stream = r'.stream := by rw [hstream, stream, hbuffered, nil_append]
      exact ⟨hr.symm, hr ▸ hhead⟩

/-! ## Nothing is done before the gate -/

namespace ProxySession

section Effects

variable {E : ProxyEnv} {k : ℕ} {text : String} {b : Bytes} {s s' : ProxySession}

theorem run_readFull (k : ℕ) (text : String) (s : ProxySession) :
    (∃ b reader, b.length = k ∧ s.reader.stream = b ++ reader.stream ∧ (readFull k text).run s =
        (.ok (), { s with reader := reader, buffer := b ++ s.buffer.drop k })) ∨
    ∃ e, (readFull k text).run s = (.error e, { s with reader := ⟨[], [], s.reader.ending⟩ }) := by
  cases h : s.reader.readFull k with
  | error e => exact .inr ⟨.wrap text e, by simp only [readFull, ExceptT.run_mk, h]⟩
  | ok result =>
    obtain ⟨b, reader⟩ := result
    obtain ⟨hlength, hstream⟩ := BufReader.readFull_ok h
    exact .inl ⟨b, reader, hlength, hstream, by simp only [readFull, ExceptT.run_mk, h]⟩

theorem preserves_readFull : Preserves effects (readFull k text) := by
  intro s
  obtain ⟨b, reader, -, -, hrun⟩ | ⟨e, hrun⟩ := run_readFull k text s
  · rw [hrun]
  · rw [hrun]

theorem preserves_byteAt (i : ℕ) : Preserves effects (byteAt i) := fun _ => rfl

theorem preserves_bytes (lo hi : ℕ) : Preserves effects (bytes lo hi) := fun _ => rfl

theorem preserves_succeeds : Preserves effects succeeds := fun _ => rfl

theorem preserves_reply (b : Bytes) : Preserves effects (reply b) := fun _ => rfl

theorem preserves_close : Preserves effects close := fun _ => rfl

theorem preserves_write : Preserves effects (write E b text) :=
  preserves_succeeds.bind fun _ => .ite (preserves_reply b) (.throw _)

theorem preserves_tryWrite : Preserves effects (tryWrite b) :=
  preserves_succeeds.bind fun _ => .ite (preserves_reply b) (.pure _)

theorem preserves_sendFailureAndClose {replyCode : UInt8} :
    Preserves effects (sendFailureAndClose replyCode) :=
  preserves_tryWrite.bind fun _ => preserves_close

theorem preserves_reject {e : Error} : Preserves effects (reject b e) :=
  preserves_tryWrite.bind fun _ => preserves_close.bind fun _ => .throw _

theorem preserves_rejectOrFail {e : Error} : Preserves effects (rejectOrFail E b text e) :=
  preserves_write.bind fun _ => preserves_close.bind fun _ => .throw _

theorem preserves_readField {lengthText : String} : Preserves effects (readField lengthText text) :=
  preserves_readFull.bind fun _ => (preserves_byteAt 0).bind fun _ =>
    preserves_readFull.bind fun _ => preserves_bytes _ _

theorem preserves_authenticate (username password : GoString) :
    Preserves effects (authenticate E username password) := by
  refine preserves_write.bind fun _ => preserves_readFull.bind fun _ =>
    (preserves_byteAt 0).bind fun _ => .ite preserves_reject ?_
  exact preserves_readField.bind fun _ => preserves_readField.bind fun _ =>
    .ite preserves_rejectOrFail preserves_write

/-- Whatever the negotiation comes to, nothing was done for the client in it. -/
theorem preserves_negotiate (username password : GoString) :
    Preserves effects (negotiate E username password) := by
  refine preserves_readFull.bind fun _ => (preserves_byteAt 0).bind fun _ => .ite ?_ ?_
  · exact preserves_sendFailureAndClose.bind fun _ => .throw _
  · refine (preserves_byteAt 1).bind fun _ => .ite ?_ ?_
    · exact preserves_sendFailureAndClose.bind fun _ => .throw _
    · refine preserves_readFull.bind fun _ => (preserves_bytes _ _).bind fun _ => ?_
      refine .ite (.ite preserves_rejectOrFail ?_) preserves_write
      exact preserves_authenticate username password

theorem preserves_readHTTPRequest : Preserves effects (readHTTPRequest E) := by
  intro s
  cases h : E.readRequest s.reader with
  | error e | ok result => simp only [readHTTPRequest, ExceptT.run_mk, h]

theorem preserves_checkHTTPProxy (username password : GoString) (request : HTTPRequest) :
    Preserves effects (checkHTTPProxy E username password request) := by
  refine .ite ?_ (.pure _)
  cases authenticateHTTPProxy E request username password with
  | error e => exact preserves_reject
  | ok u => exact .pure _

theorem preserves_detect : Preserves effects detect := by
  intro s
  cases hpeek : s.reader.peek with
  | error e => simp only [detect, ExceptT.run_mk, hpeek]
  | ok result =>
    cases hdetect : detectLocalProxyProtocol result.1 with
    | error e | ok protocol =>
      simp only [detect, ExceptT.run_mk, hpeek, hdetect]

end Effects

/-! ## Credentials -/

/-- The bytes begin with a negotiation that offers and passes the sub-negotiation of user
name and password. -/
def SocksCredentials (username password : GoString) (stream : Bytes) : Prop :=
  ∃ methods rest : Bytes, stream = [0x05, UInt8.ofNat methods.length] ++ methods ++
      [0x01, UInt8.ofNat username.length] ++ username ++
      [UInt8.ofNat password.length] ++ password ++ rest ∧
    methods.length < 256 ∧ username.length < 256 ∧ password.length < 256 ∧ 0x02 ∈ methods

/-- The first request of the stream has a header of the `Basic` scheme with user name and
password. -/
def HTTPCredentials (E : ProxyEnv) (username password : GoString) (stream : Bytes) : Prop :=
  ∃ reader reader' request text, reader.stream = stream ∧
    E.readRequest reader = .ok (request, reader') ∧
    request.header (ascii "Proxy-Authorization") = ascii "Basic " ++ text ∧
    E.decodeString (E.target.trimSpace text) = some (username ++ [58] ++ password)

section Credentials

variable {E : ProxyEnv} {k : ℕ} {text : String} {b : Bytes} {s s' : ProxySession}
  {username password : GoString} {u : Unit} {request : HTTPRequest}

theorem readFull_ok (h : (readFull k text).run s = (.ok u, s')) :
    ∃ b : Bytes, b.length = k ∧ s.reader.stream = b ++ s'.reader.stream ∧
      s'.buffer.take k = b ∧ (∀ i < k, s'.buffer.getD i 0 = b.getD i 0) := by
  obtain ⟨b, reader, hlength, hstream, hrun⟩ | ⟨e, hrun⟩ := run_readFull k text s
  · cases hrun.symm.trans h
    refine ⟨b, hlength, hstream, take_left' hlength, ?_⟩
    intro i hi
    exact getD_append _ _ _ _ (by omega)
  · cases hrun.symm.trans h

theorem readByte_ok (h : (readFull 1 text).run s = (.ok u, s')) :
    s.reader.stream = s'.buffer.getD 0 0 :: s'.reader.stream := by
  obtain ⟨b, hlength, hstream, -, hbyte⟩ := readFull_ok h
  obtain ⟨x, rfl⟩ := length_eq_one_iff.mp hlength
  rw [hbyte 0 Nat.zero_lt_one]
  exact hstream

theorem write_ok (h : (write E b text).run s = (.ok u, s')) : s'.reader = s.reader := by
  obtain ⟨ok, s₁, hsucceeds, h⟩ := ok_of_run_bind h
  cases hsucceeds
  split at h <;> cases h
  rfl

/-- A field is a length byte and as many bytes. -/
theorem readField_ok {lengthText : String} (h : (readField lengthText text).run s = (.ok b, s')) :
    b.length < 256 ∧ s.reader.stream = [UInt8.ofNat b.length] ++ b ++ s'.reader.stream := by
  obtain ⟨u, s₁, hlen, h⟩ := ok_of_run_bind h
  obtain ⟨len, s₂, hbyte, h⟩ := ok_of_run_bind h
  cases hbyte
  obtain ⟨u, s₃, hread, h⟩ := ok_of_run_bind h
  cases h
  obtain ⟨b, hlength, hstream, hbytes, -⟩ := readFull_ok hread
  change (s'.buffer.take _).length < 256 ∧ _ = [UInt8.ofNat (s'.buffer.take _).length] ++
    s'.buffer.take _ ++ _
  rw [hbytes, hlength, readByte_ok hlen, hstream]
  exact ⟨UInt8.toNat_lt _, by simp⟩

/-- The sub-negotiation returns for the configured user name and password only. -/
theorem authenticate_ok (h : (authenticate E username password).run s = (.ok u, s')) :
    username.length < 256 ∧ password.length < 256 ∧
      ∃ rest, s.reader.stream = [0x01, UInt8.ofNat username.length] ++ username ++
        [UInt8.ofNat password.length] ++ password ++ rest := by
  obtain ⟨u, s₁, hwrite, h⟩ := ok_of_run_bind h
  obtain ⟨u, s₂, hversion, h⟩ := ok_of_run_bind h
  obtain ⟨version, s₃, hbyte, h⟩ := ok_of_run_bind h
  cases hbyte
  split at h
  · obtain ⟨u, s₄, -, h⟩ := ok_of_run_bind h
    cases h
  · rename_i hone
    obtain ⟨user, s₄, huser, h⟩ := ok_of_run_bind h
    obtain ⟨secret, s₅, hsecret, h⟩ := ok_of_run_bind h
    split at h
    · obtain ⟨u, s₆, -, h⟩ := ok_of_run_bind h
      cases h
    · rename_i hsame
      obtain ⟨rfl, rfl⟩ : user = username ∧ secret = password := by
        simpa only [not_or, not_not] using hsame
      obtain ⟨hulen, hu⟩ := readField_ok huser
      obtain ⟨hplen, hp⟩ := readField_ok hsecret
      refine ⟨hulen, hplen, s₅.reader.stream, ?_⟩
      rw [← write_ok hwrite, readByte_ok hversion, not_not.mp hone, hu, hp]
      simp

/-- With a user name and a password the negotiation returns for these only. -/
theorem negotiate_ok (husername : username ≠ []) (hpassword : password ≠ [])
    (h : (negotiate E username password).run s = (.ok u, s')) :
    SocksCredentials username password s.reader.stream := by
  obtain ⟨u, s₁, hread, h⟩ := ok_of_run_bind h
  obtain ⟨version, s₂, hbyte, h⟩ := ok_of_run_bind h
  cases hbyte
  split at h
  · obtain ⟨u, s₃, -, h⟩ := ok_of_run_bind h
    cases h
  · rename_i hfive
    obtain ⟨nmethods, s₃, hbyte, h⟩ := ok_of_run_bind h
    cases hbyte
    split at h
    · obtain ⟨u, s₄, -, h⟩ := ok_of_run_bind h
      cases h
    · obtain ⟨u, s₄, hmethods, h⟩ := ok_of_run_bind h
      obtain ⟨methods, s₅, hbytes, h⟩ := ok_of_run_bind h
      cases hbytes
      rw [if_pos ⟨husername, hpassword⟩] at h
      split at h
      · obtain ⟨u, s₆, -, h⟩ := ok_of_run_bind h
        cases h
      · rename_i htwo
        obtain ⟨hulen, hplen, rest, hrest⟩ := authenticate_ok h
        obtain ⟨front, hfront, hstream, -, hat⟩ := readFull_ok hread
        obtain ⟨methods, hlength, hmore, htake, -⟩ := readFull_ok hmethods
        obtain ⟨x, y, rfl⟩ := length_eq_two.mp hfront
        have hx : x = 5 := (hat 0 (by decide)).symm.trans (not_not.mp hfive)
        have hy : s₁.buffer.getD 1 0 = y := hat 1 (by decide)
        rw [htake] at htwo
        rw [hy] at hlength
        refine ⟨methods, rest, ?_, ?_, hulen, hplen, not_not.mp htwo⟩
        · rw [hstream, hmore, hrest, hx, hlength]
          simp
        · rw [hlength]
          exact y.toNat_lt

theorem splitColon_eq_some {text : Bytes} {credentials : Bytes × Bytes}
    (h : splitColon text = some credentials) :
    text = credentials.1 ++ [58] ++ credentials.2 := by
  rw [splitColon] at h
  split at h <;> cases h
  rename_i c rest hdrop
  have hc : c = 58 := by
    have hnot := head?_dropWhile_not (· ≠ (58 : UInt8)) text
    rw [hdrop] at hnot
    simpa using hnot
  calc text = text.takeWhile (· ≠ 58) ++ text.dropWhile (· ≠ 58) :=
        takeWhile_append_dropWhile.symm
    _ = text.takeWhile (· ≠ 58) ++ [58] ++ rest := by
        rw [hdrop, hc, append_assoc]
        rfl

/-- A request that is let in carries the credentials. -/
theorem authenticateHTTPProxy_ok (h : authenticateHTTPProxy E request username password = .ok u) :
    ∃ text, request.header (ascii "Proxy-Authorization") = ascii "Basic " ++ text ∧
      E.decodeString (E.target.trimSpace text) = some (username ++ [58] ++ password) := by
  simp only [authenticateHTTPProxy] at h
  split_ifs at h with hempty hbasic
  split at h
  · cases h
  · rename_i decoded hdecoded
    split at h
    · cases h
    · rename_i credentials hsplit
      split_ifs at h with hsame
      obtain ⟨text, htext⟩ := isPrefixOf_iff_prefix.mp hbasic
      refine ⟨text, htext.symm, ?_⟩
      have hdrop : (request.header (ascii "Proxy-Authorization")).drop 6 = text := by
        rw [← htext]
        exact drop_left' rfl
      rw [← hdrop, hdecoded, splitColon_eq_some hsplit, not_not.mp hsame]

theorem checkHTTPProxy_ok (husername : username ≠ []) (hpassword : password ≠ [])
    (h : (checkHTTPProxy E username password request).run s = (.ok u, s')) :
    authenticateHTTPProxy E request username password = .ok () := by
  rw [checkHTTPProxy, if_pos ⟨husername, hpassword⟩] at h
  split at h
  · obtain ⟨u, s₁, -, h⟩ := ok_of_run_bind h
    cases h
  · assumption

theorem readHTTPRequest_ok (h : (readHTTPRequest E).run s = (.ok request, s')) :
    ∃ reader, E.readRequest s.reader = .ok (request, reader) := by
  cases hread : E.readRequest s.reader with
  | error e =>
    simp only [readHTTPRequest, ExceptT.run_mk, hread] at h
    cases h
  | ok result =>
    simp only [readHTTPRequest, ExceptT.run_mk, hread] at h
    cases h
    exact ⟨result.2, rfl⟩

theorem detectLocalProxyProtocol_eq_socks5 {b : UInt8} :
    detectLocalProxyProtocol b = .ok .socks5 ↔ b = 0x05 := by
  rw [detectLocalProxyProtocol]
  split_ifs with hfive
  · exact iff_of_true rfl hfive
  · exact iff_of_false nofun hfive
  · exact iff_of_false nofun hfive
  · exact iff_of_false nofun hfive

/-- The protocol is that of the first byte, and nothing was taken from the stream. -/
theorem detect_ok {protocol : LocalProxyProtocol} (h : detect.run s = (.ok protocol, s')) :
    s'.reader.stream = s.reader.stream ∧
      (protocol = .socks5 ↔ s.reader.stream.head? = some 0x05) := by
  cases hpeek : s.reader.peek with
  | error e =>
    simp only [detect, ExceptT.run_mk, hpeek] at h
    cases h
  | ok result =>
    obtain ⟨hstream, hhead⟩ := BufReader.peek_ok hpeek
    cases hdetect : detectLocalProxyProtocol result.1 with
    | error e =>
      simp only [detect, ExceptT.run_mk, hpeek, hdetect] at h
      cases h
    | ok found =>
      simp only [detect, ExceptT.run_mk, hpeek, hdetect] at h
      cases h
      refine ⟨hstream, ?_⟩
      rw [hhead, Option.some_inj, ← detectLocalProxyProtocol_eq_socks5, hdetect, Except.ok.injEq]

end Credentials

/-- With a user name and a password nothing is done for a client, however its bytes are cut
into chunks and whatever the other calls come to, unless its stream begins with the two
in a SOCKS5 negotiation, or is HTTP and its first request has them in the header. -/
theorem effects_authenticated (E : ProxyEnv) (username password : GoString)
    (husername : username ≠ []) (hpassword : password ≠ []) (chunks : List Bytes)
    (ending : Error) (outcomes : List Bool)
    (heffects : ((handleLocalProxyRequest E username password).run
      (start chunks ending outcomes)).2.effects ≠ []) :
    (chunks.flatten.head? = some 0x05 ∧ SocksCredentials username password chunks.flatten) ∨
    (chunks.flatten.head? ≠ some 0x05 ∧ HTTPCredentials E username password chunks.flatten) := by
  obtain ⟨protocol, s, hdetect, -, heffects⟩ := preserves_detect.returns_of_ne heffects
  obtain ⟨hstream, hprotocol⟩ := detect_ok hdetect
  change s.reader.stream = chunks.flatten at hstream
  cases protocol with
  | socks5 =>
    obtain ⟨u, s₁, hnegotiate, -, -⟩ :=
      (preserves_negotiate username password).returns_of_ne heffects
    refine .inl ⟨hprotocol.mp rfl, ?_⟩
    rw [← hstream]
    exact negotiate_ok husername hpassword hnegotiate
  | http =>
    obtain ⟨request, s₁, hrequest, -, heffects⟩ := preserves_readHTTPRequest.returns_of_ne heffects
    obtain ⟨u, s₂, hcheck, -, -⟩ :=
      (preserves_checkHTTPProxy username password request).returns_of_ne heffects
    obtain ⟨reader, hread⟩ := readHTTPRequest_ok hrequest
    obtain ⟨text, hheader, hdecode⟩ :=
      authenticateHTTPProxy_ok (checkHTTPProxy_ok husername hpassword hcheck)
    refine .inr ⟨fun hfive => ?_, s.reader, reader, request, text, hstream, hread, hheader, hdecode⟩
    cases hprotocol.mpr hfive

/-! ## Two clients -/

/-- A library whose requests are one letter and the header, without any encoding. -/
def bareProxyEnv : ProxyEnv where
  target := {
    trimSpace := id
    toLower := id
    urlParse := fun text => .ok ([], text)
    splitHostPort := fun text => .ok (text, [])
    atoi := fun _ => .ok 80
    quote := fun _ => "" }
  ipString := id
  readRequest := fun r =>
    .ok (⟨ascii "CONNECT", ascii "host", none, fun _ => r.stream.drop 1⟩, ⟨[], [], r.ending⟩)
  decodeString := some
  equalFold := fun a b => decide (a = b)
  response := fun _ _ => []
  checkEntryAccess := fun _ _ => .ok ()
  channelID := uuidOf 7
  failure := .msg "failure"

/-- A SOCKS5 client for `me` with `pw`, in uneven chunks, that asks for port 80 of
`127.0.0.1`. -/
def socksChunks : List Bytes :=
  [[], [5], [2, 0], [2, 1, 2] ++ ascii "m", ascii "e" ++ [2] ++ ascii "pw" ++ [5, 1, 0],
    [1, 127, 0, 0, 1, 0, 80]]

def httpChunks : List Bytes := [ascii "CBasic m", ascii "e:pw"]

/-- What is done for a client with the user name `me` and the password `pw`. -/
def effectsFor (chunks : List Bytes) : List ProxyEffect :=
  ((handleLocalProxyRequest bareProxyEnv (ascii "me") (ascii "pw")).run
    (start chunks errEOF (List.replicate 9 true))).2.effects

theorem both_clients_pass : effectsFor socksChunks = [.queue (uuidOf 7), .openChannel (uuidOf 7),
      .connect ⟨tcp, [127, 0, 0, 1], 80, uuidOf 7, false⟩] ∧
    SocksCredentials (ascii "me") (ascii "pw") socksChunks.flatten ∧
    effectsFor httpChunks = [.queue (uuidOf 7), .openChannel (uuidOf 7),
      .connect ⟨tcp, ascii "host", 80, uuidOf 7, false⟩] ∧
    HTTPCredentials bareProxyEnv (ascii "me") (ascii "pw") httpChunks.flatten := by
  refine ⟨?socks, ?_, ?http, ?_⟩
  · decide +kernel
  · obtain ⟨-, h⟩ | ⟨hfive, -⟩ := effects_authenticated bareProxyEnv (ascii "me") (ascii "pw")
      (by decide) (by decide) socksChunks errEOF (replicate 9 true)
      (ne_of_eq_of_ne ?socks (by simp))
    · exact h
    · exact absurd rfl hfive
  · decide +kernel
  · obtain ⟨hfive, -⟩ | ⟨-, h⟩ := effects_authenticated bareProxyEnv (ascii "me") (ascii "pw")
      (by decide) (by decide) httpChunks errEOF (replicate 9 true)
      (ne_of_eq_of_ne ?http (by simp))
    · exact absurd hfive (by decide)
    · exact h

end ProxySession

end LinkSocks
