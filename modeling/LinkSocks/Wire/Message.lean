import LinkSocks.Go.Hex

/-!
# Protocol messages

The message types of the relay protocol, the protocol version byte, and the
third-party code the codec calls: identifiers, JSON and gzip.  The message
types follow the Go structures field by field; a Go `string` is a byte
sequence, a Go `int` an integer, and a `[]byte` a list of bytes.
-/

namespace LinkSocks

open Go List

/-! ## Protocol versions -/

def protocolVersionV1 : UInt8 := 0x04
def protocolVersionV2 : UInt8 := 0x20

/-- The generation stamped on frames sent by this build. -/
def protocolVersion : UInt8 := protocolVersionV2

/-- The high nibble of a version byte. -/
def protocolMajor (v : UInt8) : UInt8 := (v >>> 4) &&& 0x0F

def protocolMinor (v : UInt8) : UInt8 := v &&& 0x0F

/-- The newest minor version this build knows for a generation. -/
def protocolKnownMinorForMajor (major : UInt8) : UInt8 × Bool :=
  if major = protocolMajor protocolVersionV2 then (protocolMinor protocolVersionV2, true)
  else if major = protocolMajor protocolVersionV1 then (protocolMinor protocolVersionV1, true)
  else (0, false)

/-- The peer speaks the newest minor version known for its generation. -/
def protocolMinorIsCurrent (v : UInt8) : Bool :=
  (protocolKnownMinorForMajor (protocolMajor v)).2 &&
    protocolMinor v == (protocolKnownMinorForMajor (protocolMajor v)).1

/-- This build can parse frames of the version's generation. -/
def protocolMajorSupported (v : UInt8) : Bool :=
  protocolMajor v == protocolMajor protocolVersion ||
    protocolMajor v == protocolMajor protocolVersionV1

theorem protocolMajorSupported_iff (v : UInt8) : protocolMajorSupported v = true ↔
      protocolMajor v = 0 ∨ protocolMajor v = 2 := by
  have h2 : protocolMajor protocolVersion = 2 := by decide
  have h0 : protocolMajor protocolVersionV1 = 0 := by decide
  simp only [protocolMajorSupported, h2, h0, Bool.or_eq_true, beq_iff_eq]
  exact Or.comm

/-- `%02X`. -/
def upperHexByte (v : UInt8) : String :=
  String.ofList (((Nat.toDigits 16 v.toNat).map Char.toUpper).leftpad 2 '0')

/-- `0x%02X (major=%d minor=%d)`. -/
def protocolVersionDebugString (v : UInt8) : String :=
  "0x" ++ upperHexByte v ++ " (major=" ++ toString (protocolMajor v) ++
    " minor=" ++ toString (protocolMinor v) ++ ")"

def errUnsupportedProtocolMajor : Error := .msg "unsupported protocol major version"

/-- Upper bound of a received message and of a decompressed payload. -/
def maxWebSocketMessageSize : ℕ := 32 * 1024 * 1024

/-! ## Type bytes -/

def binaryTypeAuth : UInt8 := 0x01
def binaryTypeAuthResponse : UInt8 := 0x02
def binaryTypeConnect : UInt8 := 0x03
def binaryTypeData : UInt8 := 0x04
def binaryTypeConnectResponse : UInt8 := 0x05
def binaryTypeDisconnect : UInt8 := 0x06
def binaryTypeConnector : UInt8 := 0x07
def binaryTypeConnectorResponse : UInt8 := 0x08
def binaryTypeLog : UInt8 := 0x09
def binaryTypePartners : UInt8 := 0x0A
def binaryTypeDirectCapabilities : UInt8 := 0x0B
def binaryTypeDirectRendezvous : UInt8 := 0x0C
def binaryTypeDirectStatus : UInt8 := 0x0D
def binaryTypeChannelBind : UInt8 := 0x0E
def binaryTypeChannelMigrate : UInt8 := 0x0F
def binaryTypeChannelMigrateAck : UInt8 := 0x10
def binaryTypeChannelDataAck : UInt8 := 0x11
def binaryTypeWebRegister : UInt8 := 0x12
def binaryTypeWebRegisterResponse : UInt8 := 0x13
def binaryTypeWebRequest : UInt8 := 0x14
def binaryTypeWebResponse : UInt8 := 0x15
def binaryTypeWebData : UInt8 := 0x16
def binaryTypeWebCancel : UInt8 := 0x17
def binaryTypeWebRotate : UInt8 := 0x18
def binaryTypeWebSocketFrame : UInt8 := 0x19
def binaryTypeChannelOpen : UInt8 := 0x1A
def binaryTypeSealed : UInt8 := 0x1B

def dataCompressionGzip : UInt8 := 0x01

/-! ## Identifiers -/

/-- A `uuid.UUID`: an array of sixteen bytes. -/
structure UUID where
  bytes : Bytes
  length_eq : bytes.length = 16
  deriving DecidableEq

@[simp] theorem UUID.length_bytes (u : UUID) : u.bytes.length = 16 := u.length_eq

def UUID.nil : UUID := ⟨List.replicate 16 0, by decide⟩

/-- The identifier that repeats one byte. -/
def uuidOf (b : UInt8) : UUID := ⟨List.replicate 16 b, List.length_replicate⟩

/-- Remove the hyphens of a textual identifier and decode the rest. -/
def uuidToBytes (text : GoString) : Except Error Bytes :=
  if (text.filter (· ≠ 45)).length ≠ 32 then .error (.msg "invalid UUID length")
  else hexDecode (text.filter (· ≠ 45))

/-- The hyphenated hexadecimal form of sixteen bytes. -/
def bytesToUUID (b : Bytes) : GoString :=
  if b.length ≠ 16 then []
  else
    let text := hexEncode b
    text.take 8 ++ 45 :: ((text.drop 8).take 4 ++ 45 ::
      ((text.drop 12).take 4 ++ 45 :: ((text.drop 16).take 4 ++ 45 :: text.drop 20)))

/-- The operations the codec uses of the identifier package. -/
structure UUIDLib where
  string : UUID → GoString
  parse : GoString → Except Error UUID
  fromBytes : Bytes → Except Error UUID

/-- What the package documents: `String` gives the canonical hyphenated form,
`Parse` reads it, and `FromBytes` accepts every sixteen-byte slice. -/
structure UUIDLib.Lawful (L : UUIDLib) : Prop where
  string_eq : ∀ u, L.string u = bytesToUUID u.bytes
  parse_canonical : ∀ u, L.parse (bytesToUUID u.bytes) = .ok u
  fromBytes_bytes : ∀ u, L.fromBytes u.bytes = .ok u

/-! ## Message types -/

/-- An authentication request; `instanceID` is the field `Instance`. -/
structure AuthMessage where
  token : GoString
  reverse : Bool
  instanceID : UUID
  deriving DecidableEq

structure AuthResponseMessage where
  success : Bool
  error : GoString
  token : GoString
  deriving DecidableEq

structure ConnectMessage where
  protocol : GoString
  address : GoString
  port : Int
  channelID : UUID
  resume : Bool
  deriving DecidableEq

structure ConnectResponseMessage where
  success : Bool
  error : GoString
  channelID : UUID
  deriving DecidableEq

structure DataMessage where
  protocol : GoString
  channelID : UUID
  data : Bytes
  compression : UInt8
  address : GoString
  port : Int
  targetAddr : GoString
  targetPort : Int
  sequence : UInt64
  deriving DecidableEq

structure DisconnectMessage where
  channelID : UUID
  error : GoString
  deriving DecidableEq

structure ConnectorMessage where
  channelID : UUID
  connectorToken : GoString
  operation : GoString
  deriving DecidableEq

structure ConnectorResponseMessage where
  success : Bool
  error : GoString
  channelID : UUID
  connectorToken : GoString
  deriving DecidableEq

structure LogMessage where
  level : GoString
  msg : GoString
  deriving DecidableEq

structure PartnersMessage where
  count : Int
  deriving DecidableEq

structure DirectCandidate where
  addr : GoString
  port : Int
  kind : GoString
  deriving DecidableEq

structure DirectMetrics where
  rttMs : Int
  loss : Int
  reason : GoString
  deriving DecidableEq

structure DirectCapabilitiesMessage where
  sessionID : UUID
  candidates : List DirectCandidate
  discoveries : List GoString
  publicKey : Bytes
  protocolVersion : UInt8
  deriving DecidableEq

structure DirectRendezvousMessage where
  sessionID : UUID
  remoteSessionID : UUID
  candidates : List DirectCandidate
  publicKey : Bytes
  protocolVersion : UInt8
  deriving DecidableEq

structure DirectStatusMessage where
  sessionID : UUID
  status : GoString
  metrics : DirectMetrics
  deriving DecidableEq

structure ChannelBindMessage where
  channelID : UUID
  protocol : GoString
  peerSessionID : UUID
  deriving DecidableEq

structure ChannelMigrateMessage where
  channelID : UUID
  reason : GoString
  deriving DecidableEq

structure ChannelMigrateAckMessage where
  channelID : UUID
  success : Bool
  error : GoString
  deriving DecidableEq

structure ChannelDataAckMessage where
  channelID : UUID
  sequence : UInt64
  deriving DecidableEq

/-- Asks the relay to bind an encrypted channel; carries no destination. -/
structure ChannelOpenMessage where
  channelID : UUID
  resume : Bool
  deriving DecidableEq

/-- One end-to-end encrypted frame of a channel. -/
structure SealedMessage where
  channelID : UUID
  data : Bytes
  deriving DecidableEq

structure WebBackend where
  url : GoString
  weight : Int
  deriving DecidableEq

structure WebRegisterMessage where
  host : GoString
  backends : List WebBackend
  insecure : Bool
  rotate : Bool
  label : GoString
  deriving DecidableEq

structure WebRegisterResponseMessage where
  success : Bool
  error : GoString
  host : GoString
  url : GoString
  temporary : Bool
  expiresAt : Int
  rotateSeconds : Int
  backendCount : Int
  owner : GoString
  deriving DecidableEq

structure WebRequestMessage where
  channelID : UUID
  method : GoString
  path : GoString
  headers : List (GoString × GoString)
  hasBody : Bool
  bodyLength : Int
  clientIP : GoString
  scheme : GoString
  host : GoString
  webSocket : Bool
  deriving DecidableEq

structure WebResponseMessage where
  channelID : UUID
  status : Int
  headers : List (GoString × GoString)
  bodyLength : Int
  deriving DecidableEq

/-- A piece of a web body; `isEnd` is the field `End`. -/
structure WebDataMessage where
  channelID : UUID
  data : Bytes
  isEnd : Bool
  deriving DecidableEq

structure WebCancelMessage where
  channelID : UUID
  reason : GoString
  code : Int
  deriving DecidableEq

structure WebSocketFrameMessage where
  channelID : UUID
  opcode : UInt8
  data : Bytes
  deriving DecidableEq

structure WebRotateMessage where
  host : GoString
  url : GoString
  expiresAt : Int
  rotateSeconds : Int
  deriving DecidableEq

/-- A message of any type, as carried by one frame. -/
inductive BaseMessage where
  | auth (m : AuthMessage)
  | authResponse (m : AuthResponseMessage)
  | connect (m : ConnectMessage)
  | connectResponse (m : ConnectResponseMessage)
  | data (m : DataMessage)
  | disconnect (m : DisconnectMessage)
  | connector (m : ConnectorMessage)
  | connectorResponse (m : ConnectorResponseMessage)
  | log (m : LogMessage)
  | partners (m : PartnersMessage)
  | directCapabilities (m : DirectCapabilitiesMessage)
  | directRendezvous (m : DirectRendezvousMessage)
  | directStatus (m : DirectStatusMessage)
  | channelBind (m : ChannelBindMessage)
  | channelMigrate (m : ChannelMigrateMessage)
  | channelMigrateAck (m : ChannelMigrateAckMessage)
  | channelDataAck (m : ChannelDataAckMessage)
  | channelOpen (m : ChannelOpenMessage)
  | sealed (m : SealedMessage)
  | webRegister (m : WebRegisterMessage)
  | webRegisterResponse (m : WebRegisterResponseMessage)
  | webRequest (m : WebRequestMessage)
  | webResponse (m : WebResponseMessage)
  | webData (m : WebDataMessage)
  | webCancel (m : WebCancelMessage)
  | webSocketFrame (m : WebSocketFrameMessage)
  | webRotate (m : WebRotateMessage)
  | unknown (binaryType : UInt8)
  deriving DecidableEq

/-! ## Field conversions -/

def tcp : GoString := ascii "tcp"
def udp : GoString := ascii "udp"
def opAdd : GoString := ascii "add"
def opRemove : GoString := ascii "remove"

def protocolToBytes (protocol : GoString) : UInt8 :=
  if protocol = tcp then 0x01
  else if protocol = udp then 0x02
  else 0

def bytesToProtocol (b : UInt8) : GoString :=
  if b = 0x01 then tcp
  else if b = 0x02 then udp
  else []

def operationToBytes (operation : GoString) : UInt8 :=
  if operation = opAdd then 0x01
  else if operation = opRemove then 0x02
  else 0

def bytesToOperation (b : UInt8) : GoString :=
  if b = 0x01 then opAdd
  else if b = 0x02 then opRemove
  else []

def boolToByte (b : Bool) : UInt8 := if b then 1 else 0

def byteToBool (b : UInt8) : Bool := b ≠ 0

@[simp] theorem byteToBool_boolToByte (b : Bool) : byteToBool (boolToByte b) = b := by
  cases b <;> rfl

/-! ## Library calls -/

/-- `json.Marshal` and `json.Unmarshal` at one message type. -/
structure JSONCodec (α : Type) where
  marshal : α → Except Error Bytes
  unmarshal : Bytes → Except Error α

inductive GzipWriteFault where
  | write (e : Error)
  | close (e : Error)

inductive GzipReadFault where
  | create (e : Error)
  | read (e : Error)
  | close (e : Error)

/-- Gzip as the codec uses it: compress a whole payload, and read at most
`limit` decompressed bytes (`io.ReadAll(io.LimitReader(r, limit))`). -/
structure Gzip where
  compress : Bytes → Except GzipWriteFault Bytes
  decompress : Bytes → (limit : ℕ) → Except GzipReadFault Bytes

/-- The library functions the codec calls. -/
structure Lib where
  uuid : UUIDLib
  gzip : Gzip
  log : JSONCodec LogMessage
  partners : JSONCodec PartnersMessage
  directCapabilities : JSONCodec DirectCapabilitiesMessage
  directRendezvous : JSONCodec DirectRendezvousMessage
  directStatus : JSONCodec DirectStatusMessage
  channelBind : JSONCodec ChannelBindMessage
  channelMigrate : JSONCodec ChannelMigrateMessage
  channelMigrateAck : JSONCodec ChannelMigrateAckMessage
  channelDataAck : JSONCodec ChannelDataAckMessage
  webRegister : JSONCodec WebRegisterMessage
  webRegisterResponse : JSONCodec WebRegisterResponseMessage
  webRequest : JSONCodec WebRequestMessage
  webResponse : JSONCodec WebResponseMessage
  webCancel : JSONCodec WebCancelMessage
  webRotate : JSONCodec WebRotateMessage

/-! ## Identifiers on the wire -/

theorem bytesToUUID_filter (u : UUID) :
    (bytesToUUID u.bytes).filter (· ≠ 45) = hexEncode u.bytes := by
  have hhyphen : ∀ part rest : GoString, (part ++ 45 :: rest).filter (· ≠ 45) =
        part.filter (· ≠ 45) ++ rest.filter (· ≠ 45) := by
    simp [filter_append]
  have hpart : ∀ n k, ((hexEncode u.bytes).drop n).take k ++
      (hexEncode u.bytes).drop (n + k) = (hexEncode u.bytes).drop n := by
    intro n k
    rw [← drop_drop, take_append_drop]
  rw [bytesToUUID, if_neg (by simp)]
  simp only [hhyphen]
  simp only [← filter_append]
  rw [hpart 16 4, hpart 12 4, hpart 8 4, take_append_drop, filter_eq_self]
  intro c hc
  simpa using hexEncode_ne_hyphen hc

theorem uuidToBytes_string {L : UUIDLib} (hL : L.Lawful) (u : UUID) :
    uuidToBytes (L.string u) = .ok u.bytes := by
  rw [hL.string_eq, uuidToBytes, bytesToUUID_filter, if_neg (by simp), hexDecode_hexEncode]

/-- The identifier package, as far as canonical text goes. -/
def canonicalUUID : UUIDLib where
  string u := bytesToUUID u.bytes
  parse text :=
    match uuidToBytes text with
    | .ok b =>
      if h : b.length = 16 then .ok ⟨b, h⟩
      else .error (.msg "invalid UUID length")
    | .error e => .error e
  fromBytes b :=
    if h : b.length = 16 then .ok ⟨b, h⟩
    else .error (.msg "invalid UUID (got wrong number of bytes)")

theorem canonicalUUID_lawful : canonicalUUID.Lawful where
  string_eq _ := rfl
  parse_canonical u := by
    have hbytes : uuidToBytes (bytesToUUID u.bytes) = .ok u.bytes := by
      rw [uuidToBytes, bytesToUUID_filter, if_neg (by simp), hexDecode_hexEncode]
    simp only [canonicalUUID, hbytes]
    exact dif_pos u.length_eq
  fromBytes_bytes u := dif_pos u.length_eq

/-- A library whose JSON codecs refuse everything. -/
def libOf (uuid : UUIDLib) (gzip : Gzip) : Lib :=
  let refuse (α : Type) : JSONCodec α :=
    ⟨fun _ => .error (.msg "json"), fun _ => .error (.msg "json")⟩
  { uuid, gzip, log := refuse _, partners := refuse _,
    directCapabilities := refuse _, directRendezvous := refuse _,
    directStatus := refuse _, channelBind := refuse _,
    channelMigrate := refuse _, channelMigrateAck := refuse _,
    channelDataAck := refuse _, webRegister := refuse _,
    webRegisterResponse := refuse _, webRequest := refuse _,
    webResponse := refuse _, webCancel := refuse _, webRotate := refuse _ }

/-- Identifiers only: gzip refuses everything as well. -/
def plainLib : Lib :=
  libOf canonicalUUID
    { compress := fun _ => .error (.write (.msg "gzip"))
      decompress := fun _ _ => .error (.create (.msg "gzip")) }

end LinkSocks
