import LinkSocks.Wire.Message

/-!
# Packing messages

`PackMessageWithVersion`: a version byte, a type byte and the fields of the
message.  A string field is written behind a one-byte length `byte(len(s))`
and a payload behind a four-byte length `uint32(len(p))`; neither length is
checked, so both wrap around.
-/

namespace LinkSocks

open Go

/-! ## Fields -/

/-- `byte(len(s))` followed by the bytes of `s`. -/
def packString (s : GoString) : Bytes := UInt8.ofNat s.length :: s

/-- `uint32(len(p))` in four bytes, followed by `p`. -/
def packPayload (p : Bytes) : Bytes := putUint32 (UInt32.ofNat p.length) ++ p

/-- The bytes of an identifier, taken from its textual form. -/
def packUUID (L : Lib) (text : String) (u : UUID) : Result Bytes :=
  orWrap text (uuidToBytes (L.uuid.string u))

/-- The optional trailing byte of a `Resume` flag. -/
def packResume (resume : Bool) : Bytes := if resume then [1] else []

/-- The optional trailing bytes of a sequence number; zero means absent. -/
def packSequence (sequence : UInt64) : Bytes := if sequence ≠ 0 then putUint64 sequence else []

/-- The payload of a data message, compressed when the flag asks for it. -/
def packCompressed (L : Lib) (m : DataMessage) : Result Bytes :=
  if m.compression = dataCompressionGzip then
    match L.gzip.compress m.data with
    | .ok z => .ok z
    | .error (.write e) => .error (.error (.wrap "gzip compression failed" e))
    | .error (.close e) => .error (.error (.wrap "gzip close failed" e))
  else .ok m.data

/-! ## Messages -/

def packAuth (L : Lib) (m : AuthMessage) : Result Bytes := do
  let instanceID ← packUUID L "invalid Instance" m.instanceID
  return packString m.token ++ boolToByte m.reverse :: instanceID

def packAuthResponse (m : AuthResponseMessage) : Bytes :=
  boolToByte m.success :: (if !m.success then packString m.error
    else if m.token ≠ [] then packString m.token
    else [])

def packConnect (L : Lib) (m : ConnectMessage) : Result Bytes := do
  let channelID ← packUUID L "invalid ChannelID" m.channelID
  return protocolToBytes m.protocol :: (channelID ++
    ((if m.protocol = tcp then packString m.address ++ putPort m.port
      else []) ++ packResume m.resume))

def packConnectResponse (L : Lib) (m : ConnectResponseMessage) : Result Bytes := do
  let channelID ← packUUID L "invalid ChannelID" m.channelID
  return boolToByte m.success :: (channelID ++ (if !m.success then packString m.error else []))

def packData (L : Lib) (m : DataMessage) : Result Bytes := do
  let channelID ← packUUID L "invalid ChannelID" m.channelID
  let compressedData ← packCompressed L m
  return protocolToBytes m.protocol :: (channelID ++ m.compression ::
    (packPayload compressedData ++ ((if m.protocol = udp then
          packString m.address ++ (putPort m.port ++
            (packString m.targetAddr ++ putPort m.targetPort))
        else []) ++ packSequence m.sequence)))

def packDisconnect (L : Lib) (m : DisconnectMessage) : Result Bytes := do
  let channelID ← packUUID L "invalid ChannelID" m.channelID
  return channelID ++ (if m.error ≠ [] then packString m.error else [])

def packConnector (L : Lib) (m : ConnectorMessage) : Result Bytes := do
  let channelID ← packUUID L "invalid ChannelID" m.channelID
  return channelID ++ (packString m.connectorToken ++ [operationToBytes m.operation])

def packConnectorResponse (L : Lib) (m : ConnectorResponseMessage) : Result Bytes := do
  let channelID ← packUUID L "invalid ChannelID" m.channelID
  return channelID ++ boolToByte m.success :: (if !m.success then packString m.error
    else if m.connectorToken ≠ [] then packString m.connectorToken
    else [])

/-- The body of a message that travels as length-prefixed JSON. -/
def packJSONMessage (codec : JSONCodec α) (m : α) (name : String) : Result Bytes := do
  let jsonData ←
    orWrap ("failed to marshal " ++ name ++ " message") (codec.marshal m)
  return packPayload jsonData

def packChannelOpen (L : Lib) (m : ChannelOpenMessage) : Result Bytes := do
  let channelID ← packUUID L "invalid ChannelID" m.channelID
  return channelID ++ packResume m.resume

def packSealed (L : Lib) (m : SealedMessage) : Result Bytes := do
  let channelID ← packUUID L "invalid ChannelID" m.channelID
  return channelID ++ packPayload m.data

def packWebData (L : Lib) (m : WebDataMessage) : Result Bytes := do
  let channelID ← packUUID L "invalid ChannelID" m.channelID
  return channelID ++ (if m.isEnd then 1 else 0) :: packPayload m.data

/-- The one format that copies the identifier without its textual form. -/
def packWebSocketFrame (m : WebSocketFrameMessage) : Result Bytes :=
  if m.opcode ≠ 1 ∧ m.opcode ≠ 2 then fail "invalid WebSocket frame opcode"
  else .ok (m.channelID.bytes ++ m.opcode :: packPayload m.data)

/-- The type byte and the fields of a message. -/
def packBody (L : Lib) : BaseMessage → Result (UInt8 × Bytes)
  | .auth m => (binaryTypeAuth, ·) <$> packAuth L m
  | .authResponse m => .ok (binaryTypeAuthResponse, packAuthResponse m)
  | .connect m => (binaryTypeConnect, ·) <$> packConnect L m
  | .connectResponse m => (binaryTypeConnectResponse, ·) <$> packConnectResponse L m
  | .data m => (binaryTypeData, ·) <$> packData L m
  | .disconnect m => (binaryTypeDisconnect, ·) <$> packDisconnect L m
  | .connector m => (binaryTypeConnector, ·) <$> packConnector L m
  | .connectorResponse m => (binaryTypeConnectorResponse, ·) <$> packConnectorResponse L m
  | .log m => (binaryTypeLog, ·) <$> packJSONMessage L.log m "log"
  | .partners m => (binaryTypePartners, ·) <$> packJSONMessage L.partners m "partners"
  | .directCapabilities m =>
    (binaryTypeDirectCapabilities, ·) <$>
      packJSONMessage L.directCapabilities m "direct capabilities"
  | .directRendezvous m =>
    (binaryTypeDirectRendezvous, ·) <$>
      packJSONMessage L.directRendezvous m "direct rendezvous"
  | .directStatus m =>
    (binaryTypeDirectStatus, ·) <$>
      packJSONMessage L.directStatus m "direct status"
  | .channelBind m =>
    (binaryTypeChannelBind, ·) <$>
      packJSONMessage L.channelBind m "channel bind"
  | .channelMigrate m =>
    (binaryTypeChannelMigrate, ·) <$>
      packJSONMessage L.channelMigrate m "channel migrate"
  | .channelMigrateAck m =>
    (binaryTypeChannelMigrateAck, ·) <$>
      packJSONMessage L.channelMigrateAck m "channel migrate ack"
  | .channelDataAck m =>
    (binaryTypeChannelDataAck, ·) <$>
      packJSONMessage L.channelDataAck m "channel data ack"
  | .channelOpen m => (binaryTypeChannelOpen, ·) <$> packChannelOpen L m
  | .sealed m => (binaryTypeSealed, ·) <$> packSealed L m
  | .webRegister m =>
    (binaryTypeWebRegister, ·) <$>
      packJSONMessage L.webRegister m "web register"
  | .webRegisterResponse m =>
    (binaryTypeWebRegisterResponse, ·) <$>
      packJSONMessage L.webRegisterResponse m "web register response"
  | .webRequest m =>
    (binaryTypeWebRequest, ·) <$>
      packJSONMessage L.webRequest m "web request"
  | .webResponse m =>
    (binaryTypeWebResponse, ·) <$>
      packJSONMessage L.webResponse m "web response"
  | .webData m => (binaryTypeWebData, ·) <$> packWebData L m
  | .webCancel m => (binaryTypeWebCancel, ·) <$> packJSONMessage L.webCancel m "web cancel"
  | .webSocketFrame m => (binaryTypeWebSocketFrame, ·) <$> packWebSocketFrame m
  | .webRotate m => (binaryTypeWebRotate, ·) <$> packJSONMessage L.webRotate m "web rotate"
  | .unknown _ => fail "unsupported message type for binary serialization"

/-- The frame of a message, stamped with an explicit protocol version. -/
def packMessageWithVersion (L : Lib) (m : BaseMessage) (version : UInt8) : Result Bytes := do
  let (msgType, payload) ← packBody L m
  return version :: msgType :: payload

/-! ## Lengths and identifiers -/

@[simp] theorem packString_length (s : GoString) : (packString s).length = 1 + s.length := by
  simp [packString, Nat.add_comm]

@[simp] theorem packPayload_length (p : Bytes) : (packPayload p).length = 4 + p.length := by
  simp [packPayload]

/-- Under the documented behaviour of the identifier package, writing an
identifier never fails. -/
theorem packUUID_eq {L : Lib} (hL : L.uuid.Lawful) (text : String) (u : UUID) :
    packUUID L text u = .ok u.bytes := by
  rw [packUUID, uuidToBytes_string hL, orWrap]

end LinkSocks
