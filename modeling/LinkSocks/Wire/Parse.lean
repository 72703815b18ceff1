import LinkSocks.Wire.Pack

/-!
# Parsing messages

`ParseMessageWithVersion` with the index and slice expressions of the source.
Lengths read from one byte are small, so sums with them are natural numbers.
A length read from four bytes is a `uint32`: the guards convert it to the
platform `int` and add there, while the slice bound `h + dataLen` is a
`uint32` sum, and each of the two can wrap around.
-/

namespace LinkSocks

open Go

/-! ## Fields -/

/-- An identifier, read through its textual form. -/
def parseUUID (L : Lib) (text : String) (b : Bytes) : Result UUID :=
  orWrap text (L.uuid.parse (bytesToUUID b))

/-- The big-endian `uint32` at an offset. -/
def uint32At (payload : Bytes) (i : ℕ) : Result UInt32 := do
  let b0 ← index payload i
  let b1 ← index payload (i + 1)
  let b2 ← index payload (i + 2)
  let b3 ← index payload (i + 3)
  return uint32 b0 b1 b2 b3

def binaryUint64 (b : Bytes) : Result UInt64 := do
  let b0 ← index b 0
  let b1 ← index b 1
  let b2 ← index b 2
  let b3 ← index b 3
  let b4 ← index b 4
  let b5 ← index b 5
  let b6 ← index b 6
  let b7 ← index b 7
  return uint64 b0 b1 b2 b3 b4 b5 b6 b7

/-- The payload behind a header of `h` bytes whose last four are its length:
the guard `len(payload) < h+int(dataLen)` and the slice
`payload[h : h+dataLen]`. -/
def lengthPrefixed (w : IntSize) (payload : Bytes) (h : ℕ) (text : String) :
    Result (UInt32 × Bytes) := do
  let dataLen ← uint32At payload (h - 4)
  if (payload.length : Int) < w.add h (w.ofUInt32 dataLen) then fail text
  else do
    let data ← slice payload h (UInt32.ofNat h + dataLen).toNat
    return (dataLen, data)

/-- An address behind a one-byte length, and its port.  The guard asks for
`extra` bytes after the port. -/
def parseAddress (rest : Bytes) (extra : ℕ) (emptyText shortText : String) :
    Result (ℕ × GoString × Int) :=
  if rest.length < 1 then fail emptyText
  else do
    let addrLen := (← index rest 0).toNat
    if rest.length < 1 + addrLen + 2 + extra then fail shortText
    else do
      let address ← slice rest 1 (1 + addrLen)
      let hi ← index rest (1 + addrLen)
      let lo ← index rest (1 + addrLen + 1)
      return (addrLen, address, port hi lo)

/-- The payload of a data message, with the bound on decompressed output. -/
def parseCompressed (L : Lib) (compression : UInt8) (rawData : Bytes) : Result Bytes :=
  if compression = dataCompressionGzip then
    match L.gzip.decompress rawData (maxWebSocketMessageSize + 1) with
    | .error (.create e) => .error (.error (.wrap "gzip reader creation failed" e))
    | .error (.read e) => .error (.error (.wrap "gzip decompression failed" e))
    | .error (.close e) => .error (.error (.wrap "gzip close failed" e))
    | .ok data =>
      if data.length > maxWebSocketMessageSize then
        fail ("gzip decompression exceeded size limit of " ++
          toString maxWebSocketMessageSize ++ " bytes")
      else .ok data
  else .ok rawData

/-! ## Messages -/

def parseAuth (L : Lib) (payload : Bytes) : Result AuthMessage :=
  if payload.length < 1 then fail "invalid auth message"
  else do
    let tokenLen := (← index payload 0).toNat
    if payload.length < 1 + tokenLen + 1 + 16 then fail "invalid auth message length"
    else do
      let token ← slice payload 1 (1 + tokenLen)
      let reverse ← index payload (1 + tokenLen)
      let raw ← slice payload (1 + tokenLen + 1) (1 + tokenLen + 1 + 16)
      let instanceID ← parseUUID L "invalid Instance" raw
      return ⟨token, byteToBool reverse, instanceID⟩

def parseAuthResponse (payload : Bytes) : Result AuthResponseMessage :=
  if payload.length < 1 then fail "invalid auth response message"
  else do
    let success := byteToBool (← index payload 0)
    if success ∧ payload.length > 1 then do
      let tokenLen := (← index payload 1).toNat
      if payload.length < 2 + tokenLen then fail "invalid auth response token length"
      else do
        let token ← slice payload 2 (2 + tokenLen)
        return ⟨success, [], token⟩
    else if ¬ success ∧ payload.length > 1 then do
      let errorLen := (← index payload 1).toNat
      if payload.length < 2 + errorLen then fail "invalid auth response error length"
      else do
        let error ← slice payload 2 (2 + errorLen)
        return ⟨success, error, []⟩
    else return ⟨success, [], []⟩

def parseConnect (L : Lib) (payload : Bytes) : Result ConnectMessage :=
  if payload.length < 17 then fail "invalid connect message"
  else do
    let protocol := bytesToProtocol (← index payload 0)
    let channelID ← parseUUID L "invalid ChannelID" (← slice payload 1 17)
    if protocol = tcp then do
      let rest ← sliceFrom payload 17
      let (addrLen, address, port) ← parseAddress rest 0
        "invalid tcp connect message" "invalid tcp connect message length"
      if rest.length > 1 + addrLen + 2 then do
        let resume ← index rest (1 + addrLen + 2)
        return ⟨protocol, address, port, channelID, byteToBool resume⟩
      else return ⟨protocol, address, port, channelID, false⟩
    else if payload.length > 17 then do
      let resume ← index payload 17
      return ⟨protocol, [], 0, channelID, byteToBool resume⟩
    else return ⟨protocol, [], 0, channelID, false⟩

def parseConnectResponse (L : Lib) (payload : Bytes) : Result ConnectResponseMessage :=
  if payload.length < 17 then fail "invalid connect response message"
  else do
    let success := byteToBool (← index payload 0)
    let channelID ← parseUUID L "invalid ChannelID" (← slice payload 1 17)
    if ¬ success then
      if payload.length < 18 then fail "invalid connect response error length"
      else do
        let errorLen := (← index payload 17).toNat
        if payload.length < 18 + errorLen then fail "invalid connect response message length"
        else do
          let error ← slice payload 18 (18 + errorLen)
          return ⟨success, error, channelID⟩
    else return ⟨success, [], channelID⟩

def parseData (w : IntSize) (L : Lib) (payload : Bytes) : Result DataMessage :=
  if payload.length < 22 then fail "invalid data message"
  else do
    let protocol := bytesToProtocol (← index payload 0)
    let channelID ← parseUUID L "invalid ChannelID" (← slice payload 1 17)
    let compression ← index payload 17
    let (dataLen, rawData) ←
      lengthPrefixed w payload 22 "invalid data message length"
    let data ← parseCompressed L compression rawData
    let next := w.add 22 (w.ofUInt32 dataLen)
    if protocol = udp then do
      let rest ← sliceFrom payload next
      -- the first guard also asks for the length byte of the target address
      let (addrLen, address, port) ← parseAddress rest 1
        "invalid udp data message" "invalid udp data message length"
      let rest ← sliceFrom rest (1 + addrLen + 2 : ℕ)
      let (targetAddrLen, targetAddr, targetPort) ← parseAddress rest 0
        "invalid udp data message" "invalid udp data message target address"
      let rest ← sliceFrom rest (1 + targetAddrLen + 2 : ℕ)
      if rest.length ≥ 8 then do
        let sequence ← binaryUint64 (← slice rest 0 8)
        return ⟨protocol, channelID, data, compression, address, port,
          targetAddr, targetPort, sequence⟩
      else return ⟨protocol, channelID, data, compression, address, port, targetAddr, targetPort, 0⟩
    else if (payload.length : Int) ≥ w.add next 8 then do
      let sequence ← binaryUint64 (← sliceInt payload next (w.add next 8))
      return ⟨protocol, channelID, data, compression, [], 0, [], 0, sequence⟩
    else return ⟨protocol, channelID, data, compression, [], 0, [], 0, 0⟩

def parseDisconnect (L : Lib) (payload : Bytes) : Result DisconnectMessage :=
  if payload.length < 16 then fail "invalid disconnect message"
  else do
    let channelID ← parseUUID L "invalid ChannelID" (← slice payload 0 16)
    if payload.length > 16 then do
      let errLen := (← index payload 16).toNat
      if payload.length < 17 + errLen then fail "invalid disconnect message error length"
      else if errLen > 0 then do
        let error ← slice payload 17 (17 + errLen)
        return ⟨channelID, error⟩
      else return ⟨channelID, []⟩
    else return ⟨channelID, []⟩

def parseConnector (L : Lib) (payload : Bytes) : Result ConnectorMessage :=
  if payload.length < 16 then fail "invalid connector message"
  else do
    let channelID ← parseUUID L "invalid ChannelID" (← slice payload 0 16)
    let rest ← sliceFrom payload 16
    if rest.length < 1 then fail "invalid connector message length"
    else do
      let tokenLen := (← index rest 0).toNat
      if rest.length < 1 + tokenLen + 1 then fail "invalid connector message length"
      else do
        let token ← slice rest 1 (1 + tokenLen)
        let operation := bytesToOperation (← index rest (1 + tokenLen))
        if operation.length = 0 then fail "invalid operation type"
        else return ⟨channelID, token, operation⟩

def parseConnectorResponse (L : Lib) (payload : Bytes) : Result ConnectorResponseMessage :=
  if payload.length < 17 then fail "invalid connector response message"
  else do
    let channelID ← parseUUID L "invalid ChannelID" (← slice payload 0 16)
    let success := byteToBool (← index payload 16)
    if ¬ success then
      if payload.length < 18 then fail "invalid connector response error length"
      else do
        let errorLen := (← index payload 17).toNat
        if payload.length < 18 + errorLen then fail "invalid connector response message length"
        else do
          let error ← slice payload 18 (18 + errorLen)
          return ⟨success, error, channelID, []⟩
    else if payload.length > 17 then do
      let tokenLen := (← index payload 17).toNat
      if payload.length < 18 + tokenLen then fail "invalid connector response token length"
      else do
        let token ← slice payload 18 (18 + tokenLen)
        return ⟨success, [], channelID, token⟩
    else return ⟨success, [], channelID, []⟩

/-- The body of a message that travels as length-prefixed JSON. -/
def unmarshalJSONMessage (w : IntSize) (codec : JSONCodec α) (payload : Bytes)
    (name : String) : Result α :=
  if payload.length < 4 then fail ("invalid " ++ name ++ " message")
  else do
    let (_, jsonData) ←
      lengthPrefixed w payload 4 ("invalid " ++ name ++ " message length")
    orWrap ("failed to unmarshal " ++ name ++ " message")
      (codec.unmarshal jsonData)

def parseChannelOpen (L : Lib) (payload : Bytes) : Result ChannelOpenMessage :=
  if payload.length < 16 then fail "invalid channel open message"
  else do
    let channelID ← parseUUID L "invalid ChannelID" (← slice payload 0 16)
    if payload.length > 16 then do
      let resume ← index payload 16
      return ⟨channelID, byteToBool resume⟩
    else return ⟨channelID, false⟩

def parseSealed (w : IntSize) (L : Lib) (payload : Bytes) : Result SealedMessage :=
  if payload.length < 20 then fail "invalid sealed message"
  else do
    let channelID ← parseUUID L "invalid ChannelID" (← slice payload 0 16)
    let (_, data) ←
      lengthPrefixed w payload 20 "invalid sealed message length"
    return ⟨channelID, data⟩

def parseWebData (w : IntSize) (L : Lib) (payload : Bytes) : Result WebDataMessage :=
  if payload.length < 21 then fail "invalid web data message"
  else do
    let channelID ← orWrap "invalid web data channel id" (L.uuid.fromBytes (← slice payload 0 16))
    let isEnd := (← index payload 16) &&& 0x01 ≠ 0
    let (_, data) ←
      lengthPrefixed w payload 21 "invalid web data message length"
    return ⟨channelID, data, isEnd⟩

def parseWebSocketFrame (L : Lib) (payload : Bytes) : Result WebSocketFrameMessage :=
  if payload.length < 21 then fail "invalid WebSocket frame message"
  else do
    let channelID ← orWrap "invalid WebSocket channel id" (L.uuid.fromBytes (← slice payload 0 16))
    let opcode ← index payload 16
    if opcode ≠ 1 ∧ opcode ≠ 2 then fail "invalid WebSocket frame opcode"
    else do
      let dataLen ← uint32At payload 17
      -- compared as `uint64`, so neither side wraps around
      if dataLen.toNat ≠ payload.length - 21 then fail "invalid WebSocket frame message length"
      else do
        let data ← sliceFrom payload 21
        return ⟨channelID, opcode, data⟩

/-! ## Frames -/

def parseMessageBody (w : IntSize) (L : Lib) (msgType : UInt8)
    (payload : Bytes) : Result BaseMessage :=
  if msgType = binaryTypeAuth then .auth <$> parseAuth L payload
  else if msgType = binaryTypeAuthResponse then .authResponse <$> parseAuthResponse payload
  else if msgType = binaryTypeConnect then .connect <$> parseConnect L payload
  else if msgType = binaryTypeConnectResponse then
    .connectResponse <$> parseConnectResponse L payload
  else if msgType = binaryTypeData then .data <$> parseData w L payload
  else if msgType = binaryTypeDisconnect then .disconnect <$> parseDisconnect L payload
  else if msgType = binaryTypeConnector then .connector <$> parseConnector L payload
  else if msgType = binaryTypeConnectorResponse then
    .connectorResponse <$> parseConnectorResponse L payload
  else if msgType = binaryTypeLog then .log <$> unmarshalJSONMessage w L.log payload "log"
  else if msgType = binaryTypePartners then
    .partners <$> unmarshalJSONMessage w L.partners payload "partners"
  else if msgType = binaryTypeDirectCapabilities then
    .directCapabilities <$> unmarshalJSONMessage w L.directCapabilities payload
      "direct capabilities"
  else if msgType = binaryTypeDirectRendezvous then
    .directRendezvous <$> unmarshalJSONMessage w L.directRendezvous payload
      "direct rendezvous"
  else if msgType = binaryTypeDirectStatus then
    .directStatus <$> unmarshalJSONMessage w L.directStatus payload
      "direct status"
  else if msgType = binaryTypeChannelBind then
    .channelBind <$> unmarshalJSONMessage w L.channelBind payload
      "channel bind"
  else if msgType = binaryTypeChannelMigrate then
    .channelMigrate <$> unmarshalJSONMessage w L.channelMigrate payload
      "channel migrate"
  else if msgType = binaryTypeChannelMigrateAck then
    .channelMigrateAck <$> unmarshalJSONMessage w L.channelMigrateAck payload
      "channel migrate ack"
  else if msgType = binaryTypeChannelDataAck then
    .channelDataAck <$> unmarshalJSONMessage w L.channelDataAck payload
      "channel data ack"
  else if msgType = binaryTypeChannelOpen then .channelOpen <$> parseChannelOpen L payload
  else if msgType = binaryTypeSealed then .sealed <$> parseSealed w L payload
  else if msgType = binaryTypeWebRegister then
    .webRegister <$> unmarshalJSONMessage w L.webRegister payload
      "web register"
  else if msgType = binaryTypeWebRegisterResponse then
    .webRegisterResponse <$> unmarshalJSONMessage w L.webRegisterResponse
      payload "web register response"
  else if msgType = binaryTypeWebRequest then
    .webRequest <$> unmarshalJSONMessage w L.webRequest payload "web request"
  else if msgType = binaryTypeWebResponse then
    .webResponse <$> unmarshalJSONMessage w L.webResponse payload
      "web response"
  else if msgType = binaryTypeWebData then .webData <$> parseWebData w L payload
  else if msgType = binaryTypeWebCancel then
    .webCancel <$> unmarshalJSONMessage w L.webCancel payload "web cancel"
  else if msgType = binaryTypeWebSocketFrame then .webSocketFrame <$> parseWebSocketFrame L payload
  else if msgType = binaryTypeWebRotate then
    .webRotate <$> unmarshalJSONMessage w L.webRotate payload "web rotate"
  else .ok (.unknown msgType)

/-- The message of a frame and the version byte its sender reported.  The
version is returned beside an error too; it is zero for a frame without one
(`len(data) < 2`). -/
def parseMessageWithVersion (w : IntSize) (L : Lib) : Bytes → Result BaseMessage × UInt8
  | version :: msgType :: payload =>
    if !protocolMajorSupported version then
      (.error (.error (.wrapFront errUnsupportedProtocolMajor
        ("peer=" ++ protocolVersionDebugString version ++ " local=" ++
          protocolVersionDebugString protocolVersion))), version)
    else (parseMessageBody w L msgType payload, version)
  | _ => (fail "message too short", 0)

end LinkSocks
