import LinkSocks.Wire.Fields

/-!
# The wire codec round trip

A message whose written fields fit their encodings is packed into a frame
that parses back to it.  What a frame does not carry is lost, and `normalize`
says exactly what that is: the destination of a datagram connect, the
addresses of stream data, the error of a successful response and the token of
a failed one.
-/

namespace LinkSocks

open Go List

/-! ## Messages that fit their frame -/

/-- A JSON body is read back as the message it was written from. -/
def JSONFits (codec : JSONCodec α) (m : α) : Prop :=
  ∃ j, codec.marshal m = .ok j ∧ j.length < 2147483648 ∧ codec.unmarshal j = .ok m

/-- The payload of a data message fits; a compressed one decompresses to
itself and stays within the decompression bound. -/
def DataFits (L : Lib) (m : DataMessage) : Prop :=
  if m.compression = dataCompressionGzip then
    m.data.length ≤ maxWebSocketMessageSize ∧
      ∃ z, L.gzip.compress m.data = .ok z ∧ z.length < 2147483648 ∧
        ∀ n, L.gzip.decompress z n = .ok (m.data.take n)
  else m.data.length < 2147483648

/-- Every field that the packer writes fits its encoding. -/
def Packable (L : Lib) : BaseMessage → Prop
  | .auth m => m.token.length ≤ 255
  | .authResponse m => if m.success then m.token.length ≤ 255 else m.error.length ≤ 255
  | .connect m =>
    m.protocol = tcp ∧ m.address.length ≤ 255 ∧ (0 ≤ m.port ∧ m.port < 65536) ∨ m.protocol = udp
  | .connectResponse m => m.success = false → m.error.length ≤ 255
  | .data m =>
    DataFits L m ∧ (m.protocol = tcp ∨ m.protocol = udp ∧
        (m.address.length ≤ 255 ∧ 0 ≤ m.port ∧ m.port < 65536) ∧
        (m.targetAddr.length ≤ 255 ∧ 0 ≤ m.targetPort ∧ m.targetPort < 65536))
  | .disconnect m => m.error.length ≤ 255
  | .connector m => m.connectorToken.length ≤ 255 ∧ (m.operation = opAdd ∨ m.operation = opRemove)
  | .connectorResponse m =>
    if m.success then m.connectorToken.length ≤ 255
    else m.error.length ≤ 255
  | .log m => JSONFits L.log m
  | .partners m => JSONFits L.partners m
  | .directCapabilities m => JSONFits L.directCapabilities m
  | .directRendezvous m => JSONFits L.directRendezvous m
  | .directStatus m => JSONFits L.directStatus m
  | .channelBind m => JSONFits L.channelBind m
  | .channelMigrate m => JSONFits L.channelMigrate m
  | .channelMigrateAck m => JSONFits L.channelMigrateAck m
  | .channelDataAck m => JSONFits L.channelDataAck m
  | .channelOpen _ => True
  | .sealed m => m.data.length < 2147483648
  | .webRegister m => JSONFits L.webRegister m
  | .webRegisterResponse m => JSONFits L.webRegisterResponse m
  | .webRequest m => JSONFits L.webRequest m
  | .webResponse m => JSONFits L.webResponse m
  | .webData m => m.data.length < 2147483648
  | .webCancel m => JSONFits L.webCancel m
  | .webSocketFrame m => (m.opcode = 1 ∨ m.opcode = 2) ∧ m.data.length < 2147483648
  | .webRotate m => JSONFits L.webRotate m
  | .unknown _ => False

/-- What is left of a message after a trip over the wire. -/
def normalize : BaseMessage → BaseMessage
  | .authResponse m =>
    .authResponse (if m.success then { m with error := [] }
      else { m with token := [] })
  | .connect m =>
    .connect (if m.protocol = udp then { m with address := [], port := 0 }
      else m)
  | .connectResponse m => .connectResponse (if m.success then { m with error := [] } else m)
  | .data m =>
    .data (if m.protocol = tcp then
      { m with address := [], port := 0, targetAddr := [], targetPort := 0 }
      else m)
  | .connectorResponse m =>
    .connectorResponse (if m.success then { m with error := [] }
      else { m with connectorToken := [] })
  | m => m

/-! ## Fixed headers -/

@[simp] theorem slice_uuid (u : UUID) (rest : Bytes) : slice (u.bytes ++ rest) 0 16 = .ok u.bytes :=
  slice_middle [] u.bytes rest rfl (by simp)

@[simp] theorem slice_last_uuid (u : UUID) : slice u.bytes 0 16 = .ok u.bytes := by
  simpa using slice_uuid u []

@[simp] theorem index_after_uuid (u : UUID) (rest : Bytes) (n : ℕ) :
    index (u.bytes ++ rest) (n + 16) = index rest n := by
  simpa [Nat.add_comm] using index_append (b := rest) u.bytes n

@[simp] theorem slice_after_uuid (u : UUID) (rest : Bytes) (lo hi : ℕ) :
    slice (u.bytes ++ rest) (lo + 16) (hi + 16) = slice rest lo hi := by
  simpa [Nat.add_comm] using slice_append (b := rest) u.bytes

@[simp] theorem sliceFrom_uuid (u : UUID) (rest : Bytes) :
    sliceFrom (u.bytes ++ rest) 16 = .ok rest := sliceFrom_append u.bytes rest (by simp)

theorem bytesToProtocol_protocolToBytes {protocol : GoString}
    (h : protocol = tcp ∨ protocol = udp) :
    bytesToProtocol (protocolToBytes protocol) = protocol := by
  rcases h with rfl | rfl <;> decide

theorem bytesToProtocol_eq_tcp_iff (protocol : GoString) :
    bytesToProtocol (protocolToBytes protocol) = tcp ↔ protocol = tcp := by
  rw [protocolToBytes]
  by_cases htcp : protocol = tcp
  · rw [if_pos htcp]
    exact iff_of_true (by decide) htcp
  · rw [if_neg htcp]
    refine iff_of_false ?_ htcp
    split <;> decide

theorem bytesToProtocol_eq_udp_iff (protocol : GoString) :
    bytesToProtocol (protocolToBytes protocol) = udp ↔ protocol = udp := by
  rw [protocolToBytes]
  by_cases htcp : protocol = tcp
  · rw [htcp]
    decide
  · rw [if_neg htcp]
    by_cases hudp : protocol = udp
    · rw [if_pos hudp]
      exact iff_of_true (by decide) hudp
    · rw [if_neg hudp]
      exact iff_of_false (by decide) hudp

theorem bytesToOperation_operationToBytes {operation : GoString}
    (h : operation = opAdd ∨ operation = opRemove) :
    bytesToOperation (operationToBytes operation) = operation := by
  rcases h with rfl | rfl <;> decide

/-! ## One lemma per format -/

/-- The packed fields of `m` are parsed back as `m'`, on every platform whose
`int` can hold their length and the eight bytes of an absent sequence number:
the parser of data messages adds the two before it compares. -/
def ReadsBack (w : IntSize) (pack : Result Bytes) (parse : Bytes → Result α) (m' : α) : Prop :=
  ∃ payload, pack = .ok payload ∧ payload.length < 4294967296 ∧
    (FitsInt w (payload.length + 8) → parse payload = .ok m')

variable {L : Lib}

theorem readsBack_auth (w : IntSize) (hL : L.uuid.Lawful) (m : AuthMessage)
    (htoken : m.token.length ≤ 255) : ReadsBack w (packAuth L m) (parseAuth L) m := by
  obtain ⟨token, reverse, instanceID⟩ := m
  simp only at htoken
  refine ⟨packString token ++ boolToByte reverse :: instanceID.bytes, ?_, ?_, fun _ => ?_⟩
  · rw [packAuth, packUUID_eq hL]
    rfl
  · simp only [length_append, length_cons, packString_length, UUID.length_bytes]
    omega
  · simp [parseAuth, packString, Nat.add_comm 1, byteLen_toNat htoken, parseUUID_bytes hL]

/-- A text that ends a payload, with its length byte at offset `n` and its
first byte at offset `lo`. -/
structure TrailingText (front : Bytes) (s : GoString) (n lo : ℕ) : Prop where
  index_eq : index (front ++ packString s) n = .ok (UInt8.ofNat s.length)
  toNat_eq : (UInt8.ofNat s.length).toNat = s.length
  slice_eq : slice (front ++ packString s) lo (lo + s.length) = .ok s
  length_eq : (front ++ packString s).length = lo + s.length
  lo_eq : lo = n + 1
  short : s.length ≤ 255

variable {s : GoString} {n lo : ℕ}

theorem trailingText (front : Bytes)
    (hs : s.length ≤ 255) (hn : n = front.length) (hlo : lo = n + 1) :
    TrailingText front s n lo where
  index_eq := by simp [hn, packString]
  toNat_eq := byteLen_toNat hs
  slice_eq := by simp [hlo, hn, packString, Nat.add_assoc, Nat.add_comm 1]
  length_eq := by simp only [length_append, packString_length]; omega
  lo_eq := hlo
  short := hs

theorem TrailingText.length_lt {front : Bytes} (h : TrailingText front s n lo) (hn : n ≤ 17) :
    (front ++ packString s).length < 4294967296 := by
  have := h.short
  rw [h.length_eq, h.lo_eq]
  omega

section

variable (w : IntSize)

theorem readsBack_authResponse (m : AuthResponseMessage)
    (hm : if m.success then m.token.length ≤ 255 else m.error.length ≤ 255) :
    ReadsBack w (.ok (packAuthResponse m)) parseAuthResponse
      (if m.success then { m with error := [] }
        else { m with token := [] }) := by
  obtain ⟨success, error, token⟩ := m
  cases success with
  | false =>
    have ht : TrailingText [0] error 1 2 := trailingText _ (by simpa using hm) rfl rfl
    refine ⟨[0] ++ packString error, rfl, ht.length_lt (by omega), fun _ => ?_⟩
    simp [parseAuthResponse, packString, byteToBool, Nat.add_comm 2, ht.toNat_eq]
  | true =>
    by_cases htoken : token = []
    · subst htoken
      exact ⟨[1], rfl, by decide, fun _ => rfl⟩
    · have ht : TrailingText [1] token 1 2 := trailingText _ (by simpa using hm) rfl rfl
      refine ⟨[1] ++ packString token, ?_, ht.length_lt (by omega), fun _ => ?_⟩
      · simp [packAuthResponse, htoken, boolToByte]
      · simp [parseAuthResponse, packString, byteToBool, Nat.add_comm 2, ht.toNat_eq]

section

variable (hL : L.uuid.Lawful)
include hL

theorem readsBack_connectResponse (m : ConnectResponseMessage)
    (hm : m.success = false → m.error.length ≤ 255) :
    ReadsBack w (packConnectResponse L m) (parseConnectResponse L)
      (if m.success then { m with error := [] } else m) := by
  obtain ⟨success, error, channelID⟩ := m
  cases success with
  | false =>
    have ht : TrailingText (0 :: channelID.bytes) error 17 18 :=
      trailingText _ (hm rfl) (by simp) rfl
    refine ⟨0 :: channelID.bytes ++ packString error, ?_, ht.length_lt (by omega), fun _ => ?_⟩
    · rw [packConnectResponse, packUUID_eq hL]
      rfl
    · simp [parseConnectResponse, packString, byteToBool, Nat.add_comm 16, Nat.add_comm 18,
        ht.toNat_eq, parseUUID_bytes hL]
      rw [if_neg (by omega), if_neg (by omega)]
  | true =>
    refine ⟨1 :: channelID.bytes, ?_, by simp, fun _ => ?_⟩
    · rw [packConnectResponse, packUUID_eq hL]
      simp [boolToByte]
    · simp [parseConnectResponse, byteToBool, parseUUID_bytes hL]

theorem readsBack_connectorResponse
    (m : ConnectorResponseMessage) (hm : if m.success then m.connectorToken.length ≤ 255
      else m.error.length ≤ 255) :
    ReadsBack w (packConnectorResponse L m) (parseConnectorResponse L)
      (if m.success then { m with error := [] }
        else { m with connectorToken := [] }) := by
  obtain ⟨success, error, channelID, token⟩ := m
  cases success with
  | false =>
    have ht : TrailingText (channelID.bytes ++ [0]) error 17 18 :=
      trailingText _ (by simpa using hm) (by simp) rfl
    refine ⟨(channelID.bytes ++ [0]) ++ packString error, ?_, ht.length_lt (by omega), fun _ => ?_⟩
    · rw [packConnectorResponse, packUUID_eq hL]
      simp [boolToByte]
    · simp [parseConnectorResponse, packString, byteToBool, Nat.add_comm 16, Nat.add_comm 18,
        ht.toNat_eq, parseUUID_bytes hL]
      rw [if_neg (by omega), if_neg (by omega)]
  | true =>
    by_cases htoken : token = []
    · subst htoken
      refine ⟨channelID.bytes ++ [1], ?_, by simp, fun _ => ?_⟩
      · rw [packConnectorResponse, packUUID_eq hL]
        simp [boolToByte]
      · simp [parseConnectorResponse, byteToBool, parseUUID_bytes hL]
    · have ht : TrailingText (channelID.bytes ++ [1]) token 17 18 :=
        trailingText _ (by simpa using hm) (by simp) rfl
      refine ⟨(channelID.bytes ++ [1]) ++ packString token, ?_,
        ht.length_lt (by omega), fun _ => ?_⟩
      · rw [packConnectorResponse, packUUID_eq hL]
        simp [boolToByte, htoken]
      · simp [parseConnectorResponse, packString, byteToBool, Nat.add_comm 16, Nat.add_comm 18,
          ht.toNat_eq, parseUUID_bytes hL]

theorem readsBack_disconnect (m : DisconnectMessage)
    (hm : m.error.length ≤ 255) : ReadsBack w (packDisconnect L m) (parseDisconnect L) m := by
  obtain ⟨channelID, error⟩ := m
  by_cases herror : error = []
  · subst herror
    refine ⟨channelID.bytes, ?_, by simp, fun _ => ?_⟩
    · rw [packDisconnect, packUUID_eq hL]
      simp
    · simp [parseDisconnect, parseUUID_bytes hL]
  · have ht : TrailingText channelID.bytes error 16 17 := trailingText _ hm (by simp) rfl
    refine ⟨channelID.bytes ++ packString error, ?_, ht.length_lt (by omega), fun _ => ?_⟩
    · rw [packDisconnect, packUUID_eq hL]
      simp [herror]
    · have hpos : 0 < error.length := length_pos_iff.mpr herror
      simp [parseDisconnect, packString, Nat.add_comm 16, Nat.add_comm 17, ht.toNat_eq,
        parseUUID_bytes hL, hpos]

theorem readsBack_connector (m : ConnectorMessage)
    (htoken : m.connectorToken.length ≤ 255) (hop : m.operation = opAdd ∨ m.operation = opRemove) :
    ReadsBack w (packConnector L m) (parseConnector L) m := by
  obtain ⟨channelID, token, operation⟩ := m
  simp only at htoken hop
  refine ⟨channelID.bytes ++ (packString token ++ [operationToBytes operation]), ?_, ?_,
    fun _ => ?_⟩
  · rw [packConnector, packUUID_eq hL]
    rfl
  · simp
    omega
  · have hknown : operation ≠ [] := by
      rcases hop with rfl | rfl <;> decide
    simp [parseConnector, packString, Nat.add_comm 1, Nat.add_comm 16, byteLen_toNat htoken,
      parseUUID_bytes hL, bytesToOperation_operationToBytes hop, hknown]

theorem readsBack_channelOpen (m : ChannelOpenMessage) :
    ReadsBack w (packChannelOpen L m) (parseChannelOpen L) m := by
  obtain ⟨channelID, resume⟩ := m
  refine ⟨channelID.bytes ++ packResume resume, ?_, ?_, fun _ => ?_⟩
  · rw [packChannelOpen, packUUID_eq hL]
    rfl
  · cases resume <;> simp [packResume]
  · cases resume <;> simp [parseChannelOpen, packResume, parseUUID_bytes hL, byteToBool]

theorem readsBack_connect_tcp (m : ConnectMessage)
    (htcp : m.protocol = tcp) (haddress : m.address.length ≤ 255)
    (hport : 0 ≤ m.port ∧ m.port < 65536) : ReadsBack w (packConnect L m) (parseConnect L) m := by
  obtain ⟨protocol, address, p, channelID, resume⟩ := m
  simp only at htcp haddress hport
  subst htcp
  have hread := parseAddress_packString address p (packResume resume) 0
    "invalid tcp connect message" "invalid tcp connect message length"
    haddress hport (Nat.zero_le _)
  refine ⟨0x01 :: (channelID.bytes ++ (packString address ++
    (putPort p ++ packResume resume))), ?_, ?_, fun _ => ?_⟩
  · rw [packConnect, packUUID_eq hL]
    simp [protocolToBytes, append_assoc]
  · cases resume <;> simp [packResume] <;> omega
  · have hrest : sliceFrom (0x01 :: (channelID.bytes ++ (packString address ++
        (putPort p ++ packResume resume)))) 17 =
          .ok (packString address ++ (putPort p ++ packResume resume)) :=
      sliceFrom_append (0x01 :: channelID.bytes) _ (by simp)
    have hbyte : bytesToProtocol 0x01 = tcp := by decide
    rw [parseConnect]
    simp only [index_zero, ok_bind, slice_succ, slice_uuid, parseUUID_bytes hL, hbyte,
      if_true, hrest, hread]
    cases resume <;> simp [packString, putPort, packResume, Nat.add_comm 1, byteToBool]

theorem readsBack_connect_other (m : ConnectMessage)
    (hne : ¬ m.protocol = tcp) : ReadsBack w (packConnect L m) (parseConnect L)
      { m with protocol := bytesToProtocol (protocolToBytes m.protocol),
               address := [], port := 0 } := by
  obtain ⟨protocol, address, p, channelID, resume⟩ := m
  have hother : ¬ bytesToProtocol (protocolToBytes protocol) = tcp := by
    rwa [bytesToProtocol_eq_tcp_iff]
  refine ⟨protocolToBytes protocol :: (channelID.bytes ++ packResume resume), ?_, ?_, fun _ => ?_⟩
  · rw [packConnect, packUUID_eq hL]
    simp [hne]
  · cases resume <;> simp [packResume]
  · cases resume <;> simp [parseConnect, packResume, hother, parseUUID_bytes hL, byteToBool]

end

/-! ## Length-prefixed formats -/

theorem lengthPrefixed_last (front p : Bytes) (text : String) {h : ℕ}
    (hh : h = front.length + 4) (hp : h + p.length < 4294967296)
    (hroom : FitsInt w ((front ++ packPayload p).length + 8)) :
    lengthPrefixed w (front ++ packPayload p) h text = .ok (UInt32.ofNat p.length, p) := by
  have hfits : FitsInt w (h + p.length) := by
    refine hroom.mono ?_
    simp
    omega
  simpa using lengthPrefixed_packPayload w front p [] text hh hfits hp

theorem readsBack_json (codec : JSONCodec α) (m : α) (name : String)
    (hm : JSONFits codec m) : ReadsBack w (packJSONMessage codec m name)
      (fun payload => unmarshalJSONMessage w codec payload name) m := by
  obtain ⟨j, hmarshal, hlen, hunmarshal⟩ := hm
  refine ⟨packPayload j, ?_, ?_, ?_⟩
  · rw [packJSONMessage, hmarshal]
    rfl
  · rw [packPayload_length]
    omega
  · intro hroom
    have hread := lengthPrefixed_last w [] j ("invalid " ++ name ++ " message length")
      (h := 4) rfl (by omega) hroom
    rw [nil_append] at hread
    simp only [unmarshalJSONMessage]
    rw [if_neg (by simp), hread, ok_bind, hunmarshal, orWrap]

theorem readsBack_sealed (hL : L.uuid.Lawful) (m : SealedMessage)
    (hm : m.data.length < 2147483648) : ReadsBack w (packSealed L m) (parseSealed w L) m := by
  obtain ⟨channelID, data⟩ := m
  simp only at hm
  refine ⟨channelID.bytes ++ packPayload data, ?_, ?_, ?_⟩
  · rw [packSealed, packUUID_eq hL]
    rfl
  · simp
    omega
  · intro hroom
    have hread := lengthPrefixed_last w channelID.bytes data "invalid sealed message length"
      (h := 20) (by simp) (by omega) hroom
    simp [parseSealed, parseUUID_bytes hL, hread]
    omega

theorem readsBack_webData (hL : L.uuid.Lawful) (m : WebDataMessage)
    (hm : m.data.length < 2147483648) : ReadsBack w (packWebData L m) (parseWebData w L) m := by
  obtain ⟨channelID, data, isEnd⟩ := m
  simp only at hm
  refine ⟨(channelID.bytes ++ [if isEnd then 1 else 0]) ++ packPayload data, ?_, ?_, ?_⟩
  · rw [packWebData, packUUID_eq hL]
    simp
  · simp
    omega
  · intro hroom
    have hread := lengthPrefixed_last w (channelID.bytes ++ [if isEnd then 1 else 0]) data
      "invalid web data message length" (h := 21) (by simp) (by omega) hroom
    cases isEnd <;> simp_all [parseWebData, hL.fromBytes_bytes, orWrap] <;> omega

theorem readsBack_webSocketFrame (hL : L.uuid.Lawful) (m : WebSocketFrameMessage)
    (hopcode : m.opcode = 1 ∨ m.opcode = 2) (hm : m.data.length < 2147483648) :
    ReadsBack w (packWebSocketFrame m) (parseWebSocketFrame L) m := by
  obtain ⟨channelID, opcode, data⟩ := m
  simp only at hm hopcode
  have hvalid : ¬ (opcode ≠ 1 ∧ opcode ≠ 2) := by
    rintro ⟨h1, h2⟩
    exact hopcode.elim h1 h2
  have hlength : (channelID.bytes ++ opcode :: packPayload data).length = 21 + data.length := by
    simp only [length_append, length_cons, UUID.length_bytes, packPayload_length]
    omega
  refine ⟨channelID.bytes ++ opcode :: packPayload data, ?_, by omega, ?_⟩
  · exact if_neg hvalid
  · intro _
    have hword : uint32At (channelID.bytes ++ opcode :: packPayload data) 17 =
        .ok (UInt32.ofNat data.length) := by
      simpa using uint32At_packPayload (channelID.bytes ++ [opcode]) data [] (i := 17) (by simp)
    have hdata : sliceFrom (channelID.bytes ++ opcode :: packPayload data) 21 = .ok data := by
      simpa [packPayload] using sliceFrom_append (channelID.bytes ++
        opcode :: putUint32 (UInt32.ofNat data.length)) data (by simp)
    have hlen : (UInt32.ofNat data.length).toNat = data.length := uint32Len_toNat (by omega)
    rw [parseWebSocketFrame, if_neg (by omega)]
    simp only [slice_uuid, ok_bind, hL.fromBytes_bytes, orWrap,
      index_after_uuid, index_zero, if_neg hvalid, hword, hlen]
    rw [if_neg (by omega), hdata]
    rfl

end

/-! ## Data messages -/

/-- The payload of a data message survives its compression. -/
theorem packCompressed_parseCompressed {m : DataMessage} (hm : DataFits L m) :
    ∃ z, packCompressed L m = .ok z ∧ z.length < 2147483648 ∧
      parseCompressed L m.compression z = .ok m.data := by
  by_cases hgzip : m.compression = dataCompressionGzip
  · rw [DataFits, if_pos hgzip] at hm
    obtain ⟨hbound, z, hcompress, hlen, hdecompress⟩ := hm
    refine ⟨z, ?_, hlen, ?_⟩
    · rw [packCompressed, if_pos hgzip, hcompress]
    · have htake : m.data.take (maxWebSocketMessageSize + 1) = m.data :=
        take_of_length_le (by omega)
      rw [parseCompressed, if_pos hgzip, hdecompress, htake]
      exact if_neg (by omega)
  · rw [DataFits, if_neg hgzip] at hm
    refine ⟨m.data, ?_, hm, ?_⟩
    · rw [packCompressed, if_neg hgzip]
    · rw [parseCompressed, if_neg hgzip]

/-- The fields of a data message in front of its payload. -/
def dataHeader (m : DataMessage) : Bytes :=
  protocolToBytes m.protocol :: (m.channelID.bytes ++ [m.compression])

variable {z : Bytes}

@[simp] theorem dataHeader_length (m : DataMessage) : (dataHeader m).length = 18 := by
  simp [dataHeader]

/-- The layout of a data message. -/
theorem packData_eq (hL : L.uuid.Lawful) {m : DataMessage} (hz : packCompressed L m = .ok z) :
    packData L m = .ok (dataHeader m ++ (packPayload z ++ ((if m.protocol = udp then
          packString m.address ++ (putPort m.port ++
            (packString m.targetAddr ++ putPort m.targetPort))
        else []) ++ packSequence m.sequence))) := by
  rw [packData, packUUID_eq hL, hz]
  simp [dataHeader, append_assoc]

theorem packSequence_zero {x : UInt64} (hx : x = 0) : packSequence x = [] := by
  simp [packSequence, hx]

theorem packSequence_ne_zero {x : UInt64} (hx : x ≠ 0) : packSequence x = putUint64 x := by
  rw [packSequence, if_pos hx]

theorem packSequence_length_le (x : UInt64) : (packSequence x).length ≤ 8 := by
  by_cases hx : x = 0 <;> simp [packSequence, hx]

variable {w : IntSize}

theorem dataOffset_eq (hfits : FitsInt w (22 + z.length)) (hz : z.length < 2147483648) :
    w.add 22 (w.ofUInt32 (UInt32.ofNat z.length)) = ((22 + z.length : ℕ) : Int) :=
  hfits.add_ofUInt32 (by omega)

/-- What the parser reads of a packed data message before it looks at the
bytes behind the payload. -/
structure DataPrefix (w : IntSize) (m : DataMessage) (z tail : Bytes) : Prop where
  protocol_eq : index (dataHeader m ++ (packPayload z ++ tail)) 0 = .ok (protocolToBytes m.protocol)
  channelID_eq : slice (dataHeader m ++ (packPayload z ++ tail)) 1 17 = .ok m.channelID.bytes
  compression_eq : index (dataHeader m ++ (packPayload z ++ tail)) 17 = .ok m.compression
  body_eq : lengthPrefixed w (dataHeader m ++ (packPayload z ++ tail)) 22
    "invalid data message length" = .ok (UInt32.ofNat z.length, z)
  tail_eq : sliceFrom (dataHeader m ++ (packPayload z ++ tail))
    ((22 + z.length : ℕ) : Int) = .ok tail
  length_eq : (dataHeader m ++ (packPayload z ++ tail)).length = 22 + z.length + tail.length

theorem dataPrefix (m : DataMessage) (tail : Bytes)
    (hz : z.length < 2147483648) (hfits : FitsInt w (22 + z.length)) : DataPrefix w m z tail where
  protocol_eq := rfl
  channelID_eq := by simp [dataHeader]
  compression_eq := by simp [dataHeader]
  body_eq := lengthPrefixed_packPayload w (dataHeader m) z tail _ (by simp) hfits (by omega)
  tail_eq := by
    have hread : sliceFrom ((dataHeader m ++ packPayload z) ++ tail)
        ((22 + z.length : ℕ) : Int) = .ok tail := by
      apply sliceFrom_append
      simp only [length_append, dataHeader_length, packPayload_length]
      omega
    rwa [append_assoc] at hread
  length_eq := by
    simp only [length_append, dataHeader_length, packPayload_length]
    omega

/-- Datagrams come back with both addresses. -/
theorem readsBack_data_udp (w : IntSize) (hL : L.uuid.Lawful) (m : DataMessage)
    (hdata : DataFits L m) (hudp : m.protocol = udp)
    (haddress : m.address.length ≤ 255 ∧ 0 ≤ m.port ∧ m.port < 65536)
    (htarget : m.targetAddr.length ≤ 255 ∧ 0 ≤ m.targetPort ∧ m.targetPort < 65536) :
    ReadsBack w (packData L m) (parseData w L) m := by
  obtain ⟨z, hpack, hz, hparse⟩ := packCompressed_parseCompressed hdata
  have hsequence := packSequence_length_le m.sequence
  have hpacked := packData_eq hL hpack
  rw [if_pos hudp] at hpacked
  simp only [append_assoc] at hpacked
  refine ⟨_, hpacked, ?_, ?_⟩
  · simp only [length_append, dataHeader_length, packPayload_length,
      packString_length, putPort_length]
    omega
  · intro hroom
    have hfits : FitsInt w (22 + z.length) := by
      refine hroom.mono ?_
      simp only [length_append, dataHeader_length, packPayload_length]
      omega
    have hp := dataPrefix m (packString m.address ++ (putPort m.port ++
      (packString m.targetAddr ++ (putPort m.targetPort ++ packSequence m.sequence)))) hz hfits
    have hproto := (bytesToProtocol_eq_udp_iff m.protocol).mpr hudp
    -- the two addresses, one behind the other
    have hfirst := parseAddress_packString m.address m.port
      (packString m.targetAddr ++ (putPort m.targetPort ++
        packSequence m.sequence)) 1 "invalid udp data message"
      "invalid udp data message length" haddress.1 haddress.2
      (by simp only [length_append, packString_length]; omega)
    have hsecond := parseAddress_packString m.targetAddr m.targetPort
      (packSequence m.sequence) 0 "invalid udp data message"
      "invalid udp data message target address" htarget.1 htarget.2
      (Nat.zero_le _)
    have hskip : ∀ (s : GoString) (p : Int) (rest : Bytes),
        sliceFrom (packString s ++ (putPort p ++ rest))
          ((1 + s.length + 2 : ℕ) : Int) = .ok rest := by
      intro s p rest
      have hread : sliceFrom ((packString s ++ putPort p) ++ rest)
          ((1 + s.length + 2 : ℕ) : Int) = .ok rest := by
        apply sliceFrom_append
        simp only [length_append, packString_length, putPort_length]
      rwa [append_assoc] at hread
    rw [parseData, if_neg (by rw [hp.length_eq]; omega)]
    simp only [hp.protocol_eq, ok_bind, hp.channelID_eq, parseUUID_bytes hL,
      hp.compression_eq, hp.body_eq, hparse, dataOffset_eq hfits hz, hproto,
      if_true, hp.tail_eq, hfirst, hskip, hsecond]
    by_cases hzero : m.sequence = 0
    · rw [packSequence_zero hzero, if_neg (by simp), pure_eq_ok, ← hudp, ← hzero]
    · have hall : slice (putUint64 m.sequence) 0 8 = .ok (putUint64 m.sequence) := rfl
      rw [packSequence_ne_zero hzero, if_pos (by simp), hall, ok_bind,
        binaryUint64_putUint64, ok_bind, pure_eq_ok, ← hudp]

/-- Other data comes back without addresses. -/
theorem readsBack_data_other (w : IntSize) (hL : L.uuid.Lawful) (m : DataMessage)
    (hdata : DataFits L m) (hne : ¬ m.protocol = udp) : ReadsBack w (packData L m) (parseData w L)
      { m with protocol := bytesToProtocol (protocolToBytes m.protocol),
               address := [], port := 0, targetAddr := [],
               targetPort := 0 } := by
  have hother : ¬ bytesToProtocol (protocolToBytes m.protocol) = udp := by
    rwa [bytesToProtocol_eq_udp_iff]
  obtain ⟨z, hpack, hz, hparse⟩ := packCompressed_parseCompressed hdata
  have hsequence := packSequence_length_le m.sequence
  have hpacked := packData_eq hL hpack
  rw [if_neg hne, nil_append] at hpacked
  refine ⟨_, hpacked, ?_, ?_⟩
  · simp only [length_append, dataHeader_length, packPayload_length]
    omega
  · intro hroom
    have hfits : FitsInt w (22 + z.length) := by
      refine hroom.mono ?_
      simp only [length_append, dataHeader_length, packPayload_length]
      omega
    have hp := dataPrefix m (packSequence m.sequence) hz hfits
    have hnext : w.add ((22 + z.length : ℕ) : Int) 8 = ((22 + z.length + 8 : ℕ) : Int) := by
      refine FitsInt.add_eq (b := 8) (hroom.mono ?_)
      rw [hp.length_eq]
      omega
    rw [parseData, if_neg (by rw [hp.length_eq]; omega)]
    simp only [hp.protocol_eq, ok_bind, hp.channelID_eq, parseUUID_bytes hL,
      hp.compression_eq, hp.body_eq, hparse, dataOffset_eq hfits hz,
      if_neg hother, hnext, hp.length_eq]
    by_cases hzero : m.sequence = 0
    · rw [packSequence_zero hzero, if_neg (by rw [length_nil]; omega), pure_eq_ok, ← hzero]
    · have hall : sliceInt (dataHeader m ++ (packPayload z ++
          putUint64 m.sequence)) ((22 + z.length : ℕ) : Int)
            ((22 + z.length + 8 : ℕ) : Int) = .ok (putUint64 m.sequence) := by
        have hread := slice_middle (dataHeader m ++ packPayload z) (putUint64 m.sequence) []
          (show 22 + z.length = _ by simp; omega) (show 22 + z.length + 8 = _ by simp; omega)
        rw [append_assoc] at hread
        exact hread
      have hlength := putUint64_length m.sequence
      rw [packSequence_ne_zero hzero, if_pos (by omega), hall, ok_bind,
        binaryUint64_putUint64, ok_bind, pure_eq_ok]

/-! ## Frames -/

/-- A format that reads back its fields reads back whole frames. -/
theorem ReadsBack.frame {m : BaseMessage} {v msgType : UInt8}
    {pack : Result Bytes} {parse : Bytes → Result α} {ctor : α → BaseMessage}
    {x : α} (h : ReadsBack w pack parse x) (hv : protocolMajor v = 0 ∨ protocolMajor v = 2)
    (hpack : packBody L m = (msgType, ·) <$> pack) (hparse : ∀ payload,
      parseMessageBody w L msgType payload = ctor <$> parse payload)
    (hnormalize : normalize m = ctor x) : ∃ frame, packMessageWithVersion L m v = .ok frame ∧
      ((w = .bits32 → frame.length + 6 < 2147483648) →
        parseMessageWithVersion w L frame = (.ok (normalize m), v)) := by
  obtain ⟨payload, hok, hlength, hread⟩ := h
  refine ⟨v :: msgType :: payload, ?_, ?_⟩
  · rw [packMessageWithVersion, hpack, hok]
    rfl
  · intro hroom
    have hfits : FitsInt w (payload.length + 8) := by
      cases w with
      | bits32 => exact hroom rfl
      | bits64 =>
        exact show payload.length + 8 < 9223372036854775808 by omega
    rw [parseMessageWithVersion_eq ((protocolMajorSupported_iff v).mpr hv), hparse, hread hfits,
      map_ok, hnormalize]

/-- Every packable message survives the wire, up to the fields its frame does
not carry.  On a 32-bit platform the frame must stay six bytes below the
largest slice, which the read limit of a connection guarantees. -/
theorem parseMessageWithVersion_packMessageWithVersion
    (w : IntSize) (L : Lib) (hL : L.uuid.Lawful) (m : BaseMessage)
    (v : UInt8) (hv : protocolMajor v = 0 ∨ protocolMajor v = 2) (hm : Packable L m) :
    ∃ frame, packMessageWithVersion L m v = .ok frame ∧
      ((w = .bits32 → frame.length + 6 < 2147483648) →
        parseMessageWithVersion w L frame = (.ok (normalize m), v)) := by
  cases m with
  | auth m => exact (readsBack_auth w hL m hm).frame hv rfl (fun _ => rfl) rfl
  | authResponse m =>
    exact (readsBack_authResponse w m hm).frame hv rfl (fun _ => rfl) rfl
  | connect m =>
    rcases hm with ⟨htcp, haddress, hport⟩ | hudp
    · exact (readsBack_connect_tcp w hL m htcp haddress hport).frame hv rfl
        (fun _ => rfl) (by rw [normalize, if_neg (by rw [htcp]; decide)])
    · have hread := readsBack_connect_other w hL m (by rw [hudp]; decide)
      rw [bytesToProtocol_protocolToBytes (Or.inr hudp)] at hread
      exact hread.frame hv rfl (fun _ => rfl) (by rw [normalize, if_pos hudp])
  | connectResponse m =>
    exact (readsBack_connectResponse w hL m hm).frame hv rfl (fun _ => rfl) rfl
  | data m =>
    obtain ⟨hdata, htcp | ⟨hudp, haddress, htarget⟩⟩ := hm
    · have hread := readsBack_data_other w hL m hdata (by rw [htcp]; decide)
      rw [bytesToProtocol_protocolToBytes (Or.inl htcp)] at hread
      exact hread.frame hv rfl (fun _ => rfl) (by rw [normalize, if_pos htcp])
    · exact (readsBack_data_udp w hL m hdata hudp haddress htarget).frame hv
        rfl (fun _ => rfl) (by rw [normalize, if_neg (by rw [hudp]; decide)])
  | disconnect m =>
    exact (readsBack_disconnect w hL m hm).frame hv rfl (fun _ => rfl) rfl
  | connector m =>
    exact (readsBack_connector w hL m hm.1 hm.2).frame hv rfl (fun _ => rfl) rfl
  | connectorResponse m =>
    exact (readsBack_connectorResponse w hL m hm).frame hv rfl (fun _ => rfl) rfl
  | channelOpen m =>
    exact (readsBack_channelOpen w hL m).frame hv rfl (fun _ => rfl) rfl
  | sealed m =>
    exact (readsBack_sealed w hL m hm).frame hv rfl (fun _ => rfl) rfl
  | webData m =>
    exact (readsBack_webData w hL m hm).frame hv rfl (fun _ => rfl) rfl
  | webSocketFrame m =>
    exact (readsBack_webSocketFrame w hL m hm.1 hm.2).frame hv rfl (fun _ => rfl) rfl
  | log m | partners m | directCapabilities m | directRendezvous m
  | directStatus m | channelBind m | channelMigrate m | channelMigrateAck m
  | channelDataAck m | webRegister m | webRegisterResponse m | webRequest m
  | webResponse m | webCancel m | webRotate m =>
    exact (readsBack_json w _ m _ hm).frame hv rfl (fun _ => rfl) rfl
  | unknown b => exact hm.elim

def helloText : Bytes := ascii "hello world"

def helloGzip : Bytes :=
  [0x1f, 0x8b, 0x08, 0x00, 0x00, 0x00, 0x00, 0x00, 0x00, 0xff, 0xca, 0x48,
    0xcd, 0xc9, 0xc9, 0x57, 0x28, 0xcf, 0x2f, 0xca, 0x49, 0x01, 0x04, 0x00,
    0x00, 0xff, 0xff, 0x85, 0x11, 0x4a, 0x0d, 0x0b, 0x00, 0x00, 0x00]

/-- Gzip at that one text; other streams have a bad header. -/
def helloCodec : Gzip where
  compress b :=
    if b = helloText then .ok helloGzip
    else .error (.write (.msg "gzip: write"))
  decompress z limit :=
    if z = helloGzip then .ok (helloText.take limit)
    else .error (.create (.msg "gzip: invalid header"))

/-- A compressed datagram with both addresses and a sequence number. -/
def helloDatagram : DataMessage :=
  ⟨udp, UUID.nil, helloText, dataCompressionGzip, ascii "10.0.0.1", 53,
    ascii "example.com", 65535, 7⟩

theorem helloDatagram_roundTrip : Packable (libOf canonicalUUID helloCodec) (.data helloDatagram) ∧
    ∃ frame, packMessageWithVersion (libOf canonicalUUID helloCodec)
        (.data helloDatagram) protocolVersionV2 = .ok frame ∧
      ((IntSize.bits32 = .bits32 → frame.length + 6 < 2147483648) →
        parseMessageWithVersion .bits32 (libOf canonicalUUID helloCodec)
          frame = (.ok (normalize (.data helloDatagram)), protocolVersionV2)) := by
  have hdata : DataFits (libOf canonicalUUID helloCodec) helloDatagram := by
    have hcompress : helloCodec.compress helloText = .ok helloGzip := by
      simp [helloCodec]
    have hdecompress : ∀ n, helloCodec.decompress helloGzip n = .ok (helloText.take n) := by
      simp [helloCodec]
    exact ⟨by decide, helloGzip, hcompress, by decide, hdecompress⟩
  have hm : Packable (libOf canonicalUUID helloCodec) (.data helloDatagram) :=
    ⟨hdata, Or.inr ⟨rfl, by decide, by decide⟩⟩
  exact ⟨hm, parseMessageWithVersion_packMessageWithVersion .bits32
    (libOf canonicalUUID helloCodec) canonicalUUID_lawful
    (.data helloDatagram) protocolVersionV2 (Or.inr (by decide)) hm⟩

end LinkSocks
