import LinkSocks.Proxy.Target
import LinkSocks.Wire.Ranges
import LinkSocks.Wire.RoundTrip

/-!
# Fields that survive the wire

The packer writes `byte(len(s))` without a check, so a text of 256 bytes or
more is truncated silently: the frame is well formed and parses to another
text.  This module says exactly which requests come out as they went in.
-/

namespace LinkSocks

open Go List

/-- The fields of requests that decide who is authenticated, where a
connection goes and what a connector token does. -/
def SameFields : BaseMessage → BaseMessage → Prop
  | .auth a, .auth b => b.token = a.token
  | .connect a, .connect b => b.address = a.address ∧ b.port = a.port ∧ b.resume = a.resume
  | .data a, .data b =>
    (b.address = a.address ∧ b.port = a.port) ∧
      b.targetAddr = a.targetAddr ∧ b.targetPort = a.targetPort
  | .connector a, .connector b => b.connectorToken = a.connectorToken ∧ b.operation = a.operation
  | _, _ => False

/-- Packing fails, or the frame parses to a message with the same fields. -/
def Preserved (w : IntSize) (L : Lib) (m : BaseMessage) (v : UInt8) : Prop :=
  (∃ e, packMessageWithVersion L m v = .error e) ∨
    ∃ frame m', packMessageWithVersion L m v = .ok frame ∧
      (parseMessageWithVersion w L frame).1 = .ok m' ∧ SameFields m m'

/-- The fields fit their encoding, and those that the format of the message
does not carry are empty. -/
def FieldsFit : BaseMessage → Prop
  | .auth m => m.token.length ≤ 255
  | .connect m =>
    if m.protocol = tcp then AddressFits m.address m.port
    else m.address = [] ∧ m.port = 0
  | .data m =>
    (if m.protocol = udp then AddressFits m.address m.port ∧ AddressFits m.targetAddr m.targetPort
    else (m.address = [] ∧ m.port = 0) ∧ m.targetAddr = [] ∧ m.targetPort = 0) ∧
    (m.compression = dataCompressionGzip → m.data.length ≤ maxWebSocketMessageSize)
  | .connector m => m.connectorToken.length ≤ 255 ∧ (m.operation = opAdd ∨ m.operation = opRemove)
  | _ => False

/-- Gzip on a memory buffer: compression succeeds, and decompression with a
limit gives the first bytes of what was compressed. -/
def Gzip.Lawful (g : Gzip) : Prop :=
  ∀ d, ∃ z, g.compress d = .ok z ∧ ∀ n, g.decompress z n = .ok (d.take n)

/-- The payload of a data message stays below 2 GiB as it is written. -/
def PayloadBelow (L : Lib) : BaseMessage → Prop
  | .data m => ∀ z, packCompressed L m = .ok z → z.length + 1024 < 2147483648
  | _ => True

/-- The four kinds of message whose fields are at stake. -/
def IsRequest : BaseMessage → Prop
  | .auth _ | .connect _ | .data _ | .connector _ => True
  | _ => False

/-! ## Fields that fit are preserved -/

variable {L : Lib} {w : IntSize} {m : BaseMessage}

theorem ReadsBack.preserved {v msgType : UInt8}
    {pack : Result Bytes} {parse : Bytes → Result α} {ctor : α → BaseMessage}
    {x : α} (h : ReadsBack w pack parse x) (hv : protocolMajor v = 0 ∨ protocolMajor v = 2)
    (hpack : packBody L m = (msgType, ·) <$> pack) (hparse : ∀ payload,
      parseMessageBody w L msgType payload = ctor <$> parse payload)
    (hsmall : ∀ payload, pack = .ok payload → FitsInt w (payload.length + 8))
    (hsame : SameFields m (ctor x)) : Preserved w L m v := by
  obtain ⟨payload, hok, -, hread⟩ := h
  refine Or.inr ⟨v :: msgType :: payload, ctor x, ?_, ?_, hsame⟩
  · rw [packMessageWithVersion, hpack, hok]
    rfl
  · rw [parseMessageWithVersion_eq ((protocolMajorSupported_iff v).mpr hv), hparse,
      hread (hsmall payload hok), map_ok]

theorem packCompressed_ok (hG : L.gzip.Lawful) (m : DataMessage) :
    ∃ z, packCompressed L m = .ok z := by
  by_cases hgzip : m.compression = dataCompressionGzip
  · obtain ⟨z, hz, -⟩ := hG m.data
    exact ⟨z, by rw [packCompressed, if_pos hgzip, hz]⟩
  · exact ⟨m.data, by rw [packCompressed, if_neg hgzip]⟩

theorem dataFits_of_below (hG : L.gzip.Lawful) {m : DataMessage} (hsmall : PayloadBelow L (.data m))
    (hbound : m.compression = dataCompressionGzip → m.data.length ≤ maxWebSocketMessageSize) :
    DataFits L m := by
  by_cases hgzip : m.compression = dataCompressionGzip
  · obtain ⟨z, hz, hdecompress⟩ := hG m.data
    have hlen := hsmall z (by rw [packCompressed, if_pos hgzip, hz])
    rw [DataFits, if_pos hgzip]
    exact ⟨hbound hgzip, z, hz, by omega, hdecompress⟩
  · have hlen := hsmall m.data (by rw [packCompressed, if_neg hgzip])
    rw [DataFits, if_neg hgzip]
    omega

variable {payload : Bytes}

theorem packData_small (hL : L.uuid.Lawful) (hG : L.gzip.Lawful)
    {m : DataMessage} (hsmall : PayloadBelow L (.data m)) (hfits : m.protocol = udp →
      m.address.length ≤ 255 ∧ m.targetAddr.length ≤ 255) (hpack : packData L m = .ok payload) :
    FitsInt w (payload.length + 8) := by
  obtain ⟨z, hz⟩ := packCompressed_ok hG m
  have hlen := hsmall z hz
  have hsequence := packSequence_length_le m.sequence
  rw [packData_eq hL hz] at hpack
  cases hpack
  apply fitsInt_of_lt
  by_cases hudp : m.protocol = udp
  · obtain ⟨haddress, htarget⟩ := hfits hudp
    simp only [if_pos hudp, length_append, dataHeader_length,
      packPayload_length, packString_length, putPort_length]
    omega
  · simp only [if_neg hudp, length_append, dataHeader_length, packPayload_length, length_nil]
    omega

theorem packConnect_small (hL : L.uuid.Lawful) {m : ConnectMessage}
    (hfits : m.protocol = tcp → m.address.length ≤ 255) (hpack : packConnect L m = .ok payload) :
    FitsInt w (payload.length + 8) := by
  have hresume : (packResume m.resume).length ≤ 1 := by
    rw [packResume]
    split <;> simp
  rw [packConnect, packUUID_eq hL] at hpack
  cases hpack
  apply fitsInt_of_lt
  by_cases htcp : m.protocol = tcp
  · have haddress := hfits htcp
    simp only [if_pos htcp, length_append, length_cons,
      packString_length, putPort_length, UUID.length_bytes]
    omega
  · simp only [if_neg htcp, length_append, length_cons, length_nil, UUID.length_bytes]
    omega

theorem preserved_of_fieldsFit (w : IntSize) (hL : L.uuid.Lawful) (hG : L.gzip.Lawful) {v : UInt8}
    (hv : protocolMajor v = 0 ∨ protocolMajor v = 2)
    (hsmall : PayloadBelow L m) (hfit : FieldsFit m) : Preserved w L m v := by
  cases m with
  | auth m =>
    have htoken : m.token.length ≤ 255 := hfit
    refine (readsBack_auth w hL m hfit).preserved hv rfl (fun _ => rfl) ?_ rfl
    intro payload hpack
    rw [packAuth, packUUID_eq hL] at hpack
    cases hpack
    apply fitsInt_of_lt
    simp only [length_append, length_cons, packString_length, UUID.length_bytes]
    omega
  | connect m =>
    by_cases htcp : m.protocol = tcp
    · have haddress : AddressFits m.address m.port := by
        rwa [FieldsFit, if_pos htcp] at hfit
      refine (readsBack_connect_tcp w hL m htcp haddress.1
        haddress.2).preserved hv rfl (fun _ => rfl) ?_ ⟨rfl, rfl, rfl⟩
      intro payload hpack
      exact packConnect_small hL (fun _ => haddress.1) hpack
    · have hempty : m.address = [] ∧ m.port = 0 := by
        rwa [FieldsFit, if_neg htcp] at hfit
      refine (readsBack_connect_other w hL m htcp).preserved hv rfl
        (fun _ => rfl) ?_ ⟨hempty.1.symm, hempty.2.symm, rfl⟩
      intro payload hpack
      exact packConnect_small hL (fun h => absurd h htcp) hpack
  | data m =>
    obtain ⟨hfields, hbound⟩ := hfit
    have hdata := dataFits_of_below hG hsmall hbound
    by_cases hudp : m.protocol = udp
    · rw [if_pos hudp] at hfields
      obtain ⟨haddress, htarget⟩ := hfields
      refine (readsBack_data_udp w hL m hdata hudp haddress
        htarget).preserved hv rfl (fun _ => rfl) ?_ ⟨⟨rfl, rfl⟩, rfl, rfl⟩
      intro payload hpack
      exact packData_small hL hG hsmall (fun _ => ⟨haddress.1, htarget.1⟩) hpack
    · rw [if_neg hudp] at hfields
      obtain ⟨⟨ha, hp⟩, hta, htp⟩ := hfields
      refine (readsBack_data_other w hL m hdata hudp).preserved hv rfl
        (fun _ => rfl) ?_ ⟨⟨ha.symm, hp.symm⟩, hta.symm, htp.symm⟩
      intro payload hpack
      exact packData_small hL hG hsmall (fun h => absurd h hudp) hpack
  | connector m =>
    have htoken : m.connectorToken.length ≤ 255 := hfit.1
    refine (readsBack_connector w hL m hfit.1 hfit.2).preserved hv rfl (fun _ => rfl) ?_ ⟨rfl, rfl⟩
    intro payload hpack
    rw [packConnector, packUUID_eq hL] at hpack
    cases hpack
    apply fitsInt_of_lt
    simp only [length_append, length_singleton, packString_length, UUID.length_bytes]
    omega
  | _ => exact hfit.elim

/-! ## Preserved fields fit -/

/-- A message that packs is preserved by the parser of its fields, which sees
them behind the version and the type. -/
theorem Preserved.parsed {v msgType : UInt8} (h : Preserved w L m v)
    (hv : protocolMajor v = 0 ∨ protocolMajor v = 2)
    (hbody : packBody L m = .ok (msgType, payload)) :
    ∃ m', parseMessageBody w L msgType payload = .ok m' ∧ SameFields m m' := by
  rcases h with ⟨e, he⟩ | ⟨frame, m', hpack, hparse, hsame⟩
  · rw [packMessageWithVersion, hbody] at he
    cases he
  · rw [packMessageWithVersion, hbody] at hpack
    cases hpack
    rw [parseMessageWithVersion_eq ((protocolMajorSupported_iff v).mpr hv)] at hparse
    exact ⟨m', hparse, hsame⟩

/-- Decompression is bounded, so a longer payload does not come back. -/
theorem data_bound_of_parse (hG : L.gzip.Lawful) {m m' : DataMessage}
    {z tail : Bytes} (hz : packCompressed L m = .ok z) (hlen : z.length + 1024 < 2147483648)
    (hgzip : m.compression = dataCompressionGzip)
    (h : parseData w L (dataHeader m ++ (packPayload z ++ tail)) = .ok m') :
    m.data.length ≤ maxWebSocketMessageSize := by
  have hp := dataPrefix m tail (show z.length < 2147483648 by omega)
    (fitsInt_of_lt w (show 22 + z.length < 2147483648 by omega))
  obtain ⟨-, h⟩ := guard_eq_ok h
  obtain ⟨flag, -, h⟩ := bind_eq_ok h
  obtain ⟨raw, -, h⟩ := bind_eq_ok h
  obtain ⟨channelID, -, h⟩ := bind_eq_ok h
  rw [hp.compression_eq, ok_bind, hp.body_eq, ok_bind] at h
  obtain ⟨data, hdata, -⟩ := bind_eq_ok h
  obtain ⟨z', hz', hdecompress⟩ := hG m.data
  have hzz : z' = z := by
    rw [packCompressed, if_pos hgzip, hz'] at hz
    cases hz
    rfl
  subst hzz
  rw [parseCompressed, if_pos hgzip, hdecompress] at hdata
  obtain ⟨hshort, -⟩ := guard_eq_ok hdata
  rw [length_take] at hshort
  omega

theorem fieldsFit_of_preserved (hL : L.uuid.Lawful) (hG : L.gzip.Lawful) (hm : IsRequest m)
    {v : UInt8} (hv : protocolMajor v = 0 ∨ protocolMajor v = 2)
    (hsmall : PayloadBelow L m) (h : Preserved w L m v) : FieldsFit m := by
  cases m with
  | auth m =>
    have hbody : packBody L (.auth m) = .ok (binaryTypeAuth,
        packString m.token ++ boolToByte m.reverse :: m.instanceID.bytes) := by
      rw [packBody, packAuth, packUUID_eq hL]
      rfl
    obtain ⟨m', hparse, hsame⟩ := h.parsed hv hbody
    obtain ⟨a, ha, rfl⟩ := map_eq_ok hparse
    have htoken : a.token = m.token := hsame
    exact show m.token.length ≤ 255 from
      htoken ▸ parseAuth_token_length ha
  | connect m =>
    obtain ⟨rest, hbody⟩ : ∃ rest, packBody L (.connect m) =
        .ok (binaryTypeConnect, protocolToBytes m.protocol :: rest) := by
      rw [packBody, packConnect, packUUID_eq hL]
      exact ⟨_, rfl⟩
    obtain ⟨m', hparse, hsame⟩ := h.parsed hv hbody
    obtain ⟨a, ha, rfl⟩ := map_eq_ok hparse
    obtain ⟨haddress, hport, -⟩ := hsame
    obtain ⟨hfits, hother⟩ := parseConnect_fits ha
    rw [haddress, hport] at hfits hother
    rw [FieldsFit]
    split
    · exact hfits
    · exact hother (by rwa [ne_eq, bytesToProtocol_eq_tcp_iff])
  | data m =>
    obtain ⟨z, hz⟩ := packCompressed_ok hG m
    obtain ⟨tail, hbody⟩ : ∃ tail, packBody L (.data m) =
        .ok (binaryTypeData, dataHeader m ++ (packPayload z ++ tail)) := by
      rw [packBody, packData_eq hL hz]
      exact ⟨_, rfl⟩
    obtain ⟨m', hparse, hsame⟩ := h.parsed hv hbody
    obtain ⟨a, ha, rfl⟩ := map_eq_ok hparse
    obtain ⟨⟨haddress, hport⟩, htarget, htargetPort⟩ := hsame
    obtain ⟨hfits, hother⟩ := parseData_fits ha
    rw [haddress, hport, htarget, htargetPort] at hfits hother
    refine ⟨?_, fun hgzip => data_bound_of_parse hG hz (hsmall z hz) hgzip ha⟩
    split
    · exact hfits
    · exact hother (by rwa [ne_eq, bytesToProtocol_eq_udp_iff])
  | connector m =>
    have hbody : packBody L (.connector m) = .ok (binaryTypeConnector,
        m.channelID.bytes ++ (packString m.connectorToken ++ [operationToBytes m.operation])) := by
      rw [packBody, packConnector, packUUID_eq hL]
      rfl
    obtain ⟨m', hparse, hsame⟩ := h.parsed hv hbody
    obtain ⟨a, ha, rfl⟩ := map_eq_ok hparse
    obtain ⟨htoken, hop⟩ := hsame
    obtain ⟨hlen, hknown⟩ := parseConnector_fits ha
    rw [htoken] at hlen
    rw [hop] at hknown
    exact ⟨hlen, hknown⟩
  | _ => exact hm.elim

/-- Requests keep their fields exactly when the fields fit, and the request of
an accepted `CONNECT` keeps its destination exactly when its host has at most
255 bytes. -/
theorem preserved_iff (w : IntSize) (L : Lib) (hL : L.uuid.Lawful) (hG : L.gzip.Lawful)
    (v : UInt8) (hv : protocolMajor v = 0 ∨ protocolMajor v = 2) :
    (∀ m, IsRequest m → PayloadBelow L m → (Preserved w L m v ↔ FieldsFit m)) ∧
    ∀ (T : TargetLib) (checkEntryAccess : GoString → Int → Except Error Unit)
      (requestHost : GoString) (channelID : UUID) (m : ConnectMessage),
      httpConnectRequest T checkEntryAccess requestHost channelID = .ok m →
        (Preserved w L (.connect m) v ↔ m.address.length ≤ 255) := by
  have hiff : ∀ m, IsRequest m → PayloadBelow L m → (Preserved w L m v ↔ FieldsFit m) := by
    intro m hm hsmall
    exact ⟨fieldsFit_of_preserved hL hG hm hv hsmall, preserved_of_fieldsFit w hL hG hv hsmall⟩
  refine ⟨hiff, ?_⟩
  intro T checkEntryAccess requestHost channelID m hrequest
  obtain ⟨htcp, hport⟩ := httpConnectRequest_stream hrequest
  rw [hiff (.connect m) trivial trivial, FieldsFit, if_pos htcp]
  exact ⟨fun h => h.1, fun h => ⟨h, hport⟩⟩

/-- Gzip without compression: enough for messages that do not ask for it. -/
def storedGzip : Gzip where
  compress b := .ok b
  decompress z limit := .ok (z.take limit)

theorem storedGzip_lawful : storedGzip.Lawful := fun d => ⟨d, rfl, fun _ => rfl⟩

def requestLib : Lib := libOf canonicalUUID storedGzip

/-- Targets without a scheme or a port: the default port applies. -/
def bareTargets : TargetLib where
  trimSpace s := s
  toLower s := s
  urlParse _ := .error (.msg "net/url: parse error")
  splitHostPort _ := .error (.msg "missing port in address")
  atoi _ := .error (.msg "invalid syntax")
  quote _ := ""

def longHost : GoString := List.replicate 256 97

/-- The request of a `CONNECT` to the long host. -/
def longRequest : ConnectMessage := ⟨tcp, longHost, 443, UUID.nil, false⟩

theorem preserved_iff_example : IsRequest (.auth ⟨ascii "token", true, UUID.nil⟩) ∧
      (Preserved .bits64 requestLib (.auth ⟨ascii "token", true, UUID.nil⟩) protocolVersionV1 ↔
        FieldsFit (.auth ⟨ascii "token", true, UUID.nil⟩)) :=
  ⟨trivial, (preserved_iff .bits64 requestLib canonicalUUID_lawful
    storedGzip_lawful protocolVersionV1 (Or.inl (by decide))).1
      (.auth ⟨ascii "token", true, UUID.nil⟩) trivial trivial⟩

/-- The long host is accepted and passes an open access rule, but the frame
carries another destination. -/
theorem longRequest_not_preserved :
    httpConnectRequest bareTargets (fun _ _ => .ok ()) longHost UUID.nil = .ok longRequest ∧
      ¬ Preserved .bits64 requestLib (.connect longRequest)
        protocolVersionV2 := by
  refine ⟨by decide +kernel, ?_⟩
  intro h
  have hfit := fieldsFit_of_preserved canonicalUUID_lawful storedGzip_lawful
    (show IsRequest (.connect longRequest) from trivial)
    (Or.inr (by decide)) trivial h
  exact absurd hfit.1 (by decide +kernel)

end LinkSocks
