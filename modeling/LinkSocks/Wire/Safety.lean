import LinkSocks.Wire.Fields

/-!
# Memory safety of the parser

Which frames make the parser evaluate an index or a slice expression out of
bounds.  On a 64-bit platform none does.  On a 32-bit platform the guard
`len(payload) < h+int(dataLen)` of the length-prefixed formats wraps around
when the header and the declared length reach `2 ^ 31`; it then lets the frame
pass, and the slice expression behind it is out of bounds.
-/

namespace LinkSocks

open Go

/-! ## The declared length -/

/-- Header size of the formats that declare the length of their payload. -/
def lengthHeader (msgType : UInt8) : Option ℕ :=
  if msgType = binaryTypeData then some 22
  else if msgType = binaryTypeSealed then some 20
  else if msgType = binaryTypeWebData then some 21
  else if msgType ∈ [binaryTypeLog, binaryTypePartners,
      binaryTypeDirectCapabilities, binaryTypeDirectRendezvous,
      binaryTypeDirectStatus, binaryTypeChannelBind, binaryTypeChannelMigrate,
      binaryTypeChannelMigrateAck, binaryTypeChannelDataAck,
      binaryTypeWebRegister, binaryTypeWebRegisterResponse,
      binaryTypeWebRequest, binaryTypeWebResponse, binaryTypeWebCancel,
      binaryTypeWebRotate] then some 4
  else none

/-- The length declared in the last four bytes of a header of `h` bytes. -/
def declaredLength (payload : Bytes) (h : ℕ) : ℕ :=
  (uint32 (payload.getD (h - 4) 0) (payload.getD (h - 3) 0)
    (payload.getD (h - 2) 0) (payload.getD (h - 1) 0)).toNat

/-- The header is complete, and together with the length it declares it
exceeds the largest 32-bit `int`. -/
def LengthOverflows (msgType : UInt8) (payload : Bytes) : Prop :=
  ∃ h, lengthHeader msgType = some h ∧ h ≤ payload.length ∧
    2147483648 ≤ h + declaredLength payload h

theorem index_eq_getD {b : Bytes} {i : ℕ} (h : i < b.length) : index b i = .ok (b.getD i 0) := by
  rw [index_of_lt h, List.getD_eq_getElem _ _ h]
  rfl

variable {payload : Bytes} {h : ℕ}

theorem uint32At_eq (h4 : 4 ≤ h) (hh : h ≤ payload.length) : uint32At payload (h - 4) =
      .ok (UInt32.ofNat (declaredLength payload h)) := by
  have e1 : h - 4 + 1 = h - 3 := by omega
  have e2 : h - 4 + 2 = h - 2 := by omega
  have e3 : h - 4 + 3 = h - 1 := by omega
  rw [uint32At, e1, e2, e3, index_eq_getD (by omega), index_eq_getD (by omega),
    index_eq_getD (by omega), index_eq_getD (by omega)]
  simp only [ok_bind, pure_eq_ok, declaredLength, UInt32.ofNat_toNat]

theorem declaredLength_lt (payload : Bytes) (h : ℕ) : declaredLength payload h < 4294967296 :=
  UInt32.toNat_lt _

/-- Where nothing wraps around, the payload is read if the frame has it, and
refused otherwise. -/
theorem lengthPrefixed_eq {w : IntSize} (text : String) (h4 : 4 ≤ h) (hh : h ≤ payload.length)
    (hsize : payload.length ≤ maxWebSocketMessageSize)
    (hno : w = .bits32 → h + declaredLength payload h < 2147483648) :
    lengthPrefixed w payload h text =
      if payload.length < h + declaredLength payload h then fail text
      else .ok (UInt32.ofNat (declaredLength payload h),
        (payload.take (h + declaredLength payload h)).drop h) := by
  have hmax : maxWebSocketMessageSize = 33554432 := rfl
  have hword := declaredLength_lt payload h
  have hfits : FitsInt w (h + declaredLength payload h) := by
    cases w with
    | bits32 => exact hno rfl
    | bits64 =>
      exact show h + declaredLength payload h < 9223372036854775808 by omega
  rw [lengthPrefixed, uint32At_eq h4 hh, ok_bind, hfits.add_ofUInt32 hword]
  by_cases hshort : payload.length < h + declaredLength payload h
  · rw [if_pos hshort, if_pos (by omega)]
  · rw [if_neg hshort, if_neg (by omega), toNat_ofNat_add, Nat.mod_eq_of_lt (by omega),
      slice_of_le (by omega) (by omega)]
    rfl

/-- Where the guard wraps around, the slice expression panics. -/
theorem lengthPrefixed_overflow (text : String)
    (h4 : 4 ≤ h) (h22 : h ≤ 22) (hh : h ≤ payload.length)
    (hsize : payload.length ≤ maxWebSocketMessageSize)
    (hover : 2147483648 ≤ h + declaredLength payload h) :
    lengthPrefixed .bits32 payload h text = .error .panic := by
  have hmax : maxWebSocketMessageSize = 33554432 := rfl
  have hword := declaredLength_lt payload h
  -- the `int` sum is negative, or below `h` when the length is almost `2 ^ 32`
  have hguard : ¬ (payload.length : Int) < IntSize.add .bits32 h (IntSize.ofUInt32 .bits32
        (UInt32.ofNat (declaredLength payload h))) := by
    rw [IntSize.add, IntSize.ofUInt32, uint32Len_toNat hword, IntSize.wrap_bits32,
      IntSize.wrap_bits32]
    split <;> split <;> omega
  -- the `uint32` bound lies behind the frame, or in front of the payload
  have hslice : slice payload h ((h + declaredLength payload h) % 4294967296) = .error .panic := by
    apply slice_out_of_bounds
    omega
  rw [lengthPrefixed, uint32At_eq h4 hh, ok_bind, if_neg hguard, toNat_ofNat_add, hslice]
  rfl

/-! ## Formats without a declared length -/

theorem returns_uuid {L : Lib} {text : String} {lo hi : ℕ} {f : UUID → Result α} (hlo : lo ≤ hi)
    (hhi : hi ≤ payload.length) (hf : ∀ id, Returns (f id)) :
    Returns (slice payload lo hi >>= fun b => parseUUID L text b >>= f) :=
  .slice hlo hhi fun _ _ => (returns_orWrap _ _).bind fun id _ => hf id

theorem returns_uint32At {i : ℕ} (hi : i + 4 ≤ payload.length) : Returns (uint32At payload i) := by
  refine .index (by omega) fun _ => .index (by omega) fun _ => ?_
  exact .index (by omega) fun _ => .index (by omega) fun _ => returns_pure _

theorem returns_parseAddress (rest : Bytes) (extra : ℕ) (emptyText shortText : String) :
    Returns (parseAddress rest extra emptyText shortText) := by
  refine .guard fun h1 => .index (by omega) fun addrLen => .guard fun h2 => ?_
  refine .slice (by omega) (by omega) fun _ _ => ?_
  exact .index (by omega) fun _ => .index (by omega) fun _ => returns_pure _

/-- What an address that is read has come from. -/
theorem parseAddress_ok {rest : Bytes} {extra : ℕ}
    {emptyText shortText : String} {r : ℕ × GoString × Int}
    (h : parseAddress rest extra emptyText shortText = .ok r) :
    1 + r.1 + 2 + extra ≤ rest.length ∧ ∃ len hi lo : UInt8,
      slice rest 1 (1 + len.toNat) = .ok r.2.1 ∧ r.2.2 = port hi lo := by
  obtain ⟨-, h⟩ := guard_eq_ok h
  obtain ⟨len, -, h⟩ := bind_eq_ok h
  obtain ⟨hlen, h⟩ := guard_eq_ok h
  obtain ⟨address, haddress, h⟩ := bind_eq_ok h
  obtain ⟨hi, -, h⟩ := bind_eq_ok h
  obtain ⟨lo, -, h⟩ := bind_eq_ok h
  cases h
  exact ⟨by omega, len, hi, lo, haddress, rfl⟩

section

variable (L : Lib) (payload : Bytes)

theorem returns_parseAuth : Returns (parseAuth L payload) := by
  refine .guard fun h1 => .index (by omega) fun tokenLen => .guard fun h2 => ?_
  refine .slice (by omega) (by omega) fun _ _ => .index (by omega) fun _ => ?_
  exact returns_uuid (by omega) (by omega) fun _ => returns_pure _

theorem returns_parseAuthResponse : Returns (parseAuthResponse payload) := by
  refine .guard fun h1 => .index (by omega) fun success => .ite (fun h2 => ?_) fun _ =>
    .ite (fun h2 => ?_) fun _ => returns_pure _
  all_goals
    refine .index (by omega) fun len => .guard fun h3 => ?_
    exact .slice (by omega) (by omega) fun _ _ => returns_pure _

theorem returns_parseConnect : Returns (parseConnect L payload) := by
  refine .guard fun h1 => .index (by omega) fun protocol => returns_uuid (by omega) (by omega)
    fun channelID => .ite (fun _ => ?_) fun _ => ?_
  · refine .sliceFrom (by omega) (by omega) fun rest _ => ?_
    refine (returns_parseAddress _ _ _ _).bind fun r _ => ?_
    exact .ite (fun hmore => .index hmore fun _ => returns_pure _) fun _ => returns_pure _
  · exact .ite (fun hmore => .index hmore fun _ => returns_pure _) fun _ => returns_pure _

theorem returns_parseConnectResponse : Returns (parseConnectResponse L payload) := by
  refine .guard fun h1 => .index (by omega) fun success => returns_uuid (by omega) (by omega)
    fun channelID => .ite (fun _ => ?_) fun _ => returns_pure _
  refine .guard fun h18 => .index (by omega) fun errorLen => .guard fun h2 => ?_
  exact .slice (by omega) (by omega) fun _ _ => returns_pure _

theorem returns_parseDisconnect : Returns (parseDisconnect L payload) := by
  refine .guard fun h1 => returns_uuid (by omega) (by omega) fun channelID =>
    .ite (fun hmore => ?_) fun _ => returns_pure _
  refine .index hmore fun errLen => .guard fun h2 => .ite (fun _ => ?_) fun _ => returns_pure _
  exact .slice (by omega) (by omega) fun _ _ => returns_pure _

theorem returns_parseConnector : Returns (parseConnector L payload) := by
  refine .guard fun h1 => returns_uuid (by omega) (by omega) fun channelID =>
    .sliceFrom (by omega) (by omega) fun rest _ => ?_
  refine .guard fun h2 => .index (by omega) fun tokenLen => .guard fun h3 => ?_
  refine .slice (by omega) (by omega) fun _ _ => .index (by omega) fun operation => ?_
  exact .guard fun _ => returns_pure _

theorem returns_parseConnectorResponse : Returns (parseConnectorResponse L payload) := by
  refine .guard fun h1 => returns_uuid (by omega) (by omega) fun channelID =>
    .index (by omega) fun success => .ite (fun _ => ?_) fun _ => ?_
  · refine .guard fun h18 => .index (by omega) fun errorLen => .guard fun h2 => ?_
    exact .slice (by omega) (by omega) fun _ _ => returns_pure _
  · refine .ite (fun hmore => ?_) fun _ => returns_pure _
    refine .index hmore fun tokenLen => .guard fun h2 => ?_
    exact .slice (by omega) (by omega) fun _ _ => returns_pure _

theorem returns_parseChannelOpen : Returns (parseChannelOpen L payload) := by
  refine .guard fun h1 => returns_uuid (by omega) (by omega) fun channelID => ?_
  exact .ite (fun hmore => .index hmore fun _ => returns_pure _) fun _ => returns_pure _

theorem returns_parseWebSocketFrame : Returns (parseWebSocketFrame L payload) := by
  refine .guard fun h1 => .slice (by omega) (by omega) fun _ _ => ?_
  refine (returns_orWrap _ _).bind fun channelID _ =>
    .index (by omega) fun opcode => .guard fun _ => ?_
  refine (returns_uint32At (by omega)).bind fun dataLen _ => .guard fun _ => ?_
  exact .sliceFrom (by omega) (by omega) fun _ _ => returns_pure _

end

/-! ## Formats with a declared length -/

section DeclaredLength

/-- The declared length does not overflow. -/
def LengthFits (w : IntSize) (payload : Bytes) (h : ℕ) : Prop :=
  w = .bits32 → h ≤ payload.length → h + declaredLength payload h < 2147483648

theorem returns_parseCompressed (L : Lib) (compression : UInt8) (b : Bytes) :
    Returns (parseCompressed L compression b) := by
  apply Returns.ite
  · intro _
    cases L.gzip.decompress b (maxWebSocketMessageSize + 1) with
    | ok data =>
      exact Returns.ite (fun _ => returns_fail _) (fun _ => returns_ok _)
    | error fault => cases fault <;> simp [Returns]
  · intro _
    exact returns_ok _

theorem returns_binaryUint64 {b : Bytes} (h : b.length = 8) : Returns (binaryUint64 b) := by
  refine .index (by omega) fun _ => .index (by omega) fun _ => ?_
  refine .index (by omega) fun _ => .index (by omega) fun _ => ?_
  refine .index (by omega) fun _ => .index (by omega) fun _ => ?_
  exact .index (by omega) fun _ => .index (by omega) fun _ => returns_pure _

variable {w : IntSize} (L : Lib) (hsize : payload.length ≤ maxWebSocketMessageSize)
include hsize

/-- The payload of a length-prefixed format is read or refused unless the
declared length overflows. -/
theorem returns_lengthPrefixed (text : String)
    (h4 : 4 ≤ h) (hh : h ≤ payload.length) (hno : LengthFits w payload h) :
    Returns (lengthPrefixed w payload h text) := by
  rw [lengthPrefixed_eq text h4 hh hsize fun hw => hno hw hh]
  exact Returns.ite (fun _ => returns_fail _) (fun _ => returns_ok _)

theorem returns_unmarshalJSONMessage (codec : JSONCodec α) (name : String)
    (hno : LengthFits w payload 4) : Returns (unmarshalJSONMessage w codec payload name) := by
  refine .guard fun h1 => ?_
  exact (returns_lengthPrefixed hsize _ (by omega) (by omega) hno).bind fun r _ =>
    returns_orWrap _ _

theorem returns_parseSealed (hno : LengthFits w payload 20) :
    Returns (parseSealed w L payload) := by
  refine .guard fun h1 => returns_uuid (by omega) (by omega) fun channelID => ?_
  exact (returns_lengthPrefixed hsize _ (by omega) (by omega) hno).bind fun r _ => returns_pure _

theorem returns_parseWebData (hno : LengthFits w payload 21) :
    Returns (parseWebData w L payload) := by
  refine .guard fun h1 => .slice (by omega) (by omega) fun _ _ => ?_
  refine (returns_orWrap _ _).bind fun channelID _ => .index (by omega) fun _ => ?_
  exact (returns_lengthPrefixed hsize _ (by omega) (by omega) hno).bind fun r _ => returns_pure _

theorem returns_parseData (hno : LengthFits w payload 22) : Returns (parseData w L payload) := by
  have hmax : maxWebSocketMessageSize = 33554432 := rfl
  refine .guard fun h1 => .index (by omega) fun protocol => returns_uuid (by omega) (by omega)
    fun channelID => .index (by omega) fun compression => ?_
  rw [lengthPrefixed_eq _ (by omega) (by omega) hsize fun hw => hno hw (by omega)]
  by_cases hshort : payload.length < 22 + declaredLength payload 22
  · rw [if_pos hshort]
    exact (returns_fail _).bind fun _ h => by cases h
  rw [if_neg hshort]
  -- the frame holds the payload, so the offset behind it is exact
  have hnext : w.add 22 (w.ofUInt32 (UInt32.ofNat (declaredLength payload 22))) =
        ((22 + declaredLength payload 22 : ℕ) : Int) :=
    FitsInt.add_ofUInt32 (a := 22) (fitsInt_of_lt w (by omega)) (declaredLength_lt payload 22)
  have hnext8 : w.add ((22 + declaredLength payload 22 : ℕ) : Int) 8 =
      ((22 + declaredLength payload 22 + 8 : ℕ) : Int) :=
    FitsInt.add_eq (b := 8) (fitsInt_of_lt w (by omega))
  refine (returns_parseCompressed _ _ _).bind fun data _ => ?_
  simp only [hnext, hnext8]
  refine .ite (fun _ => ?_) fun _ => .ite (fun h8 => ?_) fun _ => returns_pure _
  · refine .sliceFrom (by omega) (by omega) fun rest _ => ?_
    refine (returns_parseAddress _ _ _ _).bind fun r hr => ?_
    obtain ⟨hfirst, -⟩ := parseAddress_ok hr
    refine .sliceFrom (by omega) (by omega) fun rest' _ => ?_
    refine (returns_parseAddress _ _ _ _).bind fun r' hr' => ?_
    obtain ⟨hsecond, -⟩ := parseAddress_ok hr'
    refine .sliceFrom (by omega) (by omega) fun last _ => ?_
    refine .ite (fun h8 => .slice (by omega) h8 fun b hb => ?_) fun _ => returns_pure _
    exact (returns_binaryUint64 hb).bind fun _ _ => returns_pure _
  · refine .slice (by omega) (by omega) fun b hb => ?_
    exact (returns_binaryUint64 (by omega)).bind fun _ _ => returns_pure _

end DeclaredLength

/-! ## Overflowing frames panic -/

section Overflow

variable {L : Lib} {payload : Bytes}

theorem parseUUID_of_length (hL : L.uuid.Lawful) (text : String) {b : Bytes}
    (hb : b.length = 16) : parseUUID L text b = .ok ⟨b, hb⟩ := parseUUID_bytes hL text ⟨b, hb⟩

theorem unmarshalJSONMessage_overflow (codec : JSONCodec α) (name : String)
    (hsize : payload.length ≤ maxWebSocketMessageSize) (hh : 4 ≤ payload.length)
    (hover : 2147483648 ≤ 4 + declaredLength payload 4) :
    unmarshalJSONMessage .bits32 codec payload name = .error .panic := by
  rw [unmarshalJSONMessage, if_neg (by omega),
    lengthPrefixed_overflow _ (by omega) (by omega) hh hsize hover]
  rfl

section

variable (hL : L.uuid.Lawful) (hsize : payload.length ≤ maxWebSocketMessageSize)
include hL hsize

theorem parseSealed_overflow
    (hh : 20 ≤ payload.length) (hover : 2147483648 ≤ 20 + declaredLength payload 20) :
    parseSealed .bits32 L payload = .error .panic := by
  have hid : ((payload.take 16).drop 0).length = 16 := by
    simp only [List.drop_zero, List.length_take]
    omega
  rw [parseSealed, if_neg (by omega), slice_of_le (by omega) (by omega),
    ok_bind, parseUUID_of_length hL _ hid,
    lengthPrefixed_overflow _ (by omega) (by omega) hh hsize hover]
  rfl

theorem parseWebData_overflow (hh : 21 ≤ payload.length)
    (hover : 2147483648 ≤ 21 + declaredLength payload 21) :
    parseWebData .bits32 L payload = .error .panic := by
  have hid : ((payload.take 16).drop 0).length = 16 := by
    simp only [List.drop_zero, List.length_take]
    omega
  have hread : L.uuid.fromBytes ((payload.take 16).drop 0) = .ok ⟨_, hid⟩ :=
    hL.fromBytes_bytes ⟨_, hid⟩
  rw [parseWebData, if_neg (by omega), slice_of_le (by omega) (by omega),
    ok_bind, hread, index_eq_getD (by omega),
    lengthPrefixed_overflow _ (by omega) (by omega) hh hsize hover]
  rfl

theorem parseData_overflow
    (hh : 22 ≤ payload.length) (hover : 2147483648 ≤ 22 + declaredLength payload 22) :
    parseData .bits32 L payload = .error .panic := by
  have hid : ((payload.take 17).drop 1).length = 16 := by
    simp only [List.length_drop, List.length_take]
    omega
  rw [parseData, if_neg (by omega), index_eq_getD (by omega), ok_bind,
    slice_of_le (by omega) (by omega), ok_bind, parseUUID_of_length hL _ hid,
    index_eq_getD (by omega), lengthPrefixed_overflow _ (by omega) (by omega) hh hsize hover]
  rfl

end

theorem map_panic (f : α → β) : f <$> (.error .panic : Result α) = .error .panic := rfl

/-- On a 32-bit platform every overflowing frame panics. -/
theorem parseMessageBody_overflow (hL : L.uuid.Lawful) {msgType : UInt8}
    (hsize : payload.length ≤ maxWebSocketMessageSize) (hover : LengthOverflows msgType payload) :
    parseMessageBody .bits32 L msgType payload = .error .panic := by
  obtain ⟨h, hheader, hh, hsum⟩ := hover
  rw [lengthHeader] at hheader
  split_ifs at hheader with hdata hsealed hweb hmem <;> cases hheader
  · subst hdata
    exact (congrArg _ (parseData_overflow hL hsize hh hsum)).trans (map_panic BaseMessage.data)
  · subst hsealed
    exact (congrArg _ (parseSealed_overflow hL hsize hh hsum)).trans (map_panic BaseMessage.sealed)
  · subst hweb
    exact (congrArg _ (parseWebData_overflow hL hsize hh hsum)).trans
      (map_panic BaseMessage.webData)
  · -- the fifteen JSON formats differ in their codec and their name only
    have hjson {α : Type} (codec : JSONCodec α) (name : String) (ctor : α → BaseMessage) :
        ctor <$> unmarshalJSONMessage .bits32 codec payload name = .error .panic := by
      rw [unmarshalJSONMessage_overflow codec name hsize hh hsum]
      rfl
    simp only [List.mem_cons, List.not_mem_nil, or_false] at hmem
    rcases hmem with rfl | rfl | rfl | rfl | rfl | rfl | rfl | rfl | rfl |
      rfl | rfl | rfl | rfl | rfl | rfl
    all_goals exact hjson _ _ _

end Overflow

/-! ## Whole frames -/

/-- No message makes the parser panic unless its length overflows. -/
theorem returns_parseMessageBody {w : IntSize} {L : Lib} {msgType : UInt8}
    (hsize : payload.length ≤ maxWebSocketMessageSize)
    (hno : w = .bits32 → ¬ LengthOverflows msgType payload) :
    Returns (parseMessageBody w L msgType payload) := by
  have hbound : ∀ {h : ℕ}, lengthHeader msgType = some h → LengthFits w payload h := by
    intro h hheader hw hh
    by_contra hsum
    exact hno hw ⟨h, hheader, hh, by omega⟩
  have hjson : lengthHeader msgType = some 4 → ∀ {α : Type}
      (codec : JSONCodec α) (name : String) (ctor : α → BaseMessage),
      Returns (ctor <$> unmarshalJSONMessage w codec payload name) := by
    intro hheader α codec name ctor
    exact (returns_unmarshalJSONMessage hsize codec name (hbound hheader)).map ctor
  -- one format after the other, in the order of the parser
  refine .ite (fun _ => (returns_parseAuth L payload).map _) fun _ => ?_
  refine .ite (fun _ => (returns_parseAuthResponse payload).map _) fun _ => ?_
  refine .ite (fun _ => (returns_parseConnect L payload).map _) fun _ => ?_
  refine .ite (fun _ => (returns_parseConnectResponse L payload).map _) fun _ => ?_
  refine .ite (fun ht => (returns_parseData L hsize (hbound (by rw [ht]; rfl))).map _) fun _ => ?_
  refine .ite (fun _ => (returns_parseDisconnect L payload).map _) fun _ => ?_
  refine .ite (fun _ => (returns_parseConnector L payload).map _) fun _ => ?_
  refine .ite (fun _ => (returns_parseConnectorResponse L payload).map _) fun _ => ?_
  iterate 9 refine .ite (fun ht => hjson (by rw [ht]; rfl) _ _ _) fun _ => ?_
  refine .ite (fun _ => (returns_parseChannelOpen L payload).map _) fun _ => ?_
  refine .ite (fun ht => (returns_parseSealed L hsize (hbound (by rw [ht]; rfl))).map _) fun _ => ?_
  iterate 4 refine .ite (fun ht => hjson (by rw [ht]; rfl) _ _ _) fun _ => ?_
  refine .ite (fun ht => (returns_parseWebData L hsize
    (hbound (by rw [ht]; rfl))).map _) fun _ => ?_
  refine .ite (fun ht => hjson (by rw [ht]; rfl) _ _ _) fun _ => ?_
  refine .ite (fun _ => (returns_parseWebSocketFrame L payload).map _) fun _ => ?_
  refine .ite (fun ht => hjson (by rw [ht]; rfl) _ _ _) fun _ => ?_
  exact returns_ok _

/-- A frame of a supported generation whose declared length overflows. -/
def FrameOverflows : Bytes → Prop
  | version :: msgType :: payload =>
    protocolMajorSupported version = true ∧ LengthOverflows msgType payload
  | _ => False

/-- Parsing a frame within the read limit returns a message or an error,
except for the overflowing frames on a 32-bit platform. -/
theorem returns_parseMessageWithVersion_iff
    (w : IntSize) (L : Lib) (hL : L.uuid.Lawful) (data : Bytes)
    (hsize : data.length ≤ maxWebSocketMessageSize) : Returns (parseMessageWithVersion w L data).1 ↔
      ¬ (w = .bits32 ∧ FrameOverflows data) := by
  match data with
  | [] | [_] => exact iff_of_true (returns_fail _) fun h => h.2
  | version :: msgType :: payload =>
    have hpayload : payload.length ≤ maxWebSocketMessageSize := by
      simp only [List.length_cons] at hsize
      omega
    cases hversion : protocolMajorSupported version with
    | false =>
      apply iff_of_true
      · simp [parseMessageWithVersion, hversion, Returns]
      · rintro ⟨_, hsupported, _⟩
        rw [hversion] at hsupported
        cases hsupported
    | true =>
      rw [parseMessageWithVersion_eq hversion]
      constructor
      · rintro hreturns ⟨rfl, _, hover⟩
        exact hreturns (parseMessageBody_overflow hL hpayload hover)
      · intro hno
        apply returns_parseMessageBody hpayload
        intro hw hover
        exact hno ⟨hw, hversion, hover⟩

/-- A sealed frame that declares `2 ^ 32 - 1` bytes and carries none. -/
def overflowFrame : Bytes :=
  protocolVersionV2 :: binaryTypeSealed :: (UUID.nil.bytes ++ [0xFF, 0xFF, 0xFF, 0xFF])

theorem overflowFrame_returns_iff : overflowFrame.length ≤ maxWebSocketMessageSize ∧
      (Returns (parseMessageWithVersion .bits64 plainLib overflowFrame).1 ↔
        ¬ (IntSize.bits64 = .bits32 ∧ FrameOverflows overflowFrame)) :=
  ⟨by decide, returns_parseMessageWithVersion_iff .bits64 plainLib
    canonicalUUID_lawful overflowFrame (by decide)⟩

theorem overflowFrame_panics : overflowFrame.length ≤ maxWebSocketMessageSize ∧
      (parseMessageWithVersion .bits32 plainLib overflowFrame).1 = .error .panic := by
  refine ⟨by decide, ?_⟩
  have hover : LengthOverflows binaryTypeSealed (UUID.nil.bytes ++ [0xFF, 0xFF, 0xFF, 0xFF]) :=
    ⟨20, by decide, by decide, by decide⟩
  exact parseMessageBody_overflow canonicalUUID_lawful (by decide) hover

end LinkSocks
