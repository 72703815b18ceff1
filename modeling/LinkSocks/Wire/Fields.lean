import LinkSocks.Wire.Parse

/-!
# Reading back single fields

Each field reader of the parser, applied to what the corresponding writer
produced, at any place of a frame.  The bytes in front of a field are `front`
and those behind it `rest`, so that the lemmas chain along a whole frame.
-/

namespace LinkSocks

open Go

/-- `n` is a value of the platform `int`, as every Go slice length is. -/
def FitsInt (w : IntSize) (n : ℕ) : Prop := n < 2 ^ (w.bits - 1)

theorem FitsInt.mono {w : IntSize} {m n : ℕ} (h : FitsInt w n) (hmn : m ≤ n) : FitsInt w m :=
  lt_of_le_of_lt hmn h

theorem FitsInt.wrap_eq {w : IntSize} {n : ℕ} (h : FitsInt w n) : w.wrap (n : Int) = n := by
  cases w with
  | bits32 =>
    have hn : n < 2147483648 := h
    exact IntSize.wrap_of_lt _ (by omega) (by omega)
  | bits64 =>
    have hn : n < 9223372036854775808 := h
    rw [IntSize.wrap_bits64]
    split <;> omega

theorem fitsInt_of_lt (w : IntSize) {n : ℕ} (h : n < 2147483648) : FitsInt w n := by
  cases w with
  | bits32 => exact h
  | bits64 => exact show n < 9223372036854775808 by omega

theorem FitsInt.add_eq {w : IntSize} {a b : ℕ} (h : FitsInt w (a + b)) :
    w.add a b = ((a + b : ℕ) : Int) := by
  rw [IntSize.add, ← Int.natCast_add, h.wrap_eq]

theorem FitsInt.add_ofUInt32 {w : IntSize} {a b : ℕ} (h : FitsInt w (a + b))
    (hb : b < 4294967296) : w.add a (w.ofUInt32 (UInt32.ofNat b)) = ((a + b : ℕ) : Int) := by
  rw [IntSize.ofUInt32, uint32Len_toNat hb, (h.mono (Nat.le_add_left _ _)).wrap_eq, h.add_eq]

theorem toNat_ofNat_add (a b : ℕ) :
    (UInt32.ofNat a + UInt32.ofNat b).toNat = (a + b) % 4294967296 := by
  simp

theorem parseMessageWithVersion_eq {w : IntSize} {L : Lib} {v : UInt8}
    (hv : protocolMajorSupported v = true) (msgType : UInt8) (payload : Bytes) :
    parseMessageWithVersion w L (v :: msgType :: payload) =
      (parseMessageBody w L msgType payload, v) := by
  simp [parseMessageWithVersion, hv]

theorem parseUUID_bytes {L : Lib} (hL : L.uuid.Lawful) (text : String) (u : UUID) :
    parseUUID L text u.bytes = .ok u := by
  rw [parseUUID, hL.parse_canonical, orWrap]

theorem uint32At_packPayload (front p rest : Bytes) {i : ℕ} (hi : i = front.length) :
    uint32At (front ++ (packPayload p ++ rest)) i = .ok (UInt32.ofNat p.length) := by
  subst hi
  simpa [uint32At, packPayload, putUint32] using uint32_putUint32 (UInt32.ofNat p.length)

/-- A length-prefixed payload is read back whenever the header and the payload
together fit in an `int` and the length in its four bytes. -/
theorem lengthPrefixed_packPayload (w : IntSize) (front p rest : Bytes) (text : String) {h : ℕ}
    (hh : h = front.length + 4) (hint : FitsInt w (h + p.length))
    (hword : h + p.length < 4294967296) :
    lengthPrefixed w (front ++ (packPayload p ++ rest)) h text =
      .ok (UInt32.ofNat p.length, p) := by
  have hsum := hint.add_ofUInt32 (by omega)
  have hbound : (UInt32.ofNat h + UInt32.ofNat p.length).toNat = h + p.length := by
    rw [toNat_ofNat_add, Nat.mod_eq_of_lt hword]
  have hguard : ¬ ((front ++ (packPayload p ++ rest)).length : Int) <
        ((h + p.length : ℕ) : Int) := by
    simp only [List.length_append, packPayload_length]
    omega
  have hslice : slice (front ++ (packPayload p ++ rest)) h (h + p.length) = .ok p := by
    simp [hh, packPayload, putUint32, Nat.add_assoc, Nat.add_comm 4]
  rw [lengthPrefixed, uint32At_packPayload front p rest (by omega)]
  simp only [ok_bind, hsum, hbound, if_neg hguard, hslice, pure_eq_ok]

theorem parseAddress_packString (address : GoString) (p : Int) (rest : Bytes) (extra : ℕ)
    (emptyText shortText : String) (haddress : address.length ≤ 255) (hport : 0 ≤ p ∧ p < 65536)
    (hextra : extra ≤ rest.length) :
    parseAddress (packString address ++ (putPort p ++ rest)) extra emptyText shortText =
      .ok (address.length, address, p) := by
  have hport' := (port_putPort_eq_iff p).mpr hport
  simp [parseAddress, packString, putPort, Nat.add_comm 1, byteLen_toNat haddress, hport']
  omega

theorem binaryUint64_putUint64 (x : UInt64) : binaryUint64 (putUint64 x) = .ok x :=
  congrArg Except.ok (uint64_putUint64 x)

end LinkSocks
