import LinkSocks.Go.Slice

/-!
# Hexadecimal text

`hex.EncodeToString` and `hex.DecodeString`, with the round trip that the
textual form of an identifier relies on.
-/

namespace Go

/-- The lower-case hexadecimal digit of a nibble. -/
def hexDigit (n : ℕ) : UInt8 := if n < 10 then UInt8.ofNat (48 + n) else UInt8.ofNat (87 + n)

/-- The nibble of a hexadecimal digit of either case. -/
def hexNibble (c : UInt8) : Option ℕ :=
  if 48 ≤ c.toNat ∧ c.toNat ≤ 57 then some (c.toNat - 48)
  else if 97 ≤ c.toNat ∧ c.toNat ≤ 102 then some (c.toNat - 87)
  else if 65 ≤ c.toNat ∧ c.toNat ≤ 70 then some (c.toNat - 55)
  else none

def hexEncode : Bytes → GoString
  | [] => []
  | b :: rest => hexDigit (b.toNat / 16) :: hexDigit (b.toNat % 16) :: hexEncode rest

def hexDecode : GoString → Except Error Bytes
  | [] => .ok []
  | [_] => .error (.msg "encoding/hex: odd length hex string")
  | hi :: lo :: rest =>
    match hexNibble hi, hexNibble lo with
    | some h, some l =>
      match hexDecode rest with
      | .ok bytes => .ok (UInt8.ofNat (h * 16 + l) :: bytes)
      | .error e => .error e
    | _, _ => .error (.msg "encoding/hex: invalid byte")

theorem hexNibble_hexDigit : ∀ n < 16, hexNibble (hexDigit n) = some n := by
  decide

theorem hexDigit_ne_hyphen : ∀ n < 16, hexDigit n ≠ 45 := by
  decide

@[simp] theorem hexEncode_length (b : Bytes) : (hexEncode b).length = 2 * b.length := by
  induction b with
  | nil => rfl
  | cons x rest ih =>
    simp only [hexEncode, List.length_cons, ih]
    omega

theorem hexDecode_hexEncode (b : Bytes) : hexDecode (hexEncode b) = .ok b := by
  induction b with
  | nil => rfl
  | cons x rest ih =>
    have hx := x.toNat_lt
    simp only [hexEncode, hexDecode, ih, hexNibble_hexDigit (x.toNat / 16) (by omega),
      hexNibble_hexDigit (x.toNat % 16) (by omega)]
    have hsum : x.toNat / 16 * 16 + x.toNat % 16 = x.toNat := by omega
    rw [hsum, UInt8.ofNat_toNat]

theorem hexEncode_ne_hyphen {b : Bytes} {c : UInt8} (hc : c ∈ hexEncode b) : c ≠ 45 := by
  induction b with
  | nil => simp [hexEncode] at hc
  | cons x rest ih =>
    have hx := x.toNat_lt
    simp only [hexEncode, List.mem_cons] at hc
    rcases hc with rfl | rfl | hc
    · exact hexDigit_ne_hyphen _ (by omega)
    · exact hexDigit_ne_hyphen _ (by omega)
    · exact ih hc

end Go
