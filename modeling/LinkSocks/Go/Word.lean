import Mathlib.Data.Nat.Bitwise
import Mathlib.Tactic.Common

/-!
# Fixed-width Go words

Bytes, big-endian words and the platform-dependent `int`.  The width of `int`
is a parameter (`IntSize`), so statements can be made for 32-bit and 64-bit
builds at once.  The encodings are written with the shifts and masks of the
usual `byte(x >> 24)` idiom; the lemmas say that decoding undoes encoding.
-/

namespace Go

/-- A Go `[]byte`. -/
abbrev Bytes := List UInt8

/-- A Go `string`: an arbitrary byte sequence, not necessarily UTF-8. -/
abbrev GoString := List UInt8

instance instLawfulBEqGoString : LawfulBEq GoString := inferInstance

/-- The bytes of an ASCII literal. -/
def ascii (s : String) : GoString := s.toList.map fun c => UInt8.ofNat c.toNat

/-- The conversion `byte(x)` of a Go `int`: the low eight bits. -/
def byteOfInt (x : Int) : UInt8 := UInt8.ofNat (x % 256).toNat

/-! ## The platform `int` -/

/-- The two widths a Go build can give to `int`. -/
inductive IntSize where
  | bits32
  | bits64
  deriving DecidableEq, Repr

/-- Number of bits of an `int`. -/
def IntSize.bits : IntSize → ℕ
  | .bits32 => 32
  | .bits64 => 64

/-- The `int` value that the mathematical integer `x` wraps around to. -/
def IntSize.wrap (w : IntSize) (x : Int) : Int := Int.bmod x (2 ^ w.bits)

/-- The conversion `int(n)` of a `uint32`. -/
def IntSize.ofUInt32 (w : IntSize) (n : UInt32) : Int := w.wrap n.toNat

/-- The addition of two `int` values. -/
def IntSize.add (w : IntSize) (x y : Int) : Int := w.wrap (x + y)

theorem IntSize.wrap_bits32 (x : Int) : IntSize.wrap .bits32 x =
      if x % 4294967296 < 2147483648 then x % 4294967296 else x % 4294967296 - 4294967296 := by
  rfl

theorem IntSize.wrap_bits64 (x : Int) : IntSize.wrap .bits64 x =
      if x % 18446744073709551616 < 9223372036854775808 then x % 18446744073709551616
      else x % 18446744073709551616 - 18446744073709551616 := by
  rfl

theorem IntSize.wrap_of_lt (w : IntSize) {x : Int}
    (h0 : 0 ≤ x) (h1 : x < 2147483648) : w.wrap x = x := by
  cases w with
  | bits32 => rw [IntSize.wrap_bits32]; split <;> omega
  | bits64 => rw [IntSize.wrap_bits64]; split <;> omega

/-! ## Big-endian words -/

/-- `byte(x >> 24), byte(x >> 16), byte(x >> 8), byte(x)`. -/
def putUint32 (x : UInt32) : Bytes :=
  [(x >>> 24).toUInt8, (x >>> 16).toUInt8, (x >>> 8).toUInt8, x.toUInt8]

/-- `uint32(b0)<<24 | uint32(b1)<<16 | uint32(b2)<<8 | uint32(b3)`. -/
def uint32 (b0 b1 b2 b3 : UInt8) : UInt32 :=
  b0.toUInt32 <<< 24 ||| b1.toUInt32 <<< 16 ||| b2.toUInt32 <<< 8 ||| b3.toUInt32

/-- The eight big-endian bytes of a `uint64`. -/
def putUint64 (x : UInt64) : Bytes :=
  [(x >>> 56).toUInt8, (x >>> 48).toUInt8, (x >>> 40).toUInt8,
    (x >>> 32).toUInt8, (x >>> 24).toUInt8, (x >>> 16).toUInt8, (x >>> 8).toUInt8, x.toUInt8]

/-- The big-endian `uint64` of eight bytes. -/
def uint64 (b0 b1 b2 b3 b4 b5 b6 b7 : UInt8) : UInt64 :=
  b0.toUInt64 <<< 56 ||| b1.toUInt64 <<< 48 ||| b2.toUInt64 <<< 40 |||
    b3.toUInt64 <<< 32 ||| b4.toUInt64 <<< 24 ||| b5.toUInt64 <<< 16 |||
    b6.toUInt64 <<< 8 ||| b7.toUInt64

/-- `byte(p >> 8), byte(p)` for an `int` port `p`. -/
def putPort (p : Int) : Bytes := [byteOfInt (p >>> (8 : ℕ)), byteOfInt p]

/-- `int(uint16(b0)<<8 | uint16(b1))`. -/
def port (b0 b1 : UInt8) : Int := ((b0.toUInt16 <<< 8 ||| b1.toUInt16).toNat : Int)

@[simp] theorem putUint32_length (x : UInt32) : (putUint32 x).length = 4 := rfl

@[simp] theorem putUint64_length (x : UInt64) : (putUint64 x).length = 8 := rfl

@[simp] theorem putPort_length (p : Int) : (putPort p).length = 2 := rfl

/-- Disjoint bits: a shifted word or-ed with a small one is their sum. -/
theorem mul_or_eq_add {a b i : ℕ} (hb : b < 2 ^ i) : a * 2 ^ i ||| b = a * 2 ^ i + b := by
  rw [← Nat.shiftLeft_eq, Nat.shiftLeft_add_eq_or_of_lt hb]

theorem port_toNat (b0 b1 : UInt8) : (b0.toUInt16 <<< 8 ||| b1.toUInt16).toNat =
      b0.toNat * 2 ^ 8 + b1.toNat := by
  have h0 := b0.toNat_lt
  have h1 := b1.toNat_lt
  simp only [UInt16.toNat_or, UInt16.toNat_shiftLeft, UInt8.toNat_toUInt16,
    UInt16.reduceToNat, Nat.reduceMod, Nat.shiftLeft_eq]
  rw [Nat.mod_eq_of_lt (by omega), mul_or_eq_add h1]

theorem uint32_toNat (b0 b1 b2 b3 : UInt8) : (uint32 b0 b1 b2 b3).toNat =
      b0.toNat * 2 ^ 24 + (b1.toNat * 2 ^ 16 + (b2.toNat * 2 ^ 8 + b3.toNat)) := by
  have h0 := b0.toNat_lt
  have h1 := b1.toNat_lt
  have h2 := b2.toNat_lt
  have h3 := b3.toNat_lt
  simp only [uint32, UInt32.toNat_or, UInt32.toNat_shiftLeft,
    UInt8.toNat_toUInt32, UInt32.reduceToNat, Nat.reduceMod, Nat.shiftLeft_eq]
  simp (disch := omega) only [Nat.mod_eq_of_lt, Nat.or_assoc]
  -- the sums are built from the least significant byte upwards
  simp (disch := omega) only [mul_or_eq_add]

theorem uint64_toNat (b0 b1 b2 b3 b4 b5 b6 b7 : UInt8) : (uint64 b0 b1 b2 b3 b4 b5 b6 b7).toNat =
      b0.toNat * 2 ^ 56 + (b1.toNat * 2 ^ 48 + (b2.toNat * 2 ^ 40 +
        (b3.toNat * 2 ^ 32 + (b4.toNat * 2 ^ 24 + (b5.toNat * 2 ^ 16 +
          (b6.toNat * 2 ^ 8 + b7.toNat)))))) := by
  have h0 := b0.toNat_lt
  have h1 := b1.toNat_lt
  have h2 := b2.toNat_lt
  have h3 := b3.toNat_lt
  have h4 := b4.toNat_lt
  have h5 := b5.toNat_lt
  have h6 := b6.toNat_lt
  have h7 := b7.toNat_lt
  simp only [uint64, UInt64.toNat_or, UInt64.toNat_shiftLeft,
    UInt8.toNat_toUInt64, UInt64.reduceToNat, Nat.reduceMod, Nat.shiftLeft_eq]
  simp (disch := omega) only [Nat.mod_eq_of_lt, Nat.or_assoc]
  simp (disch := omega) only [mul_or_eq_add]

theorem uint32_putUint32 (x : UInt32) :
    uint32 (x >>> 24).toUInt8 (x >>> 16).toUInt8 (x >>> 8).toUInt8 x.toUInt8 =
      x := by
  have hx := x.toNat_lt
  apply UInt32.toNat_inj.mp
  rw [uint32_toNat]
  simp only [UInt32.toNat_toUInt8, UInt32.toNat_shiftRight,
    UInt32.reduceToNat, Nat.reduceMod, Nat.shiftRight_eq_div_pow]
  omega

theorem div_pow_add_mod (n k : ℕ) :
    n / 2 ^ (k + 8) * 2 ^ (k + 8) + n / 2 ^ k % 2 ^ 8 * 2 ^ k = n / 2 ^ k * 2 ^ k := by
  rw [Nat.pow_add, ← Nat.div_div_eq_div_mul, Nat.mul_comm (2 ^ k), ← Nat.mul_assoc,
    ← Nat.add_mul, Nat.div_add_mod']

theorem uint64_putUint64 (x : UInt64) :
    uint64 (x >>> 56).toUInt8 (x >>> 48).toUInt8 (x >>> 40).toUInt8
      (x >>> 32).toUInt8 (x >>> 24).toUInt8 (x >>> 16).toUInt8
      (x >>> 8).toUInt8 x.toUInt8 = x := by
  apply UInt64.toNat_inj.mp
  rw [uint64_toNat]
  simp only [UInt64.toNat_toUInt8, UInt64.toNat_shiftRight,
    UInt64.reduceToNat, Nat.reduceMod, Nat.shiftRight_eq_div_pow]
  have htop : x.toNat / 2 ^ 56 < 2 ^ 8 := Nat.div_lt_of_lt_mul x.toNat_lt
  generalize x.toNat = n at htop ⊢
  have h48 : n / 2 ^ 56 * 2 ^ 56 + n / 2 ^ 48 % 2 ^ 8 * 2 ^ 48 = _ := div_pow_add_mod n 48
  have h40 : n / 2 ^ 48 * 2 ^ 48 + n / 2 ^ 40 % 2 ^ 8 * 2 ^ 40 = _ := div_pow_add_mod n 40
  have h32 : n / 2 ^ 40 * 2 ^ 40 + n / 2 ^ 32 % 2 ^ 8 * 2 ^ 32 = _ := div_pow_add_mod n 32
  have h24 : n / 2 ^ 32 * 2 ^ 32 + n / 2 ^ 24 % 2 ^ 8 * 2 ^ 24 = _ := div_pow_add_mod n 24
  have h16 : n / 2 ^ 24 * 2 ^ 24 + n / 2 ^ 16 % 2 ^ 8 * 2 ^ 16 = _ := div_pow_add_mod n 16
  have h8 : n / 2 ^ 16 * 2 ^ 16 + n / 2 ^ 8 % 2 ^ 8 * 2 ^ 8 = _ := div_pow_add_mod n 8
  -- the bytes are added to the number above them, from the first one downwards
  rw [Nat.mod_eq_of_lt htop, ← Nat.add_assoc, h48, ← Nat.add_assoc, h40, ← Nat.add_assoc,
    h32, ← Nat.add_assoc, h24, ← Nat.add_assoc, h16, ← Nat.add_assoc, h8, Nat.div_add_mod']

theorem byteOfInt_toNat (x : Int) : (byteOfInt x).toNat = (x % 256).toNat := by
  have h : (x % 256).toNat < 256 := by omega
  simp [byteOfInt, Nat.mod_eq_of_lt h]

theorem port_putPort (p : Int) : port (byteOfInt (p >>> (8 : ℕ))) (byteOfInt p) = p % 65536 := by
  rw [port, port_toNat, byteOfInt_toNat, byteOfInt_toNat, Int.shiftRight_eq_div_pow]
  omega

theorem port_putPort_eq_iff (p : Int) :
    port (byteOfInt (p >>> (8 : ℕ))) (byteOfInt p) = p ↔ 0 ≤ p ∧ p < 65536 := by
  rw [port_putPort]
  omega

theorem byteLen_toNat {n : ℕ} (h : n ≤ 255) : (UInt8.ofNat n).toNat = n := by
  simp only [UInt8.toNat_ofNat']
  omega

theorem uint32Len_toNat {n : ℕ} (h : n < 4294967296) : (UInt32.ofNat n).toNat = n := by
  simp only [UInt32.toNat_ofNat']
  omega

end Go
