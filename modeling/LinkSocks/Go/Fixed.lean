import LinkSocks.Go.Word

/-!
# Byte arrays

A Go `[n]byte` is `n` bytes.  `copy` fills a new array from the front and leaves
zeros behind it; fields of fixed size are read and written that way.
-/

namespace Go

/-- A Go `[n]byte`. -/
@[ext]
structure Fixed (n : ℕ) where
  bytes : Bytes
  length_eq : bytes.length = n
  deriving DecidableEq

namespace Fixed

variable {n : ℕ}

@[simp] theorem length_bytes (a : Fixed n) : a.bytes.length = n := a.length_eq

/-- `copy(a[:], b)` for a new array. -/
def copy (n : ℕ) (b : Bytes) : Fixed n := ⟨(b ++ List.replicate n 0).take n, by simp⟩

theorem bytes_copy {b : Bytes} (h : b.length = n) : (copy n b).bytes = b := List.take_left' h

@[simp] theorem copy_bytes (a : Fixed n) : copy n a.bytes = a := Fixed.ext (bytes_copy a.length_eq)

end Fixed

/-! ## Big-endian words in a sequence -/

/-- `binary.BigEndian.Uint32(b)`, for at least four bytes. -/
def uint32Of (b : Bytes) : UInt32 := uint32 (b.getD 0 0) (b.getD 1 0) (b.getD 2 0) (b.getD 3 0)

@[simp] theorem uint32Of_putUint32 (x : UInt32) (b : Bytes) : uint32Of (putUint32 x ++ b) = x :=
  uint32_putUint32 x

theorem putUint32_uint32 (b0 b1 b2 b3 : UInt8) :
    putUint32 (uint32 b0 b1 b2 b3) = [b0, b1, b2, b3] := by
  have h0 := b0.toNat_lt
  have h1 := b1.toNat_lt
  have h2 := b2.toNat_lt
  have h3 := b3.toNat_lt
  simp only [putUint32, List.cons.injEq, and_true, ← UInt8.toNat_inj, UInt32.toNat_toUInt8,
    UInt32.toNat_shiftRight, UInt32.reduceToNat, Nat.reduceMod, Nat.shiftRight_eq_div_pow,
    uint32_toNat]
  omega

theorem putUint32_uint32Of {b : Bytes} (h : 4 ≤ b.length) : putUint32 (uint32Of b) = b.take 4 := by
  match b, h with
  | b0 :: b1 :: b2 :: b3 :: _, _ => exact putUint32_uint32 b0 b1 b2 b3

/-- `binary.BigEndian.PutUint16`. -/
def putUint16 (x : UInt16) : Bytes := [(x >>> 8).toUInt8, x.toUInt8]

/-- `binary.BigEndian.Uint16(b)`, for at least two bytes. -/
def uint16Of (b : Bytes) : UInt16 := (b.getD 0 0).toUInt16 <<< 8 ||| (b.getD 1 0).toUInt16

@[simp] theorem putUint16_length (x : UInt16) : (putUint16 x).length = 2 := rfl

@[simp] theorem uint16Of_putUint16 (x : UInt16) (b : Bytes) : uint16Of (putUint16 x ++ b) = x := by
  have hx := x.toNat_lt
  have hport := port_toNat (x >>> 8).toUInt8 x.toUInt8
  apply UInt16.toNat_inj.mp
  refine hport.trans ?_
  simp only [UInt16.toNat_toUInt8, UInt16.toNat_shiftRight, UInt16.reduceToNat,
    Nat.reduceMod, Nat.shiftRight_eq_div_pow]
  omega

/-- `binary.BigEndian.Uint64(b)`, for at least eight bytes. -/
def uint64Of (b : Bytes) : UInt64 :=
  uint64 (b.getD 0 0) (b.getD 1 0) (b.getD 2 0) (b.getD 3 0) (b.getD 4 0)
    (b.getD 5 0) (b.getD 6 0) (b.getD 7 0)

@[simp] theorem uint64Of_putUint64 (x : UInt64) (b : Bytes) : uint64Of (putUint64 x ++ b) = x :=
  uint64_putUint64 x

end Go
