import LinkSocks.Proxy.HTTPConnect

/-!
# The base64 encoder of the upstream proxy

`base64Encode` packs three bytes into a word and writes its four groups of six bits; the
last one or two bytes are padded.  It is compared with a strict decoder of RFC 4648, which
takes padding at the end only, and only if the bits that are left over are zero.
-/

namespace LinkSocks

open Go

def base64Chars : GoString :=
  ascii "ABCDEFGHIJKLMNOPQRSTUVWXYZabcdefghijklmnopqrstuvwxyz0123456789+/"

theorem length_base64Chars : base64Chars.length = 2 ^ 6 := by
  decide +kernel

theorem and_lt_base64Chars (n : UInt32) : (n &&& 0x3F).toNat < base64Chars.length := by
  rw [length_base64Chars]
  exact Nat.and_lt_two_pow n.toNat (by decide)

/-- `base64Chars[n&0x3F]`. -/
def base64Char (n : UInt32) : UInt8 :=
  base64Chars.get ⟨(n &&& 0x3F).toNat, and_lt_base64Chars n⟩

/-- The byte 61 is `=`. -/
def base64Encode : Bytes → GoString
  | a :: b :: c :: rest =>
    let n := a.toUInt32 <<< 16 ||| b.toUInt32 <<< 8 ||| c.toUInt32
    [base64Char (n >>> 18), base64Char (n >>> 12), base64Char (n >>> 6), base64Char n] ++
      base64Encode rest
  | [a, b] =>
    let n := a.toUInt32 <<< 16 ||| b.toUInt32 <<< 8
    [base64Char (n >>> 18), base64Char (n >>> 12), base64Char (n >>> 6), 61]
  | [a] =>
    let n := a.toUInt32 <<< 16
    [base64Char (n >>> 18), base64Char (n >>> 12), 61, 61]
  | [] => []

/-! ## The strict decoder -/

/-- The table of RFC 4648. -/
def base64Value (c : UInt8) : Option ℕ :=
  if 65 ≤ c ∧ c ≤ 90 then some (c.toNat - 65)
  else if 97 ≤ c ∧ c ≤ 122 then some (c.toNat - 97 + 26)
  else if 48 ≤ c ∧ c ≤ 57 then some (c.toNat - 48 + 52)
  else if c = 43 then some 62
  else if c = 47 then some 63
  else none

def quantum (x y z w : ℕ) : ℕ := x * 2 ^ 18 + y * 2 ^ 12 + z * 2 ^ 6 + w

def octets (n : ℕ) : Bytes := [UInt8.ofNat (n / 2 ^ 16), UInt8.ofNat (n / 2 ^ 8), UInt8.ofNat n]

/-- Four characters, which may be padded if they are the last ones. -/
def decodeQuantum (last : Bool) (a b c d : UInt8) : Option Bytes :=
  match base64Value a, base64Value b, base64Value c, base64Value d with
  | some x, some y, some z, some w => some (octets (quantum x y z w))
  | some x, some y, some z, none =>
    if last ∧ d = 61 ∧ 2 ^ 8 ∣ quantum x y z 0 then some ((octets (quantum x y z 0)).take 2)
    else none
  | some x, some y, none, none =>
    if last ∧ c = 61 ∧ d = 61 ∧ 2 ^ 16 ∣ quantum x y 0 0 then
      some ((octets (quantum x y 0 0)).take 1)
    else none
  | _, _, _, _ => none

def strictDecode : Bytes → Option Bytes
  | [] => some []
  | a :: b :: c :: d :: rest => do
    let group ← decodeQuantum rest.isEmpty a b c d
    let groups ← strictDecode rest
    return group ++ groups
  | _ => none

/-! ## Decoding what was encoded -/

theorem base64Value_base64Char (n : UInt32) :
    base64Value (base64Char n) = some (n.toNat % 2 ^ 6) := by
  have htable : ∀ i, base64Value (base64Chars.get i) = some i.val := by decide +kernel
  have hindex : (n &&& 0x3F).toNat = n.toNat % 2 ^ 6 := by
    exact Nat.and_two_pow_sub_one_eq_mod n.toNat 6
  rw [← hindex]
  exact htable ⟨_, and_lt_base64Chars n⟩

theorem base64Value_shiftRight (n : UInt32) :
    base64Value (base64Char (n >>> 18)) = some (n.toNat / 2 ^ 18 % 2 ^ 6) ∧
    base64Value (base64Char (n >>> 12)) = some (n.toNat / 2 ^ 12 % 2 ^ 6) ∧
    base64Value (base64Char (n >>> 6)) = some (n.toNat / 2 ^ 6 % 2 ^ 6) := by
  simp [base64Value_base64Char, UInt32.toNat_shiftRight, Nat.shiftRight_eq_div_pow]

theorem octets_word (a b c : UInt8) :
    octets (a.toNat * 2 ^ 16 + b.toNat * 2 ^ 8 + c.toNat) = [a, b, c] := by
  have ha := a.toNat_lt
  have hb := b.toNat_lt
  have hc := c.toNat_lt
  simp only [octets, List.cons.injEq, ← UInt8.toNat_inj, UInt8.toNat_ofNat', and_true]
  omega

/-- The characters of a word, with padding in place of bytes that are zero. -/
theorem decodeQuantum_word {n : UInt32} {a b c : UInt8} (hn : n = uint32 0 a b c) :
    (∀ last, decodeQuantum last (base64Char (n >>> 18)) (base64Char (n >>> 12))
      (base64Char (n >>> 6)) (base64Char n) = some [a, b, c]) ∧
    (c = 0 → decodeQuantum true (base64Char (n >>> 18)) (base64Char (n >>> 12))
      (base64Char (n >>> 6)) 61 = some [a, b]) ∧
    (b = 0 → c = 0 → decodeQuantum true (base64Char (n >>> 18)) (base64Char (n >>> 12))
      61 61 = some [a]) := by
  obtain ⟨hx, hy, hz⟩ := base64Value_shiftRight n
  have ha := a.toNat_lt
  have hb := b.toNat_lt
  have hc := c.toNat_lt
  have hword : n.toNat = a.toNat * 2 ^ 16 + b.toNat * 2 ^ 8 + c.toNat := by
    rw [hn, uint32_toNat, UInt8.toNat_zero]
    omega
  have hoctets := octets_word a b c
  have hpad : base64Value 61 = none := rfl
  rw [← hword] at hoctets
  have hquantum : quantum (n.toNat / 2 ^ 18 % 2 ^ 6) (n.toNat / 2 ^ 12 % 2 ^ 6)
      (n.toNat / 2 ^ 6 % 2 ^ 6) (n.toNat % 2 ^ 6) = n.toNat := by
    rw [quantum]
    omega
  refine ⟨fun last => ?_, ?_, ?_⟩
  · simp only [decodeQuantum, hx, hy, hz, base64Value_base64Char, hquantum, hoctets]
  · rintro rfl
    rw [UInt8.toNat_zero] at hword
    rw [show n.toNat % 2 ^ 6 = 0 by omega] at hquantum
    simp only [decodeQuantum, hx, hy, hz, hpad, hquantum, hoctets]
    exact if_pos ⟨trivial, trivial, by omega⟩
  · rintro rfl rfl
    rw [UInt8.toNat_zero] at hword
    rw [show n.toNat % 2 ^ 6 = 0 by omega, show n.toNat / 2 ^ 6 % 2 ^ 6 = 0 by omega] at hquantum
    simp only [decodeQuantum, hx, hy, hpad, hquantum, hoctets]
    exact if_pos ⟨trivial, trivial, trivial, by omega⟩

theorem strictDecode_base64Encode (data : Bytes) :
    strictDecode (base64Encode data) = some data := by
  induction data using base64Encode.induct with
  | case1 a b c rest ih =>
    have hn : a.toUInt32 <<< 16 ||| b.toUInt32 <<< 8 ||| c.toUInt32 = uint32 0 a b c := by
      simp [uint32]
    simp only [base64Encode, List.cons_append, List.nil_append, strictDecode, ih,
      (decodeQuantum_word hn).1]
    rfl
  | case2 a b =>
    have hn : a.toUInt32 <<< 16 ||| b.toUInt32 <<< 8 = uint32 0 a b 0 := by simp [uint32]
    simp only [base64Encode, strictDecode, List.isEmpty_nil, (decodeQuantum_word hn).2.1 rfl]
    rfl
  | case3 a =>
    have hn : a.toUInt32 <<< 16 = uint32 0 a 0 0 := by simp [uint32]
    simp only [base64Encode, strictDecode, List.isEmpty_nil, (decodeQuantum_word hn).2.2 rfl rfl]
    rfl
  | case4 => rfl

theorem length_base64Encode (data : Bytes) :
    (base64Encode data).length = 4 * ((data.length + 2) / 3) := by
  induction data using base64Encode.induct with
  | case1 a b c rest ih =>
    simp only [base64Encode, List.length_append, List.length_cons, List.length_nil, ih]
    omega
  | case2 | case3 | case4 => simp [base64Encode]

/-- Every encoding has the length of RFC 4648 and is decoded to what was encoded.  The value of
the header for the upstream proxy is decoded to the user name, a colon and the password. -/
theorem base64Encode_standard (data : Bytes) :
    (base64Encode data).length = 4 * ((data.length + 2) / 3) ∧
    strictDecode (base64Encode data) = some data ∧
    ∀ o targetAddr, o.upstreamUsername ≠ [] → o.upstreamPassword ≠ [] → ∃ before value,
      connectRequest base64Encode o targetAddr = before ++ ascii "\r\n" ++
        ascii "Proxy-Authorization: Basic " ++ value ++ ascii "\r\n" ++ ascii "\r\n" ∧
      strictDecode value = some (o.upstreamUsername ++ ascii ":" ++ o.upstreamPassword) := by
  refine ⟨length_base64Encode data, strictDecode_base64Encode data, ?_⟩
  intro o targetAddr huser hpassword
  refine ⟨ascii "CONNECT " ++ targetAddr ++ ascii " HTTP/1.1\r\nHost: " ++ targetAddr, _, ?_,
    strictDecode_base64Encode _⟩
  rw [connectRequest, if_pos ⟨huser, hpassword⟩]
  simp only [List.append_assoc]

theorem base64Encode_user : base64Encode (ascii "user:pw") = ascii "dXNlcjpwdw==" ∧
    ∃ before value, connectRequest base64Encode ⟨ascii "user", ascii "pw"⟩ (ascii "a:1") =
        before ++ ascii "\r\n" ++ ascii "Proxy-Authorization: Basic " ++ value ++
          ascii "\r\n" ++ ascii "\r\n" ∧
      strictDecode value = some (ascii "user" ++ ascii ":" ++ ascii "pw") :=
  ⟨by decide +kernel, (base64Encode_standard []).2.2 _ _ (by decide) (by decide)⟩

end LinkSocks
