import LinkSocks.Go.Fixed
import LinkSocks.Go.Hex

/-!
# Zones: constants, rosters and addresses

The coordinator assigns every member an address in the IPv4 network of the zone
and sends rosters of those that are connected.  Keys, identities and sessions
are lower-case hexadecimal texts of a fixed length.
-/

namespace LinkSocks.Zone

open Go

theorem ok_of_bind {ε α β : Type} {x : Except ε α} {f : α → Except ε β} {b : β}
    (h : (x >>= f) = .ok b) : ∃ a, x = .ok a ∧ f a = .ok b := by
  cases x with
  | error e => cases h
  | ok a => exact ⟨a, rfl, h⟩

/-! ## The wire contract -/

def mtu : Int := 1500
def minMTU : Int := 576
def protocol : GoString := ascii "linksocks-zone-v1"

def kindFrame : UInt8 := 1
def kindStream : UInt8 := 2
def kindDatagram : UInt8 := 3

def frameVersion : UInt8 := 2
def frameHeaderSize : ℕ := 22
def minFrameSize : ℕ := 14
def maxFrameSize : ℕ := 1514

def streamDataHeader : ℕ := 14
def maxStreamData : ℕ := 16384

def datagramHeader : ℕ := 21

def opData : UInt8 := 4

/-! ## Rosters -/

/-- The fields of a network that members check. -/
structure Network where
  id : GoString
  cidr : GoString
  mtu : Int

structure Peer where
  identity : GoString
  key : GoString
  session : GoString
  name : GoString
  ip : GoString
  deriving DecidableEq

/-- A `members` message. -/
structure Control where
  zone : Network
  self : GoString
  peers : List Peer

/-- Upper-case letters of ASCII; other text is no hexadecimal text. -/
def hasUpper (value : GoString) : Bool := value.any fun c => decide (65 ≤ c.toNat ∧ c.toNat ≤ 90)

def errNotHex (size : ℕ) : Error :=
  .msg ("expected " ++ toString size ++ " lowercase hexadecimal bytes")

def decodeHex (value : GoString) (size : ℕ) : Except Error Bytes :=
  match hexDecode value with
  | .error _ => .error (errNotHex size)
  | .ok data =>
    if data.length ≠ size ∨ hasUpper value = true then .error (errNotHex size)
    else .ok data

theorem length_of_hexDecode {value : GoString} {data : Bytes}
    (h : hexDecode value = .ok data) : value.length = 2 * data.length := by
  fun_induction hexDecode value generalizing data with
  | case1 =>
    cases h
    rfl
  | case2 => cases h
  | case3 hi lo rest high low bytes hhi hlo hbytes ih =>
    cases h
    simp only [List.length_cons, ih hbytes]
    omega
  | case4 => cases h
  | case5 => cases h

theorem decodeHex_ok {value : GoString} {size : ℕ} {data : Bytes}
    (h : decodeHex value size = .ok data) : data.length = size ∧ value.length = 2 * size := by
  rw [decodeHex] at h
  split at h
  · cases h
  · rename_i hdecode
    split at h <;> cases h
    rename_i hcheck
    have hsize := not_not.mp (not_or.mp hcheck).1
    exact ⟨hsize, hsize ▸ length_of_hexDecode hdecode⟩

/-! ## Addresses -/

/-- A `netip.Addr` that is valid. -/
inductive Addr where
  | v4 (bits : UInt32)
  | v6 (bytes : Fixed 16) (zone : GoString)
  deriving DecidableEq

structure Prefix where
  addr : Addr
  bits : ℕ
  deriving DecidableEq

/-- `netip.ParseAddr` and `netip.ParsePrefix`. -/
structure Netip where
  parseAddr : GoString → Option Addr
  parsePrefix : GoString → Option Prefix

def Addr.is4 : Addr → Bool
  | .v4 _ => true
  | .v6 _ _ => false

def Addr.asSlice : Addr → Bytes
  | .v4 bits => putUint32 bits
  | .v6 bytes _ => bytes.bytes

/-- `10.0.0.0/8`, `172.16.0.0/12` and `192.168.0.0/16`. -/
def Addr.isPrivate : Addr → Bool
  | .v4 bits =>
    decide (bits.toNat / 2 ^ 24 = 10) || decide (bits.toNat / 2 ^ 20 = 172 * 16 + 1) ||
      decide (bits.toNat / 2 ^ 16 = 192 * 256 + 168)
  | .v6 bytes _ => decide ((bytes.bytes.getD 0 0).toNat / 2 = 126)

/-- The bits of an IPv4 address that a prefix fixes. -/
def Prefix.network (p : Prefix) (bits : UInt32) : ℕ := bits.toNat / 2 ^ (32 - p.bits)

/-- `prefix.Contains`, for prefixes of IPv4. -/
def Prefix.contains (p : Prefix) : Addr → Bool
  | .v4 bits =>
    match p.addr with
    | .v4 base => decide (p.network bits = p.network base)
    | .v6 _ _ => false
  | .v6 _ _ => false

/-- `prefix == prefix.Masked()`, for prefixes of IPv4. -/
def Prefix.isMasked (p : Prefix) : Bool :=
  match p.addr with
  | .v4 base => decide (base.toNat % 2 ^ (32 - p.bits) = 0)
  | .v6 _ _ => false

def broadcast (p : Prefix) : Addr :=
  match p.addr with
  | .v4 base =>
    .v4 ((List.range' p.bits (32 - p.bits)).foldl
      (fun bits bit => bits ||| 1 <<< (31 - UInt32.ofNat bit)) base)
  | .v6 bytes zone => .v6 bytes zone

/-- The text of a string in an error. -/
def textOf (s : GoString) : String := String.ofList (s.map fun b => Char.ofNat b.toNat)

def validateNetwork (N : Netip) (n : Network) (id self : GoString) : Except Error (Prefix × Addr) :=
  match N.parsePrefix n.cidr with
  | none => .error (.msg ("invalid zone IPv4 network: " ++ textOf n.cidr))
  | some p =>
    if p.addr.is4 = false ∨ p.bits < 16 ∨ 30 < p.bits ∨ p.isMasked = false ∨
        p.addr.isPrivate = false then
      .error (.msg ("invalid zone IPv4 network: " ++ textOf n.cidr))
    else
      match N.parseAddr self with
      | none => .error (.msg ("invalid zone assignment: " ++ textOf self))
      | some ip =>
        if n.id ≠ id ∨ n.mtu < minMTU ∨ mtu < n.mtu ∨ ip.is4 = false ∨
            p.contains ip = false ∨ ip = p.addr ∨ ip = broadcast p then
          .error (.msg ("invalid zone assignment: " ++ textOf self))
        else .ok (p, ip)

theorem is4_of_validateNetwork {N : Netip} {n : Network} {id self : GoString}
    {p : Prefix} {ip : Addr} (h : validateNetwork N n id self = .ok (p, ip)) : ip.is4 = true := by
  revert h
  fun_cases validateNetwork N n id self <;> intro h <;> cases h
  case case5 hchecks =>
    simp only [not_or, Bool.not_eq_false] at hchecks
    exact hchecks.2.2.2.1

end LinkSocks.Zone
