import LinkSocks.Go.Fixed
import LinkSocks.Wire.Message

/-!
# Authenticated packets of the direct path

Probes and the messages of the QUIC handshake have one layout: a magic number, a version, a
type, the identifier of the session, a nonce and a tag.  The tag is a truncated HMAC, under
the session key, of everything between the magic number and itself.  Nothing in it says
which peer made the packet, or for which connection.
-/

namespace LinkSocks

open Go List

def directProbeMACLen : ℕ := 16

/-- `hmac.New(sha256.New, key)` and one `Write`. -/
structure HMAC where
  sum : Bytes → Bytes → Bytes
  length_sum : ∀ key data, (sum key data).length = 32

/-! ## The part that is authenticated -/

structure DirectFields where
  version : UInt8
  type : UInt8
  sessionID : UUID
  nonce : Fixed 8
  deriving DecidableEq

namespace DirectFields

def bytes (f : DirectFields) : Bytes := f.version :: f.type :: (f.sessionID.bytes ++ f.nonce.bytes)

def header (magic : UInt32) (f : DirectFields) : Bytes := putUint32 magic ++ f.bytes

@[simp] theorem length_bytes (f : DirectFields) : f.bytes.length = 26 := by
  simp [bytes]

@[simp] theorem length_header (magic : UInt32) (f : DirectFields) :
    (f.header magic).length = 30 := by
  simp [header]

theorem bytes_injective {f g : DirectFields} (h : f.bytes = g.bytes) : f = g := by
  obtain ⟨version, type, ⟨sid, hsid⟩, ⟨nonce, hnonce⟩⟩ := f
  obtain ⟨version', type', ⟨sid', hsid'⟩, ⟨nonce', hnonce'⟩⟩ := g
  simp only [bytes, cons.injEq] at h
  obtain ⟨rfl, rfl, htail⟩ := h
  obtain ⟨rfl, rfl⟩ := append_inj htail (hsid.trans hsid'.symm)
  rfl

/-- `copy(sid[:], b[6:22])` and the other fields, of at least thirty bytes. -/
def ofBytes (b : Bytes) : DirectFields where
  version := b.getD 4 0
  type := b.getD 5 0
  sessionID := ⟨(Fixed.copy 16 ((b.take 22).drop 6)).bytes, by simp⟩
  nonce := Fixed.copy 8 ((b.take 30).drop 22)

theorem bytes_ofBytes {b : Bytes} (h : 30 ≤ b.length) : (ofBytes b).bytes = (b.take 30).drop 4 := by
  have hsid : ((b.take 22).drop 6).length = 16 := by simp; omega
  have hnonce : ((b.take 30).drop 22).length = 8 := by simp; omega
  simp only [ofBytes, bytes, Fixed.bytes_copy hsid, Fixed.bytes_copy hnonce]
  apply ext_getElem?
  rintro (_ | _ | i)
  · simp [getD_eq_getElem?_getD, show 4 < b.length by omega]
  · simp [getD_eq_getElem?_getD, show 5 < b.length by omega]
  · simp only [getElem?_cons_succ, getElem?_append, hsid, getElem?_drop, getElem?_take]
    split_ifs <;> first | omega | rfl | (congr 1; omega)

theorem header_ofBytes {b : Bytes} (h : 30 ≤ b.length) :
    (ofBytes b).header (uint32Of b) = b.take 30 := by
  rw [header, putUint32_uint32Of (by omega), bytes_ofBytes h]
  conv_rhs => rw [← take_append_drop 4 (b.take 30), take_take, Nat.min_eq_left (by omega)]

theorem ofBytes_header (magic : UInt32) (f : DirectFields) (rest : Bytes) :
    ofBytes (f.header magic ++ rest) = f := by
  apply bytes_injective
  have hlength : 30 ≤ (f.header magic ++ rest).length := by simp
  rw [bytes_ofBytes hlength, take_left' (f.length_header magic), header,
    drop_left' (putUint32_length magic)]

/-- `computeDirectProbeMAC` and `computeDirectQUICHandshakeMAC`, which are one
function. -/
def tag (H : HMAC) (sessionKey : Bytes) (f : DirectFields) : Fixed 16 :=
  if sessionKey = [] then Fixed.copy 16 []
  else Fixed.copy 16 ((H.sum sessionKey f.bytes).take directProbeMACLen)

/-- `verifyDirectProbeMAC` and `verifyDirectQUICHandshakeMAC`. -/
def verify (H : HMAC) (sessionKey : Bytes) (f : DirectFields) (mac : Fixed 16) : Bool :=
  if sessionKey = [] then false else f.tag H sessionKey = mac

end DirectFields

/-! ## The tag -/

/-- `copy(mac[:], b[30:46])`. -/
def tagOf (b : Bytes) : Fixed 16 := Fixed.copy 16 ((b.take 46).drop 30)

variable {b : Bytes}

theorem header_append_tagOf (h : 46 ≤ b.length) :
    (DirectFields.ofBytes b).header (uint32Of b) ++ (tagOf b).bytes = b.take 46 := by
  have htag : ((b.take 46).drop 30).length = 16 := by simp; omega
  rw [DirectFields.header_ofBytes (by omega), tagOf, Fixed.bytes_copy htag]
  conv_rhs => rw [← take_append_drop 30 (b.take 46), take_take, Nat.min_eq_left (by omega)]

theorem tagOf_append (magic : UInt32) (f : DirectFields) (mac : Fixed 16) (rest : Bytes) :
    tagOf (f.header magic ++ (mac.bytes ++ rest)) = mac := by
  have htake : (f.header magic ++ (mac.bytes ++ rest)).take 46 = f.header magic ++ mac.bytes := by
    rw [← append_assoc]
    exact take_left' (by simp)
  rw [tagOf, htake, drop_left' (f.length_header magic), Fixed.copy_bytes]

/-! ## Probes -/

def directProbeMagic : UInt32 := 0x4C534850
def directProbeVersion : UInt8 := 2
def directProbeTypeRequest : UInt8 := 1
def directProbeTypeResponse : UInt8 := 2

structure DirectProbePacket extends DirectFields where
  mac : Fixed 16
  hasMAC : Bool
  deriving DecidableEq

def computeDirectProbeMAC (H : HMAC) (sessionKey : Bytes) (f : DirectFields) : Fixed 16 :=
  f.tag H sessionKey

def verifyDirectProbeMAC (H : HMAC) (sessionKey : Bytes) (f : DirectFields)
    (mac : Fixed 16) : Bool := f.verify H sessionKey mac

def packDirectProbePacket (p : DirectProbePacket) : Bytes :=
  let version := if p.version = 0 then directProbeVersion else p.version
  let header := { p.toDirectFields with version }.header directProbeMagic
  if 2 ≤ version then header ++ p.mac.bytes else header

def parseDirectProbePacket (b : Bytes) : Option DirectProbePacket :=
  if b.length < 30 then none
  else if uint32Of b ≠ directProbeMagic then none
  else if (DirectFields.ofBytes b).version ≠ 1 ∧ (DirectFields.ofBytes b).version ≠ 2 then none
  else if 2 ≤ (DirectFields.ofBytes b).version then
    if b.length < 46 then none
    else some ⟨DirectFields.ofBytes b, tagOf b, true⟩
  else some ⟨DirectFields.ofBytes b, Fixed.copy 16 [], false⟩

variable {p : DirectProbePacket}

theorem packDirectProbePacket_eq (hversion : p.version = 2) :
    packDirectProbePacket p = p.header directProbeMagic ++ p.mac.bytes := by
  obtain ⟨⟨version, type, sid, nonce⟩, mac, hasMAC⟩ := p
  obtain rfl : version = 2 := hversion
  rfl

/-- An authenticated packet is parsed from any datagram that begins with it. -/
theorem parseDirectProbePacket_append (hversion : p.version = 2)
    (hmac : p.hasMAC = true) (rest : Bytes) :
    parseDirectProbePacket (packDirectProbePacket p ++ rest) = some p := by
  obtain ⟨f, mac, hasMAC⟩ := p
  obtain rfl : hasMAC = true := hmac
  have hmagic : uint32Of (f.header directProbeMagic ++ (mac.bytes ++ rest)) = directProbeMagic := by
    rw [DirectFields.header, append_assoc, uint32Of_putUint32]
  rw [packDirectProbePacket_eq hversion, append_assoc, parseDirectProbePacket,
    DirectFields.ofBytes_header, hmagic, tagOf_append, hversion]
  rw [if_neg (by simp), if_neg (by simp), if_neg (by simp), if_pos (by decide),
    if_neg (by simp; omega)]

/-- A datagram begins with the authenticated packet that is parsed from it. -/
theorem pack_isPrefix_of_parse
    (hparse : parseDirectProbePacket b = some p) (hversion : 2 ≤ p.version) :
    p.version = 2 ∧ p.hasMAC = true ∧ packDirectProbePacket p <+: b := by
  rw [parseDirectProbePacket] at hparse
  split_ifs at hparse with hlength hmagic hknown hauth hshort
  · cases hparse
    rw [not_not] at hmagic
    have hversion : (DirectFields.ofBytes b).version = 2 := by
      by_contra htwo
      refine hknown ⟨fun hone => ?_, htwo⟩
      rw [hone] at hauth
      exact absurd hauth (by decide)
    refine ⟨hversion, rfl, ?_⟩
    rw [packDirectProbePacket_eq hversion, ← hmagic, header_append_tagOf (by omega)]
    exact List.take_prefix 46 b
  · cases hparse
    exact absurd hversion hauth

/-! ## The QUIC handshake -/

def directQUICHandshakeMagic : UInt32 := 0x4C535148
def directQUICHandshakeVersion : UInt8 := 1
def directQUICHandshakeTypeHello : UInt8 := 1
def directQUICHandshakeTypeAck : UInt8 := 2
def directQUICHandshakeLen : ℕ := 46

structure DirectQUICHandshake extends DirectFields where
  mac : Fixed 16
  deriving DecidableEq

def computeDirectQUICHandshakeMAC (H : HMAC) (sessionKey : Bytes) (f : DirectFields) : Fixed 16 :=
  f.tag H sessionKey

def verifyDirectQUICHandshakeMAC (H : HMAC) (sessionKey : Bytes) (f : DirectFields)
    (mac : Fixed 16) : Bool := f.verify H sessionKey mac

def packDirectQUICHandshake (h : DirectQUICHandshake) : Bytes :=
  h.header directQUICHandshakeMagic ++ h.mac.bytes

def parseDirectQUICHandshake (b : Bytes) : Option DirectQUICHandshake :=
  if b.length < directQUICHandshakeLen then none
  else if uint32Of b ≠ directQUICHandshakeMagic then none
  else if (DirectFields.ofBytes b).version ≠ directQUICHandshakeVersion then none
  else if (DirectFields.ofBytes b).type ≠ directQUICHandshakeTypeHello ∧
      (DirectFields.ofBytes b).type ≠ directQUICHandshakeTypeAck then none
  else some ⟨DirectFields.ofBytes b, tagOf b⟩

theorem pack_eq_of_parse {h : DirectQUICHandshake} (hparse : parseDirectQUICHandshake b = some h) :
    packDirectQUICHandshake h = b.take directQUICHandshakeLen := by
  rw [parseDirectQUICHandshake] at hparse
  split_ifs at hparse with hlength hmagic hversion htype
  cases hparse
  rw [not_not] at hmagic
  rw [packDirectQUICHandshake, ← hmagic]
  exact header_append_tagOf (not_lt.mp hlength)

end LinkSocks
