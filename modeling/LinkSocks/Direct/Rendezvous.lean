import LinkSocks.Direct.Probe

/-!
# Reflecting the address of a client

The rendezvous service answers a request with the address that it came from.  The client
takes an address of any length out of the answer; one with neither four nor sixteen bytes
gives a candidate that has no address.
-/

namespace LinkSocks

open Go List Option

def directRendezvousMagic : UInt32 := 0x4C535255
def directRendezvousVersion : UInt8 := 1
def directRendezvousTypeBindingResponse : UInt8 := 2

/-- The first twelve bytes of the long form of an IPv4 address. -/
def v4InV6Prefix : Bytes := [0, 0, 0, 0, 0, 0, 0, 0, 0, 0, 0xff, 0xff]

/-- `To4`, `none` for `nil`. -/
def to4 (ip : Bytes) : Option Bytes :=
  if ip.length = 4 then some ip
  else if ip.length = 16 ∧ ip.take 12 = v4InV6Prefix then some (ip.drop 12)
  else none

/-- The texts of addresses: `String` of a `net.IP`, and `net.ParseIP`. -/
structure IPText where
  ipString : Bytes → GoString
  parseIP : GoString → Option Bytes

/-- An address of either family. -/
def IsIP (ip : Bytes) : Prop := ip.length = 4 ∨ ip.length = 16

/-- A text is read as the address it stands for, in the long form; an IPv4 address has one
text, and other bytes do not look like an address. -/
structure IPText.Lawful (L : IPText) : Prop where
  parse : ∀ ip, ip.length = 16 → L.parseIP (L.ipString ip) = some ip
  mapped : ∀ ip, ip.length = 4 → L.ipString (v4InV6Prefix ++ ip) = L.ipString ip
  other : ∀ ip ip', IsIP ip → L.ipString ip' = L.ipString ip → IsIP ip'

section Rendezvous

variable (L : IPText)

/-- `saddrToCandidate` of an address. -/
def saddrToCandidate (src : UDPAddr) : DirectCandidate :=
  ⟨L.ipString ((to4 src.ip).getD src.ip), src.port, ascii "srflx"⟩

/-- The answer up to the address. -/
def responseHeader (nonce : Fixed 8) (family ipLen : UInt8) : Bytes :=
  putUint32 directRendezvousMagic ++ directRendezvousVersion ::
    directRendezvousTypeBindingResponse :: (nonce.bytes ++ [family, ipLen])

def buildDirectRendezvousBindingResponse (nonce : Fixed 8) (cand : DirectCandidate) : Bytes :=
  let ip := (L.parseIP cand.addr).getD (v4InV6Prefix ++ [0, 0, 0, 0])
  let ip := (to4 ip).getD ip
  let ipBytes := if ip.length > 255 then [] else ip
  let family := if ipBytes.length = 16 then 2 else 1
  responseHeader nonce family (UInt8.ofNat ipBytes.length) ++ ipBytes ++
    putUint16 (UInt16.ofInt cand.port)

def parseDirectRendezvousBindingResponse (b : Bytes) (nonce : Fixed 8) : Option DirectCandidate :=
  if b.length < 18 then none
  else if uint32Of b ≠ directRendezvousMagic then none
  else if b.getD 4 0 ≠ directRendezvousVersion then none
  else if b.getD 5 0 ≠ directRendezvousTypeBindingResponse then none
  else if (b.take 14).drop 6 ≠ nonce.bytes then none
  else
    let ipLen := (b.getD 15 0).toNat
    if b.length < 16 + ipLen + 2 then none
    else
      let ipBytes := (b.take (16 + ipLen)).drop 16
      let port := (uint16Of (b.drop (16 + ipLen))).toNat
      if port = 0 then none
      else
        let ip := (to4 ipBytes).getD ipBytes
        if ip = [] then none else some ⟨L.ipString ip, port, []⟩

end Rendezvous

variable {L : IPText} {ip : Bytes}

theorem to4_of_length (h : ip.length = 4) : to4 ip = some ip := if_pos h

theorem to4_mapped (h : ip.length = 4) : to4 (v4InV6Prefix ++ ip) = some ip := by
  simp [to4, v4InV6Prefix, h]

/-- An address has four bytes, or they are behind the prefix, or it has no short form. -/
theorem IsIP.cases (h : IsIP ip) :
    (∃ ip4 : Bytes, ip4.length = 4 ∧ to4 ip = some ip4 ∧ (ip = ip4 ∨ ip = v4InV6Prefix ++ ip4)) ∨
      ip.length = 16 ∧ to4 ip = none := by
  obtain h | h := h
  · exact .inl ⟨ip, h, to4_of_length h, .inl rfl⟩
  · by_cases hprefix : ip.take 12 = v4InV6Prefix
    · have heq : ip = v4InV6Prefix ++ ip.drop 12 := by rw [← hprefix, take_append_drop]
      have hdrop : (ip.drop 12).length = 4 := by simp [h]
      exact .inl ⟨ip.drop 12, hdrop, (congrArg to4 heq).trans (to4_mapped hdrop), .inr heq⟩
    · exact .inr ⟨h, by simp [to4, h, hprefix]⟩

theorem isIP_short : IsIP ((to4 ip).getD ip) ↔ IsIP ip := by
  unfold to4 IsIP
  split_ifs with h4 h16
  · rfl
  · simp [h16.1]
  · rfl

/-- The server makes an address of the text of a short form. -/
theorem IPText.Lawful.short (hL : L.Lawful) (h : IsIP ip) :
    ∃ long, L.parseIP (L.ipString ((to4 ip).getD ip)) = some long ∧
      (to4 long).getD long = (to4 ip).getD ip ∧ L.ipString ((to4 ip).getD ip) = L.ipString ip ∧
      (to4 ((to4 ip).getD ip)).getD ((to4 ip).getD ip) = (to4 ip).getD ip := by
  obtain ⟨ip4, h4, hto4, heq⟩ | ⟨h16, hto4⟩ := h.cases
  · have htext : L.ipString ip4 = L.ipString ip := by
      obtain rfl | rfl := heq
      · rfl
      · exact (hL.mapped ip4 h4).symm
    rw [hto4, getD_some]
    refine ⟨v4InV6Prefix ++ ip4, ?_, ?_, htext, by rw [to4_of_length h4, getD_some]⟩
    · rw [← hL.mapped ip4 h4]
      exact hL.parse _ (by simp [v4InV6Prefix, h4])
    · rw [to4_mapped h4, getD_some]
  · rw [hto4]
    have hnone : (to4 ip).getD ip = ip := by rw [hto4, getD_none]
    exact ⟨ip, hL.parse ip h16, hnone, rfl, hnone⟩

/-- What is read from an answer with this layout. -/
theorem parse_layout (nonce nonce' : Fixed 8) (family : UInt8) {port : UInt16} (hip : IsIP ip)
    (hport : port ≠ 0) : parseDirectRendezvousBindingResponse L
        (responseHeader nonce family (UInt8.ofNat ip.length) ++ ip ++ putUint16 port) nonce' =
      if nonce = nonce' then some ⟨L.ipString ((to4 ip).getD ip), port.toNat, []⟩ else none := by
  set b := responseHeader nonce family (UInt8.ofNat ip.length) ++ ip ++ putUint16 port
  have hheader : (responseHeader nonce family (UInt8.ofNat ip.length)).length = 16 := by
    simp [responseHeader]
  have hlength : b.length = 16 + ip.length + 2 := by
    simp only [b, length_append, hheader, putUint16_length]
  have hlen : (b.getD 15 0).toNat = ip.length := by
    have hbyte : b.getD 15 0 = UInt8.ofNat ip.length := by
      change (nonce.bytes ++ [family, UInt8.ofNat ip.length] ++ ip ++ putUint16 port).getD 9 0 = _
      simp [getElem?_append]
    rw [hbyte]
    obtain h | h := hip <;> rw [h] <;> rfl
  have hnonce : (b.take 14).drop 6 = nonce.bytes := by
    change (nonce.bytes ++ [family, UInt8.ofNat ip.length] ++ ip ++ putUint16 port).take 8 = _
    simp
  have hbytes : (b.take (16 + ip.length)).drop 16 = ip := by
    rw [take_left' (by simp [hheader]), drop_left' hheader]
  have hdrop : b.drop (16 + ip.length) = putUint16 port ++ [] := by
    rw [drop_left' (by simp [hheader]), append_nil]
  have hne : (to4 ip).getD ip ≠ [] := by
    intro hnil
    have := isIP_short.mpr hip
    simp [hnil, IsIP] at this
  have hport : port.toNat ≠ 0 := fun h => hport (UInt16.toNat_inj.mp h)
  have hmagic : uint32Of b = directRendezvousMagic := by
    simp only [b, responseHeader, append_assoc, uint32Of_putUint32]
  have htype : b.getD 4 0 = directRendezvousVersion ∧
      b.getD 5 0 = directRendezvousTypeBindingResponse := ⟨rfl, rfl⟩
  rw [parseDirectRendezvousBindingResponse, if_neg (by omega), if_neg (not_not.mpr hmagic),
    if_neg (not_not.mpr htype.1), if_neg (not_not.mpr htype.2), hnonce, hlen]
  simp only [hlength, hbytes, hdrop, uint16Of_putUint16, hne, hport, Fixed.ext_iff,
    lt_irrefl, if_false, ite_not]

/-- A client that has asked with the nonce gets its address and its port. -/
theorem parse_build (hL : L.Lawful) (nonce nonce' : Fixed 8) {src : UDPAddr} (hip : IsIP src.ip)
    (hport : 1 ≤ src.port ∧ src.port ≤ 65535) : parseDirectRendezvousBindingResponse L
        (buildDirectRendezvousBindingResponse L nonce (saddrToCandidate L src)) nonce' =
      if nonce = nonce' then some ⟨L.ipString src.ip, src.port, []⟩ else none := by
  obtain ⟨long, hparse, hshort, htext, hto4⟩ := hL.short hip
  have hip' := isIP_short.mpr hip
  have hlength : ¬ ((to4 src.ip).getD src.ip).length > 255 := by
    obtain h | h := hip' <;> omega
  have hport' : (UInt16.ofInt src.port).toNat = src.port := by
    rw [UInt16.ofInt, UInt16.toNat_ofNat']
    omega
  have hne : UInt16.ofInt src.port ≠ 0 := fun h => by simp [h] at hport'; omega
  have hlayout := parse_layout (L := L) nonce nonce'
    (if ((to4 src.ip).getD src.ip).length = 16 then 2 else 1) hip' hne
  rw [hto4, htext, hport'] at hlayout
  simpa only [buildDirectRendezvousBindingResponse, saddrToCandidate, hparse, getD_some,
    hshort, if_neg hlength] using hlayout

/-- The candidate of an answer has a port, and an address if that has a length of one. -/
theorem candidate_of_parse (hL : L.Lawful) {b : Bytes} {nonce : Fixed 8} {c : DirectCandidate}
    (h : parseDirectRendezvousBindingResponse L b nonce = some c) :
    (1 ≤ c.port ∧ c.port ≤ 65535) ∧
      ((∃ ip, IsIP ip ∧ c.addr = L.ipString ip) ↔ b.getD 15 0 = 4 ∨ b.getD 15 0 = 16) := by
  simp only [parseDirectRendezvousBindingResponse] at h
  split_ifs at h with h1 h2 h3 h4 h5 hlen hport hne
  cases h
  have hlt := (uint16Of (b.drop (16 + (b.getD 15 0).toNat))).toNat_lt
  constructor
  · dsimp only
    omega
  · set ipBytes := (b.take (16 + (b.getD 15 0).toNat)).drop 16
    have hlength : ipBytes.length = (b.getD 15 0).toNat := by
      simp only [ipBytes, length_drop, length_take]
      omega
    calc (∃ ip, IsIP ip ∧ L.ipString ((to4 ipBytes).getD ipBytes) = L.ipString ip)
        ↔ IsIP ((to4 ipBytes).getD ipBytes) :=
          ⟨fun ⟨ip, hip, htext⟩ => hL.other ip _ hip htext, fun hip => ⟨_, hip, rfl⟩⟩
      _ ↔ IsIP ipBytes := isIP_short
      _ ↔ _ := by
        rw [IsIP, hlength, ← UInt8.toNat_inj, ← UInt8.toNat_inj]
        rfl

/-- The reflection of an address is sound, apart from answers that no server makes: the client
gets its own address, another nonce is refused, and the candidate of any accepted datagram has a
port, and an address if and only if it has the length of one. -/
theorem rendezvous_sound (L : IPText) (hL : L.Lawful) :
    (∀ (nonce nonce' : Fixed 8) (src : UDPAddr), IsIP src.ip → 1 ≤ src.port ∧ src.port ≤ 65535 →
      parseDirectRendezvousBindingResponse L
          (buildDirectRendezvousBindingResponse L nonce (saddrToCandidate L src)) nonce' =
        if nonce = nonce' then some ⟨L.ipString src.ip, src.port, []⟩ else none) ∧
      ∀ b nonce c, parseDirectRendezvousBindingResponse L b nonce = some c →
        (1 ≤ c.port ∧ c.port ≤ 65535) ∧
          ((∃ ip, IsIP ip ∧ c.addr = L.ipString ip) ↔ b.getD 15 0 = 4 ∨ b.getD 15 0 = 16) :=
  ⟨fun nonce nonce' _ => parse_build hL nonce nonce', fun _ _ _ => candidate_of_parse hL⟩

/-! ## An address of five bytes -/

/-- The text of one address, and texts in which the bytes of all others stand for
themselves. -/
def plainText : IPText where
  ipString ip :=
    let long := if ip.length = 4 then v4InV6Prefix ++ ip else ip
    if long.length ≠ 16 then 63 :: ip
    else if long = v4InV6Prefix ++ [10, 0, 0, 1] then ascii "10.0.0.1"
    else 73 :: long
  parseIP s :=
    if s = ascii "10.0.0.1" then some (v4InV6Prefix ++ [10, 0, 0, 1])
    else if s.head? = some 73 then some s.tail
    else none

theorem plainText_head {ip : Bytes} : (plainText.ipString ip).head? = some 63 ↔ ¬ IsIP ip := by
  have hlong : (if ip.length = 4 then v4InV6Prefix ++ ip else ip).length = 16 ↔ IsIP ip := by
    rw [IsIP]
    split_ifs with h4 <;> simp [h4, v4InV6Prefix]
  rw [← hlong]
  simp only [plainText]
  split_ifs <;> simp_all [ascii]

theorem plainText_lawful : plainText.Lawful where
  parse ip h := by
    simp only [plainText, h]
    split_ifs <;> simp_all [ascii]
  mapped ip h := by simp [plainText, v4InV6Prefix, h]
  other ip ip' h heq := by
    by_contra hother
    rw [← plainText_head, heq, plainText_head] at hother
    exact hother h

def zeroNonce : Fixed 8 := Fixed.copy 8 []

theorem plainText_reflects : parseDirectRendezvousBindingResponse plainText
    (buildDirectRendezvousBindingResponse plainText zeroNonce
      (saddrToCandidate plainText ⟨[10, 0, 0, 1], 80⟩)) zeroNonce =
      some ⟨ascii "10.0.0.1", 80, []⟩ :=
  (rendezvous_sound plainText plainText_lawful).1 zeroNonce zeroNonce ⟨[10, 0, 0, 1], 80⟩
    (.inl rfl) (by decide)

/-- An answer with five bytes is accepted, and what it gives is the text of no address. -/
theorem oddAddress_accepted : (parseDirectRendezvousBindingResponse plainText
        (responseHeader zeroNonce 1 5 ++ [1, 2, 3, 4, 5] ++ putUint16 80) zeroNonce).map (·.addr) =
      some (63 :: [1, 2, 3, 4, 5]) ∧
    ¬ ∃ ip, IsIP ip ∧ 63 :: [1, 2, 3, 4, 5] = plainText.ipString ip := by
  refine ⟨by decide +kernel, ?_⟩
  rintro ⟨ip, h, heq⟩
  exact plainText_head.mp (heq ▸ rfl) h

end LinkSocks
