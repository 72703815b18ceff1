import LinkSocks.Wire.Safety

/-!
# What the parser can return

Bounds on the fields of every message the parser accepts, whatever the frame.
A text behind a length byte has at most 255 bytes and a port behind two bytes
is a 16-bit value, so a sender's field outside these bounds cannot come back
unchanged.
-/

namespace LinkSocks

open Go

theorem slice_byte_length {b s : Bytes} {lo : ℕ} {len : UInt8}
    (h : slice b lo (lo + len.toNat) = .ok s) : s.length ≤ 255 := by
  have hlen := len.toNat_lt
  rw [slice_length h]
  omega

theorem port_range (b0 b1 : UInt8) : 0 ≤ port b0 b1 ∧ port b0 b1 < 65536 := by
  have h0 := b0.toNat_lt
  have h1 := b1.toNat_lt
  rw [port, port_toNat]
  omega

/-- A text and a port as the wire can carry them. -/
def AddressFits (address : GoString) (p : Int) : Prop := address.length ≤ 255 ∧ 0 ≤ p ∧ p < 65536

variable {rest : Bytes}

theorem parseAddress_fits {extra : ℕ} {emptyText shortText : String} {r : ℕ × GoString × Int}
    (h : parseAddress rest extra emptyText shortText = .ok r) : AddressFits r.2.1 r.2.2 := by
  obtain ⟨-, len, hi, lo, haddress, hport⟩ := parseAddress_ok h
  rw [AddressFits, hport]
  exact ⟨slice_byte_length haddress, port_range hi lo⟩

variable {L : Lib}

theorem parseAuth_token_length {payload : Bytes} {m : AuthMessage}
    (h : parseAuth L payload = .ok m) : m.token.length ≤ 255 := by
  obtain ⟨-, h⟩ := guard_eq_ok h
  obtain ⟨len, -, h⟩ := bind_eq_ok h
  obtain ⟨-, h⟩ := guard_eq_ok h
  obtain ⟨token, htoken, h⟩ := bind_eq_ok h
  obtain ⟨reverse, -, h⟩ := bind_eq_ok h
  obtain ⟨raw, -, h⟩ := bind_eq_ok h
  obtain ⟨instanceID, -, h⟩ := bind_eq_ok h
  cases h
  exact slice_byte_length htoken

variable {b : UInt8}

theorem bytesToOperation_known (h : ¬ (bytesToOperation b).length = 0) :
    bytesToOperation b = opAdd ∨ bytesToOperation b = opRemove := by
  rw [bytesToOperation] at h ⊢
  by_cases h1 : b = 0x01
  · exact Or.inl (if_pos h1)
  · rw [if_neg h1] at h ⊢
    by_cases h2 : b = 0x02
    · exact Or.inr (if_pos h2)
    · rw [if_neg h2] at h
      exact absurd rfl h

theorem parseConnector_fits {payload : Bytes} {m : ConnectorMessage}
    (h : parseConnector L payload = .ok m) : m.connectorToken.length ≤ 255 ∧
      (m.operation = opAdd ∨ m.operation = opRemove) := by
  obtain ⟨-, h⟩ := guard_eq_ok h
  obtain ⟨raw, -, h⟩ := bind_eq_ok h
  obtain ⟨channelID, -, h⟩ := bind_eq_ok h
  obtain ⟨rest, -, h⟩ := bind_eq_ok h
  obtain ⟨-, h⟩ := guard_eq_ok h
  obtain ⟨len, -, h⟩ := bind_eq_ok h
  obtain ⟨-, h⟩ := guard_eq_ok h
  obtain ⟨token, htoken, h⟩ := bind_eq_ok h
  obtain ⟨op, -, h⟩ := bind_eq_ok h
  obtain ⟨hknown, h⟩ := guard_eq_ok h
  cases h
  exact ⟨slice_byte_length htoken, bytesToOperation_known hknown⟩

theorem parseConnect_fits {m : ConnectMessage} (h : parseConnect L (b :: rest) = .ok m) :
    AddressFits m.address m.port ∧ (bytesToProtocol b ≠ tcp → m.address = [] ∧ m.port = 0) := by
  obtain ⟨-, h⟩ := guard_eq_ok h
  rw [show index (b :: rest) 0 = .ok b from rfl, ok_bind] at h
  obtain ⟨raw, -, h⟩ := bind_eq_ok h
  obtain ⟨channelID, -, h⟩ := bind_eq_ok h
  by_cases htcp : bytesToProtocol b = tcp
  · refine ⟨?_, fun hne => absurd htcp hne⟩
    rw [if_pos htcp] at h
    obtain ⟨tail, -, h⟩ := bind_eq_ok h
    obtain ⟨r, hr, h⟩ := bind_eq_ok h
    have hfits := parseAddress_fits hr
    dsimp only at h
    split at h
    · obtain ⟨resume, -, h⟩ := bind_eq_ok h
      cases h
      exact hfits
    · cases h
      exact hfits
  · rw [if_neg htcp] at h
    have hempty : m.address = [] ∧ m.port = 0 := by
      split at h
      · obtain ⟨resume, -, h⟩ := bind_eq_ok h
        cases h
        exact ⟨rfl, rfl⟩
      · cases h
        exact ⟨rfl, rfl⟩
    refine ⟨?_, fun _ => hempty⟩
    rw [AddressFits, hempty.1, hempty.2]
    decide

theorem parseData_fits {w : IntSize} {m : DataMessage} (h : parseData w L (b :: rest) = .ok m) :
    (AddressFits m.address m.port ∧ AddressFits m.targetAddr m.targetPort) ∧
      (bytesToProtocol b ≠ udp → (m.address = [] ∧ m.port = 0) ∧
        m.targetAddr = [] ∧ m.targetPort = 0) := by
  obtain ⟨-, h⟩ := guard_eq_ok h
  rw [show index (b :: rest) 0 = .ok b from rfl, ok_bind] at h
  obtain ⟨raw, -, h⟩ := bind_eq_ok h
  obtain ⟨channelID, -, h⟩ := bind_eq_ok h
  obtain ⟨compression, -, h⟩ := bind_eq_ok h
  obtain ⟨body, -, h⟩ := bind_eq_ok h
  obtain ⟨data, -, h⟩ := bind_eq_ok h
  by_cases hudp : bytesToProtocol b = udp
  · refine ⟨?_, fun hne => absurd hudp hne⟩
    rw [if_pos hudp] at h
    obtain ⟨tail, -, h⟩ := bind_eq_ok h
    obtain ⟨r, hr, h⟩ := bind_eq_ok h
    obtain ⟨tail', -, h⟩ := bind_eq_ok h
    obtain ⟨r', hr', h⟩ := bind_eq_ok h
    obtain ⟨tail'', -, h⟩ := bind_eq_ok h
    have hfits := And.intro (parseAddress_fits hr) (parseAddress_fits hr')
    split at h
    · obtain ⟨bytes, -, h⟩ := bind_eq_ok h
      obtain ⟨sequence, -, h⟩ := bind_eq_ok h
      cases h
      exact hfits
    · cases h
      exact hfits
  · rw [if_neg hudp] at h
    have hempty : (m.address = [] ∧ m.port = 0) ∧ m.targetAddr = [] ∧ m.targetPort = 0 := by
      split at h
      · obtain ⟨bytes, -, h⟩ := bind_eq_ok h
        obtain ⟨sequence, -, h⟩ := bind_eq_ok h
        cases h
        exact ⟨⟨rfl, rfl⟩, rfl, rfl⟩
      · cases h
        exact ⟨⟨rfl, rfl⟩, rfl, rfl⟩
    refine ⟨?_, fun _ => hempty⟩
    obtain ⟨⟨ha, hp⟩, hta, htp⟩ := hempty
    rw [AddressFits, AddressFits, ha, hp, hta, htp]
    decide

end LinkSocks
