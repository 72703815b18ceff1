import LinkSocks.Zone.Cipher

/-!
# What a roster leaves in a cipher

A roster that is accepted has one state for every entry, derived from the key of
the entry, and no two entries with the same key.
-/

namespace LinkSocks.Zone

open Go List

variable {L : ZoneLib} {c c' : PacketCipher} {t t' : RosterTables} {p : Peer}
  {q : PeerCipher} {ip : Addr} {j : ℕ}

/-! ## Well-formed ciphers -/

/-- A peer state is made from its entry. -/
structure PeerCipher.Derived (L : ZoneLib) (c : PacketCipher) (q : PeerCipher) : Prop where
  keyLength : q.peer.key.length = 64
  send : ∃ shared, q.send = derivePacketKey L shared c.zoneID c.key q.peer.key
  receive : ∃ shared, q.receive = derivePacketKey L shared c.zoneID q.peer.key c.key
  session : decodeHex q.peer.session 16 = .ok q.session.bytes

/-- Maps into a table of states: every address is one of IPv4 and has a state that
was made from its entry, states of different addresses have different keys, and
every MAC address is one of a peer. -/
structure WellFormed (L : ZoneLib) (c : PacketCipher) (states : List PeerCipher)
    (peers : GoMap Addr ℕ) (macs : GoMap (Fixed 6) ℕ) : Prop where
  state : ∀ (ip : Addr) (j : ℕ), peers.lookup ip = some j →
    ∃ q : PeerCipher, states[j]? = some q ∧ q.Derived L c
  is4 : ∀ ip ∈ peers, ip.is4 = true
  key : ∀ (ip ip' : Addr) (j j' : ℕ) (q q' : PeerCipher),
    peers.lookup ip = some j → peers.lookup ip' = some j' →
    states[j]? = some q → states[j']? = some q' → q.peer.key = q'.peer.key → j = j'
  mac : ∀ (mac : Fixed 6) (j : ℕ), macs.lookup mac = some j → ∃ ip, peers.lookup ip = some j

theorem wellFormed_empty (L : ZoneLib) (c : PacketCipher) (states : List PeerCipher) :
    WellFormed L c states ∅ ∅ := ⟨nofun, nofun, nofun, nofun⟩

/-- The table has grown, and a new address got a state with a key that no other
address has. -/
theorem WellFormed.insert {states states' : List PeerCipher} {peers : GoMap Addr ℕ}
    {macs : GoMap (Fixed 6) ℕ} (h : WellFormed L c states peers macs)
    (hextends : ∀ (k : ℕ) (r : PeerCipher), states[k]? = some r → states'[k]? = some r)
    (hq : states'[j]? = some q) (hderived : q.Derived L c) (his4 : ip.is4 = true)
    (hnew : ip ∉ peers)
    (hkeys : ∀ (ip' : Addr) (k : ℕ) (r : PeerCipher), peers.lookup ip' = some k →
      states[k]? = some r → r.peer.key ≠ q.peer.key) (mac : Fixed 6) :
    WellFormed L c states' (peers.insert ip j) (macs.insert mac j) where
  state := by
    intro ip' k hlookup
    obtain ⟨-, rfl⟩ | ⟨-, hlookup⟩ := lookup_insert_cases hlookup
    · exact ⟨q, hq, hderived⟩
    · obtain ⟨r, hr, hrderived⟩ := h.state ip' k hlookup
      exact ⟨r, hextends k r hr, hrderived⟩
  is4 := by
    intro ip' hmem
    obtain rfl | hmem := AList.mem_insert _ |>.mp hmem
    · exact his4
    · exact h.is4 ip' hmem
  key := by
    have hbefore : ∀ (ip' : Addr) (k : ℕ) (r : PeerCipher), peers.lookup ip' = some k →
        states'[k]? = some r → states[k]? = some r := by
      intro ip' k r hlookup hr
      obtain ⟨r', hr', -⟩ := h.state ip' k hlookup
      rw [hr', ← hextends k r' hr', hr]
    intro ip₁ ip₂ j₁ j₂ q₁ q₂ h₁ h₂ hq₁ hq₂ hsame
    obtain ⟨-, rfl⟩ | ⟨-, hold₁⟩ := lookup_insert_cases h₁
    · cases hq.symm.trans hq₁
      obtain ⟨-, rfl⟩ | ⟨-, hold₂⟩ := lookup_insert_cases h₂
      · rfl
      · exact absurd hsame.symm (hkeys ip₂ j₂ q₂ hold₂ (hbefore ip₂ j₂ q₂ hold₂ hq₂))
    · have hr₁ := hbefore ip₁ j₁ q₁ hold₁ hq₁
      obtain ⟨-, rfl⟩ | ⟨-, hold₂⟩ := lookup_insert_cases h₂
      · cases hq.symm.trans hq₂
        exact absurd hsame (hkeys ip₁ j₁ q₁ hold₁ hr₁)
      · exact h.key ip₁ ip₂ j₁ j₂ q₁ q₂ hold₁ hold₂ hr₁ (hbefore ip₂ j₂ q₂ hold₂ hq₂) hsame
  mac := by
    intro mac' k hlookup
    obtain ⟨-, rfl⟩ | ⟨-, hlookup⟩ := lookup_insert_cases hlookup
    · exact ⟨ip, AList.lookup_insert _⟩
    · obtain ⟨ip', hip'⟩ := h.mac mac' k hlookup
      exact ⟨ip', lookup_insert_of_not_mem hnew hip'⟩

/-- A cipher between two calls. -/
structure PacketCipher.Sound (L : ZoneLib) (c : PacketCipher) : Prop where
  self : c.self.is4 = true
  keyLength : c.key.length = 64
  parses : ∀ q ∈ c.states, ∃ ip, L.parseAddr q.peer.ip = some ip
  tables : WellFormed L c c.states c.peers c.macs

def HasEntry (L : ZoneLib) (states : List PeerCipher) (peers : GoMap Addr ℕ) (p : Peer) : Prop :=
  ∃ (ip : Addr) (j : ℕ) (q : PeerCipher), L.parseAddr p.ip = some ip ∧
    peers.lookup ip = some j ∧ states[j]? = some q ∧ q.peer.key = p.key ∧ q.peer.session = p.session

/-! ## One entry -/

/-- The address of an entry that goes through: it is in the network, none of those that
are taken, and not in the tables; identity and key are new. -/
theorem peerAddress_ok (h : peerAddress L c t p = .ok ip) :
    L.parseAddr p.ip = some ip ∧ ip.is4 = true ∧
      (c.network.contains ip = true ∧ ip ≠ c.self ∧ ip ≠ c.network.addr ∧
        ip ≠ broadcast c.network) ∧ ip ∉ t.peers ∧ p.identity ∉ t.identities ∧ p.key ∉ t.keys := by
  rw [peerAddress] at h
  split at h
  · cases h
  · rename_i hparse
    split at h <;> cases h
    rename_i hchecks
    simp only [not_or, Bool.not_eq_false] at hchecks
    obtain ⟨his4, hinside, hself, hnetwork, hbroadcast, hnew⟩ := hchecks
    exact ⟨hparse, his4, ⟨hinside, hself, hnetwork, hbroadcast⟩, hnew⟩

/-- An old state is kept exactly for an entry with the same address, identity, key and
session. -/
theorem oldPeer_eq_some_iff : oldPeer c ip p = some j ↔
    c.peers.lookup ip = some j ∧ ∃ q, c.states[j]? = some q ∧
      q.peer.identity = p.identity ∧ q.peer.key = p.key ∧ q.peer.session = p.session := by
  rw [oldPeer, Option.filter_eq_some_iff]
  simp only [Option.any_eq_true, Bool.and_eq_true, decide_eq_true_eq, and_assoc]

theorem peerState_ok {mac : Fixed 6} {key session : Bytes} {states : List PeerCipher}
    (hc : c.Sound L) (hold : ∀ (k : ℕ) (r : PeerCipher), c.states[k]? = some r →
      t.states[k]? = some r)
    (hkey : decodeHex p.key 32 = .ok key) (hsession : decodeHex p.session 16 = .ok session)
    (h : peerState L c t p ip mac key session = .ok (j, states)) :
    (∃ q, states[j]? = some q ∧ q.Derived L c ∧ q.peer.key = p.key ∧ q.peer.session = p.session) ∧
    (∀ (k : ℕ) (r : PeerCipher), t.states[k]? = some r → states[k]? = some r) ∧
    ∀ q ∈ states, q ∈ t.states ∨ q.peer = p := by
  rw [peerState] at h
  split at h
  · rename_i hsome
    cases h
    obtain ⟨hlookup, q, hq, -, hsame⟩ := oldPeer_eq_some_iff.mp hsome
    obtain ⟨q', hq', hderived⟩ := hc.tables.state ip _ hlookup
    cases hq.symm.trans hq'
    exact ⟨⟨q, hold _ q hq, hderived, hsame⟩, fun _ _ hr => hr, fun _ hmem => .inl hmem⟩
  · split at h <;> cases h
    rename_i shared hshared
    refine ⟨⟨_, getElem?_concat_length, ?_, rfl, rfl⟩,
      fun _ _ hr => getElem?_append_of_some hr _, ?_⟩
    · refine ⟨(decodeHex_ok hkey).2, ⟨shared, rfl⟩, ⟨shared, rfl⟩, ?_⟩
      rw [hsession, Fixed.bytes_copy (decodeHex_ok hsession).1]
    · intro q hmem
      obtain hmem | hmem := mem_append.mp hmem
      · exact .inl hmem
      · exact .inr (mem_singleton.mp hmem ▸ rfl)

/-! ## The loop -/

/-- The tables after some of the entries. -/
structure Filled (L : ZoneLib) (c : PacketCipher) (t : RosterTables) (seen : List Peer) : Prop where
  old : ∀ (k : ℕ) (r : PeerCipher), c.states[k]? = some r → t.states[k]? = some r
  parses : ∀ q ∈ t.states, ∃ ip, L.parseAddr q.peer.ip = some ip
  tables : WellFormed L c t.states t.peers t.macs
  keys : ∀ (ip : Addr) (j : ℕ) (q : PeerCipher), t.peers.lookup ip = some j →
    t.states[j]? = some q → q.peer.key ∈ t.keys
  entry : ∀ p ∈ seen, HasEntry L t.states t.peers p

theorem filled_start (hc : c.Sound L) : Filled L c ⟨c.states, ∅, ∅, [], []⟩ [] where
  old := fun _ _ h => h
  parses := hc.parses
  tables := wellFormed_empty L c c.states
  keys := nofun
  entry := nofun

theorem addPeer_ok (h : addPeer L c t p = .ok t') : ∃ ip identity key session j states,
      peerAddress L c t p = .ok ip ∧ decodeHex p.identity 32 = .ok identity ∧
      decodeHex p.key 32 = .ok key ∧ decodeHex p.session 16 = .ok session ∧
      checkMAC c t (deriveMAC L c.zoneID identity) = .ok () ∧
      peerState L c t p ip (deriveMAC L c.zoneID identity) key session = .ok (j, states) ∧ t' = {
        states := states
        peers := t.peers.insert ip j
        macs := t.macs.insert (deriveMAC L c.zoneID identity) j
        identities := p.identity :: t.identities
        keys := p.key :: t.keys } := by
  obtain ⟨ip, hip, h⟩ := ok_of_bind h
  obtain ⟨identity, hidentity, h⟩ := ok_of_bind h
  obtain ⟨key, hkey, h⟩ := ok_of_bind h
  obtain ⟨session, hsession, h⟩ := ok_of_bind h
  obtain ⟨⟨⟩, hmac, h⟩ := ok_of_bind h
  obtain ⟨⟨j, states⟩, hstate, h⟩ := ok_of_bind h
  cases h
  exact ⟨ip, identity, key, session, j, states, hip, hidentity, hkey, hsession, hmac, hstate, rfl⟩

theorem Filled.add {seen : List Peer} (hc : c.Sound L) (h : Filled L c t seen)
    (hp : addPeer L c t p = .ok t') : Filled L c t' (seen ++ [p]) := by
  obtain ⟨ip, identity, key, session, j, states, hip, -, hkey, hsession, -, hstate, rfl⟩ :=
    addPeer_ok hp
  obtain ⟨hparse, his4, -, hnew, -, hfresh⟩ := peerAddress_ok hip
  obtain ⟨⟨q, hq, hderived, hqkey, hqsession⟩, hextends, hmem⟩ :=
    peerState_ok hc h.old hkey hsession hstate
  refine ⟨fun k r hr => hextends k r (h.old k r hr), ?_, ?_, ?_, ?_⟩
  · intro r hr
    obtain hr | hr := hmem r hr
    · exact h.parses r hr
    · exact ⟨ip, hr ▸ hparse⟩
  · refine h.tables.insert hextends hq hderived his4 hnew ?_ _
    intro ip' k r hlookup hr hsame
    exact hfresh (hqkey ▸ hsame ▸ h.keys ip' k r hlookup hr)
  · intro ip' k r hlookup hr
    obtain ⟨-, rfl⟩ | ⟨-, hlookup⟩ := lookup_insert_cases hlookup
    · cases hq.symm.trans hr
      exact mem_cons.mpr (.inl hqkey)
    · obtain ⟨r', hr', -⟩ := h.tables.state ip' k hlookup
      cases (hextends k r' hr').symm.trans hr
      exact mem_cons_of_mem _ (h.keys ip' k _ hlookup hr')
  · intro p' hp'
    obtain hp' | hp' := mem_append.mp hp'
    · obtain ⟨ip', k, r, hparse', hlookup, hr, hrest⟩ := h.entry p' hp'
      exact ⟨ip', k, r, hparse', lookup_insert_of_not_mem hnew hlookup, hextends k r hr, hrest⟩
    · cases mem_singleton.mp hp'
      exact ⟨ip, j, q, hparse, AList.lookup_insert _, hq, hqkey, hqsession⟩

theorem Filled.addAll {seen : List Peer} (hc : c.Sound L) (h : Filled L c t seen)
    {roster : List Peer} (hfold : roster.foldlM (addPeer L c) t = .ok t') :
    Filled L c t' (seen ++ roster) := by
  induction roster generalizing t seen with
  | nil =>
    cases hfold
    rwa [append_nil]
  | cons p roster ih =>
    obtain ⟨t₁, ht₁, hfold⟩ := ok_of_bind hfold
    have hrest := ih (h.add hc ht₁) hfold
    rwa [append_assoc] at hrest

/-! ## Updates -/

/-- A roster that is accepted: the cipher stays well formed and has every entry of
the roster; everything but the tables is as before. -/
theorem update_ok {roster : Control} (hc : c.Sound L) (h : update L c roster = .ok c') :
    c'.Sound L ∧ (∀ p ∈ roster.peers, HasEntry L c'.states c'.peers p) ∧
      c' = { c with states := c'.states, peers := c'.peers, macs := c'.macs } := by
  obtain ⟨⟨⟩, -, h⟩ := ok_of_bind h
  obtain ⟨t, hfold, h⟩ := ok_of_bind h
  cases h
  have hfilled := (filled_start hc).addAll hc hfold
  obtain ⟨hstate, his4, hkey, hmac⟩ := hfilled.tables
  refine ⟨⟨hc.self, hc.keyLength, hfilled.parses, ⟨?_, his4, hkey, hmac⟩⟩, hfilled.entry, rfl⟩
  intro ip j hlookup
  obtain ⟨q, hq, hderived⟩ := hstate ip j hlookup
  exact ⟨q, hq, hderived.keyLength, hderived.send, hderived.receive, hderived.session⟩

theorem newPacketCipher_update {id session : GoString} {initial : Control}
    {privateKey identity : Bytes}
    (h : newPacketCipher L id initial privateKey session identity = .ok c) :
    ∃ c₀ : PacketCipher, c₀.Sound L ∧ decodeHex session 16 = .ok c₀.session.bytes ∧
      update L c₀ initial = .ok c := by
  rw [newPacketCipher] at h
  split at h
  · cases h
  · rename_i network self hvalid
    obtain ⟨nonce, hnonce, h⟩ := ok_of_bind h
    refine ⟨_, ⟨is4_of_validateNetwork hvalid, by simp, by simp, wellFormed_empty L _ _⟩, ?_, h⟩
    rw [hnonce, Fixed.bytes_copy (decodeHex_ok hnonce).1]

theorem newPacketCipher_ok {id session : GoString} {initial : Control} {privateKey identity : Bytes}
    (h : newPacketCipher L id initial privateKey session identity = .ok c) :
    c.Sound L ∧ (∀ p ∈ initial.peers, HasEntry L c.states c.peers p) ∧
      decodeHex session 16 = .ok c.session.bytes := by
  obtain ⟨c₀, hsound₀, hsession, hupdate⟩ := newPacketCipher_update h
  obtain ⟨hsound, hentry, hsame⟩ := update_ok hsound₀ hupdate
  refine ⟨hsound, hentry, ?_⟩
  rw [hsame, hsession]

end LinkSocks.Zone
