import LinkSocks.Go.Method
import LinkSocks.Zone.Channel

/-!
# Replacing a roster

`update` checks the entries of a roster one by one and fills two new tables on the
way, by address and by MAC address, with the state that an entry had before or with
a new one.  Only when every entry has gone through do the new tables replace the old
ones.

The method below changes the cipher as the code does, new states included, and is
compared with `update`.  What it leaves is described by rows, one for each entry of
the roster.
-/

namespace LinkSocks.Zone

open Go List AList

/-! ## The method -/

/-- The loop.  A state that it makes is there at once, but nothing refers to it. -/
def fillTables (L : ZoneLib) (c : PacketCipher) :
    List Peer → RosterTables → ExceptT Error (StateM PacketCipher) RosterTables
  | [], t => pure t
  | p :: rest, t => do
      let t' ← addPeer L c t p
      modify fun c => { c with states := t'.states }
      fillTables L c rest t'

def updateInPlace (L : ZoneLib) (roster : Control) : ExceptT Error (StateM PacketCipher) Unit := do
  let c ← get
  checkRoster L c roster
  let t ← fillTables L c roster.peers ⟨c.states, ∅, ∅, [], []⟩
  modify fun c => { c with peers := t.peers, macs := t.macs }

/-! ## What the method does -/

section InPlace

variable {L : ZoneLib} {c c' s : PacketCipher} {t t' : RosterTables} {p : Peer} {e : Error}
  {roster : List Peer}

theorem checkMAC_ok {mac : Fixed 6} {u : Unit} (h : checkMAC c t mac = .ok u) :
    mac ∉ t.macs ∧ mac ≠ c.mac := by
  rw [checkMAC] at h
  split at h
  · cases h
  · rename_i hcheck
    exact not_or.mp hcheck

/-- The state for an entry: the one that it had, or a new one behind the others. -/
theorem peerState_cases {ip : Addr} {mac : Fixed 6} {key session : Bytes} {j : ℕ}
    {states : List PeerCipher} (h : peerState L c t p ip mac key session = .ok (j, states)) :
    oldPeer c ip p = some j ∧ states = t.states ∨ oldPeer c ip p = none ∧ j = t.states.length ∧
        ∃ q : PeerCipher, states = t.states ++ [q] ∧ q.peer = p ∧ q.last = 0 := by
  rw [peerState] at h
  split at h
  · rename_i hsome
    cases h
    exact .inl ⟨hsome, rfl⟩
  · rename_i hnone
    split at h <;> cases h
    exact .inr ⟨hnone, rfl, _, rfl, rfl, rfl⟩

theorem states_of_addPeer (h : addPeer L c t p = .ok t') : t.states <+: t'.states := by
  obtain ⟨ip, identity, key, session, j, states, -, -, -, -, -, hstate, rfl⟩ := addPeer_ok h
  obtain ⟨-, rfl⟩ | ⟨-, -, q, rfl, -, -⟩ := peerState_cases hstate
  · exact prefix_rfl
  · exact prefix_append _ _

theorem fillTables_cons_ok (h : addPeer L c t p = .ok t') : (fillTables L c (p :: roster) t).run s =
      (fillTables L c roster t').run { s with states := t'.states } := by
  rw [fillTables, h]
  rfl

theorem fillTables_cons_error (h : addPeer L c t p = .error e) :
    (fillTables L c (p :: roster) t).run s = (.error e, s) := by
  rw [fillTables, h]
  rfl

/-- The loop goes through: of the cipher only the states have changed. -/
theorem fillTables_ok (hs : s.states = t.states) (h : roster.foldlM (addPeer L c) t = .ok t') :
    (fillTables L c roster t).run s = (.ok t', { s with states := t'.states }) := by
  induction roster generalizing s t with
  | nil =>
    cases h
    rw [← hs]
    rfl
  | cons p roster ih =>
    obtain ⟨t₁, ht₁, h⟩ := ok_of_bind h
    rw [fillTables_cons_ok ht₁, ih rfl h]

theorem fillTables_error (hs : s.states = t.states) (h : roster.foldlM (addPeer L c) t = .error e) :
    ∃ states, s.states <+: states ∧
      (fillTables L c roster t).run s = (.error e, { s with states := states }) := by
  induction roster generalizing s t with
  | nil => cases h
  | cons p roster ih =>
    rw [foldlM_cons] at h
    cases hp : addPeer L c t p with
    | error e' =>
      rw [hp] at h
      cases h
      exact ⟨s.states, prefix_rfl, fillTables_cons_error hp⟩
    | ok t₁ =>
      rw [hp] at h
      obtain ⟨states, hstates, hrun⟩ := ih (s := { s with states := t₁.states }) rfl h
      refine ⟨states, ?_, ?_⟩
      · rw [hs]
        exact (states_of_addPeer hp).trans hstates
      · rw [fillTables_cons_ok hp, hrun]

theorem update_frame {roster : Control} (h : update L c roster = .ok c') :
    c' = { c with states := c'.states, peers := c'.peers, macs := c'.macs } := by
  rw [update] at h
  obtain ⟨⟨⟩, -, h⟩ := ok_of_bind h
  obtain ⟨t, -, h⟩ := ok_of_bind h
  cases h
  rfl

/-- The method does what `update` says; after an error there may be new states, that
no table has. -/
theorem updateInPlace_run (L : ZoneLib) (c : PacketCipher) (roster : Control) :
    (∃ c', update L c roster = .ok c' ∧ (updateInPlace L roster).run c = (.ok (), c')) ∨
    ∃ e states, update L c roster = .error e ∧ c.states <+: states ∧
      (updateInPlace L roster).run c = (.error e, { c with states := states }) := by
  rw [update, updateInPlace, run_get_bind]
  cases hcheck : checkRoster L c roster with
  | error e =>
    refine .inr ⟨e, c.states, rfl, prefix_rfl, ?_⟩
    exact run_bind_error rfl _
  | ok =>
    cases hfold : roster.peers.foldlM (addPeer L c) ⟨c.states, ∅, ∅, [], []⟩ with
    | error e =>
      obtain ⟨states, hstates, hloop⟩ := fillTables_error (s := c) rfl hfold
      refine .inr ⟨e, states, rfl, hstates, ?_⟩
      exact run_bind_error hloop _
    | ok t =>
      refine .inl ⟨{ c with states := t.states, peers := t.peers, macs := t.macs }, rfl, ?_⟩
      exact run_bind_ok (fillTables_ok (s := c) rfl hfold) _

end InPlace

/-! ## Rows -/

/-- Where an entry of a roster stands in the two tables, and the state it has. -/
structure RosterRow where
  addr : Addr
  mac : Fixed 6
  index : ℕ

/-- Entry `p` has row `row` after an update of cipher `c`, with objects `states`. -/
structure Filed (L : ZoneLib) (c : PacketCipher) (states : List PeerCipher) (p : Peer)
    (row : RosterRow) : Prop where
  parse : L.parseAddr p.ip = some row.addr
  inside : c.network.contains row.addr = true
  ne_self : row.addr ≠ c.self
  ne_network : row.addr ≠ c.network.addr
  ne_broadcast : row.addr ≠ broadcast c.network
  mac : ∃ identity, decodeHex p.identity 32 = .ok identity ∧ row.mac = deriveMAC L c.zoneID identity
  ne_mac : row.mac ≠ c.mac
  state : ∃ q, states[row.index]? = some q ∧ q.peer.identity = p.identity ∧
    q.peer.key = p.key ∧ q.peer.session = p.session
  /-- An entry that was there keeps its object, with the counter. -/
  kept : ∀ (i : ℕ) (q : PeerCipher), c.peers.lookup row.addr = some i →
    c.states[i]? = some q → q.peer.identity = p.identity → q.peer.key = p.key →
    q.peer.session = p.session → row.index = i ∧ states[row.index]? = some q
  /-- Any other entry has a new one. -/
  fresh : oldPeer c row.addr p = none → c.states.length ≤ row.index ∧
    ∃ q, states[row.index]? = some q ∧ q.peer = p ∧ q.last = 0

/-- The tables of an update, for the entries of a roster. -/
structure Rows (L : ZoneLib) (c : PacketCipher) (states : List PeerCipher)
    (peers : GoMap Addr ℕ) (macs : GoMap (Fixed 6) ℕ) (roster : List Peer)
    (rows : List RosterRow) : Prop where
  filed : List.Forall₂ (Filed L c states) roster rows
  peers : peers.entries.Perm (rows.map fun row => ⟨row.addr, row.index⟩)
  macs : macs.entries.Perm (rows.map fun row => ⟨row.mac, row.index⟩)
  identities : (roster.map Peer.identity).Nodup
  keys : (roster.map Peer.key).Nodup
  indices : (rows.map RosterRow.index).Nodup
  states : c.states <+: states

section Rows

variable {L : ZoneLib} {c c' : PacketCipher} {t t' : RosterTables} {p : Peer}
  {states states' : List PeerCipher} {peers : GoMap Addr ℕ} {macs : GoMap (Fixed 6) ℕ}
  {roster seen : List Peer} {row : RosterRow} {rows : List RosterRow} {j : ℕ}

theorem Filed.mono (h : Filed L c states p row) (hstates : states <+: states') :
    Filed L c states' p row where
  parse := h.parse
  inside := h.inside
  ne_self := h.ne_self
  ne_network := h.ne_network
  ne_broadcast := h.ne_broadcast
  mac := h.mac
  ne_mac := h.ne_mac
  state := by
    obtain ⟨q, hq, hsame⟩ := h.state
    exact ⟨q, getElem?_of_isPrefix hstates hq, hsame⟩
  kept := by
    intro i q hi hq hidentity hkey hsession
    obtain ⟨rfl, hq'⟩ := h.kept i q hi hq hidentity hkey hsession
    exact ⟨rfl, getElem?_of_isPrefix hstates hq'⟩
  fresh := by
    intro hnone
    obtain ⟨hlength, q, hq, hnew⟩ := h.fresh hnone
    exact ⟨hlength, q, getElem?_of_isPrefix hstates hq, hnew⟩

theorem filed_addPeer (hold : c.states <+: t.states) (h : addPeer L c t p = .ok t') :
    ∃ row, Filed L c t'.states p row ∧ row.addr ∉ t.peers ∧ row.mac ∉ t.macs ∧
      t'.peers = t.peers.insert row.addr row.index ∧ t'.macs = t.macs.insert row.mac row.index ∧
      p.identity ∉ t.identities ∧ t'.identities = p.identity :: t.identities ∧
      p.key ∉ t.keys ∧ t'.keys = p.key :: t.keys := by
  obtain ⟨ip, identity, key, session, j, states, hip, hidentity, -, -, hmac, hstate, rfl⟩ :=
    addPeer_ok h
  obtain ⟨hparse, -, ⟨hinside, hself, hnetwork, hbroadcast⟩, hnew, hfirst, hunused⟩ :=
    peerAddress_ok hip
  obtain ⟨hmacnew, hmacself⟩ := checkMAC_ok hmac
  refine ⟨⟨ip, _, j⟩, ⟨hparse, hinside, hself, hnetwork, hbroadcast, ⟨identity, hidentity, rfl⟩,
    hmacself, ?_, ?_, ?_⟩, hnew, hmacnew, rfl, rfl, hfirst, rfl, hunused, rfl⟩
  · obtain ⟨hsome, rfl⟩ | ⟨-, rfl, q, rfl, rfl, -⟩ := peerState_cases hstate
    · obtain ⟨-, q, hq, hsame⟩ := oldPeer_eq_some_iff.mp hsome
      exact ⟨q, getElem?_of_isPrefix hold hq, hsame⟩
    · exact ⟨q, getElem?_concat_length, rfl, rfl, rfl⟩
  · intro i q hi hq hidentity hkey hsession
    have hsome : oldPeer c ip p = some i :=
      oldPeer_eq_some_iff.mpr ⟨hi, q, hq, hidentity, hkey, hsession⟩
    obtain ⟨hsome', rfl⟩ | ⟨hnone, -⟩ := peerState_cases hstate
    · cases hsome.symm.trans hsome'
      exact ⟨rfl, getElem?_of_isPrefix hold hq⟩
    · cases hsome.symm.trans hnone
  · intro hnone
    obtain ⟨hsome, -⟩ | ⟨-, rfl, q, rfl, hpeer, hlast⟩ := peerState_cases hstate
    · cases hnone.symm.trans hsome
    · exact ⟨hold.length_le, q, getElem?_concat_length, hpeer, hlast⟩

/-- The tables after some of the entries, with the sets that the loop keeps. -/
structure Loop (L : ZoneLib) (c : PacketCipher) (t : RosterTables) (seen : List Peer)
    (rows : List RosterRow) : Prop where
  rows : Rows L c t.states t.peers t.macs seen rows
  identities : t.identities.Perm (seen.map Peer.identity)
  keys : t.keys.Perm (seen.map Peer.key)

theorem loop_start (L : ZoneLib) (c : PacketCipher) : Loop L c ⟨c.states, ∅, ∅, [], []⟩ [] [] where
  rows := ⟨.nil, .nil, .nil, .nil, .nil, .nil, prefix_rfl⟩
  identities := .nil
  keys := .nil

theorem index_notMem {q : PeerCipher} (h : List.Forall₂ (Filed L c states) seen rows)
    (hq : states[j]? = some q) (hkey : q.peer.key ∉ seen.map Peer.key) :
    j ∉ rows.map RosterRow.index := by
  intro hj
  obtain ⟨row, hrow, rfl⟩ := mem_map.mp hj
  obtain ⟨p, hp, hfiled⟩ := exists_of_mem_right h hrow
  obtain ⟨q', hq', -, hqkey, -⟩ := hfiled.state
  cases hq.symm.trans hq'
  exact hkey (mem_map.mpr ⟨p, hp, hqkey.symm⟩)

theorem nodup_concat {α : Type} {l : List α} {a : α} (hl : l.Nodup) (ha : a ∉ l) :
    (l ++ [a]).Nodup := (perm_append_singleton a l).nodup_iff.mpr (hl.cons ha)

theorem Loop.add (h : Loop L c t seen rows) (hp : addPeer L c t p = .ok t') :
    ∃ row, Loop L c t' (seen ++ [p]) (rows ++ [row]) := by
  obtain ⟨hfiled, hpeers, hmacs, hidentities, hkeys, hindices, hstates⟩ := h.rows
  obtain ⟨row, hrow, haddr, hmac, hpeers', hmacs', hfirst, hidentities', hunused, hkeys'⟩ :=
    filed_addPeer hstates hp
  have hgrown := states_of_addPeer hp
  have hfiled' : List.Forall₂ (Filed L c t'.states) seen rows :=
    hfiled.imp fun _ _ hf => hf.mono hgrown
  rw [h.identities.mem_iff] at hfirst
  rw [h.keys.mem_iff] at hunused
  refine ⟨row, ⟨?_, ?_, ?_, ?_, ?_, ?_, ?_⟩, ?_, ?_⟩
  · exact rel_append hfiled' (.cons hrow .nil)
  · rw [hpeers', entries_insert_of_notMem haddr, map_append]
    exact (hpeers.cons _).trans (perm_append_singleton _ _).symm
  · rw [hmacs', entries_insert_of_notMem hmac, map_append]
    exact (hmacs.cons _).trans (perm_append_singleton _ _).symm
  · rw [map_append]
    exact nodup_concat hidentities hfirst
  · rw [map_append]
    exact nodup_concat hkeys hunused
  · obtain ⟨q, hq, -, hqkey, -⟩ := hrow.state
    rw [map_append]
    exact nodup_concat hindices (index_notMem hfiled' hq (hqkey ▸ hunused))
  · exact hstates.trans hgrown
  · rw [hidentities', map_append]
    exact (h.identities.cons _).trans (perm_append_singleton _ _).symm
  · rw [hkeys', map_append]
    exact (h.keys.cons _).trans (perm_append_singleton _ _).symm

theorem Loop.addAll (h : Loop L c t seen rows) (hfold : roster.foldlM (addPeer L c) t = .ok t') :
    ∃ rows', Loop L c t' (seen ++ roster) rows' := by
  induction roster generalizing t seen rows with
  | nil =>
    cases hfold
    exact ⟨rows, by rwa [append_nil]⟩
  | cons p roster ih =>
    obtain ⟨t₁, ht₁, hfold⟩ := ok_of_bind hfold
    obtain ⟨row, hrow⟩ := h.add ht₁
    have hrest := ih hrow hfold
    rwa [append_assoc] at hrest

theorem rows_of_update {roster : Control} (h : update L c roster = .ok c') :
    ∃ rows, Rows L c c'.states c'.peers c'.macs roster.peers rows := by
  rw [update] at h
  obtain ⟨⟨⟩, -, h⟩ := ok_of_bind h
  obtain ⟨t, hfold, h⟩ := ok_of_bind h
  cases h
  obtain ⟨rows, hrows⟩ := (loop_start L c).addAll hfold
  exact ⟨rows, hrows.rows⟩

theorem Rows.row_of_lookup {ip : Addr}
    (h : Rows L c states peers macs roster rows) (hip : peers.lookup ip = some j) :
    ∃ p ∈ roster, ∃ row, Filed L c states p row ∧ row.addr = ip ∧ row.index = j := by
  have hmem := h.peers.mem_iff.mp (mem_lookup_iff.mp hip)
  obtain ⟨row, hrow, heq⟩ := mem_map.mp hmem
  cases heq
  obtain ⟨p, hp, hfiled⟩ := exists_of_mem_right h.filed hrow
  exact ⟨p, hp, row, hfiled, rfl, rfl⟩

theorem nodup_of_entries {K : Type} [DecidableEq K] {m : GoMap K ℕ} {f : RosterRow → K}
    (h : m.entries.Perm (rows.map fun row => ⟨f row, row.index⟩)) : (rows.map f).Nodup := by
  have hkeys : m.keys.Perm (rows.map f) := by
    have := h.map Sigma.fst
    simpa [AList.keys, List.keys, Function.comp_def] using this
  exact hkeys.nodup_iff.mp m.keys_nodup

end Rows

/-- An update that fails leaves the two tables and every state as they are.  One that
succeeds leaves one row for each entry of the roster: both tables consist of the rows,
and no address, MAC address, state, identity or key occurs twice. -/
theorem update_atomic (L : ZoneLib) (c : PacketCipher) (roster : Control) :
    (∀ e c', (updateInPlace L roster).run c = (.error e, c') →
      c'.peers = c.peers ∧ c'.macs = c.macs ∧
        ∀ (j : ℕ) (q : PeerCipher), c.states[j]? = some q → c'.states[j]? = some q) ∧
    ∀ c', (updateInPlace L roster).run c = (.ok (), c') →
      ∃ rows, Rows L c c'.states c'.peers c'.macs roster.peers rows ∧
        (rows.map RosterRow.addr).Nodup ∧ (rows.map RosterRow.mac).Nodup := by
  obtain ⟨c₁, hupdate, hrun⟩ | ⟨e, states, hupdate, hstates, hrun⟩ := updateInPlace_run L c roster
  · rw [hrun]
    refine ⟨nofun, ?_⟩
    rintro c' ⟨⟩
    obtain ⟨rows, hrows⟩ := rows_of_update hupdate
    exact ⟨rows, hrows, nodup_of_entries hrows.peers, nodup_of_entries hrows.macs⟩
  · rw [hrun]
    refine ⟨?_, nofun⟩
    rintro e' c' ⟨⟩
    exact ⟨rfl, rfl, fun j q hq => getElem?_of_isPrefix hstates hq⟩

/-! ## Rosters -/

def plainPeer (n identity key session : UInt8) : Peer where
  identity := hexEncode (List.replicate 32 identity)
  key := hexEncode (List.replicate 32 key)
  session := hexEncode (List.replicate 16 session)
  name := []
  ip := [10, 0, 0, n]

def plainRoster (n : UInt8) (peers : List Peer) : Control where
  zone := ⟨ascii "zone", [10, 0, 0, 0, 24], 1500⟩
  self := [10, 0, 0, n]
  peers := peers

/-- A roster with an old entry and a new one, and one that repeats a key. -/
theorem update_plainRoster : ∃ A ∈ plainMember 1 1 1 2 2 2,
      (∃ c', (updateInPlace plainLib (plainRoster 1 [plainPeer 3 3 3 3, plainPeer 2 2 2 2])).run
          A.cipher = (.ok (), c') ∧ c'.peers.keys = [.v4 0x0A000002, .v4 0x0A000003] ∧
        c'.peers.lookup (.v4 0x0A000002) = some 0 ∧
        ∃ rows, Rows plainLib A.cipher c'.states c'.peers c'.macs
          [plainPeer 3 3 3 3, plainPeer 2 2 2 2] rows) ∧
      ∃ e c', (updateInPlace plainLib (plainRoster 1 [plainPeer 3 3 3 3, plainPeer 4 4 3 4])).run
          A.cipher = (.error e, c') ∧
        c'.states.length = 2 ∧ c'.peers = A.cipher.peers ∧ c'.macs = A.cipher.macs := by
  obtain ⟨A, hA, hok, hkeys, hlookup, herror, hlength⟩ : ∃ A ∈ plainMember 1 1 1 2 2 2,
        ((updateInPlace plainLib (plainRoster 1 [plainPeer 3 3 3 3, plainPeer 2 2 2 2])).run
          A.cipher).1 = .ok () ∧
        ((updateInPlace plainLib (plainRoster 1 [plainPeer 3 3 3 3, plainPeer 2 2 2 2])).run
          A.cipher).2.peers.keys = [.v4 0x0A000002, .v4 0x0A000003] ∧
        ((updateInPlace plainLib (plainRoster 1 [plainPeer 3 3 3 3, plainPeer 2 2 2 2])).run
          A.cipher).2.peers.lookup (.v4 0x0A000002) = some 0 ∧
        ((updateInPlace plainLib (plainRoster 1 [plainPeer 3 3 3 3, plainPeer 4 4 3 4])).run
          A.cipher).1 = .error errPeerAddress ∧
        ((updateInPlace plainLib (plainRoster 1 [plainPeer 3 3 3 3, plainPeer 4 4 3 4])).run
          A.cipher).2.states.length = 2 := by
    decide +kernel
  obtain ⟨rows, hrows, -⟩ := (update_atomic plainLib A.cipher _).2 _ (Prod.ext hok rfl)
  obtain ⟨hpeers, hmacs, -⟩ := (update_atomic plainLib A.cipher _).1 _ _ (Prod.ext herror rfl)
  exact ⟨A, hA, ⟨_, Prod.ext hok rfl, hkeys, hlookup, rows, hrows⟩, _, _, Prod.ext herror rfl,
    hlength, hpeers, hmacs⟩

end LinkSocks.Zone
