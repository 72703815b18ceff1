import LinkSocks.Zone.Connection

/-!
# Replays across rosters

The counter against replays belongs to the state of a peer, and a roster keeps the
state only of an entry that has the same address, identity, key and session as in the
roster before.  An entry that was missing in between, or that has another address or
identity, gets a new state that accepts every number again, under the same keys if key
and session are the same.

If no roster makes a new state for a key and a session from which something was
accepted, every number of a key and a session is accepted once.
-/

namespace LinkSocks.Zone

open Go PacketCipher List

namespace Connection

/-- No entry of the roster gets a new state although a message was accepted from its
key and session. -/
def NoRenewal (L : ZoneLib) (s : Connection) (roster : Control) : Prop :=
  ∀ p ∈ roster.peers, ∀ ip ∈ L.parseAddr p.ip, oldPeer s.cipher ip p = none →
    ∀ r ∈ s.accepted, ¬ (r.key = p.key ∧ decodeHex p.session 16 = .ok r.session.bytes)

instance (L : ZoneLib) (s : Connection) (roster : Control) : Decidable (s.NoRenewal L roster) := by
  unfold Connection.NoRenewal
  infer_instance

def KeepsStates (L : ZoneLib) (s : Connection) : ConnAction → Prop
  | .update roster => s.NoRenewal L roster
  | _ => True

instance (L : ZoneLib) (s : Connection) : ∀ action, Decidable (s.KeepsStates L action)
  | .update roster => inferInstanceAs (Decidable (s.NoRenewal L roster))
  | .sealFrame .. | .sealStreamData .. | .findPeer .. | .sealDatagram _ | .receive _ =>
    isTrue trivial

section Steps

variable {L : ZoneLib} {s s' : Connection} {action : ConnAction} {c' : PacketCipher}

/-- The counters of the current states are up to what was accepted. -/
structure Kept (L : ZoneLib) (s : Connection) : Prop where
  sound : s.cipher.Sound L
  nodup : s.accepted.Nodup
  last : ∀ (ip : Addr) (j : ℕ) (q : PeerCipher), s.cipher.peers.lookup ip = some j →
    s.cipher.states[j]? = some q → ∀ r ∈ s.accepted, r.key = q.peer.key →
      r.session = q.session → r.sequence ≤ q.last

theorem Kept.update (h : s.Kept L) {roster : Control} (hguard : s.NoRenewal L roster)
    (hupdate : Zone.update L s.cipher roster = .ok c') : Kept L { s with cipher := c' } := by
  obtain ⟨hsound, -, -⟩ := update_ok h.sound hupdate
  obtain ⟨rows, hrows⟩ := rows_of_update hupdate
  refine ⟨hsound, h.nodup, ?_⟩
  intro ip j q hip hq r hr hkey hsession
  obtain ⟨p, hp, row, hfiled, rfl, rfl⟩ := hrows.row_of_lookup hip
  cases hold : oldPeer s.cipher row.addr p with
  | some i =>
    obtain ⟨hi, q', hq', hsame⟩ := oldPeer_eq_some_iff.mp hold
    obtain ⟨rfl, hstate⟩ := hfiled.kept i q' hi hq' hsame.1 hsame.2.1 hsame.2.2
    cases hq.symm.trans hstate
    exact h.last row.addr row.index q hi hq' r hr hkey hsession
  | none =>
    obtain ⟨-, q', hq', rfl, -⟩ := hfiled.fresh hold
    cases hq.symm.trans hq'
    obtain ⟨q'', hq'', hderived⟩ := hsound.tables.state row.addr row.index hip
    cases hq.symm.trans hq''
    exact absurd ⟨hkey, hsession ▸ hderived.session⟩
      (hguard q.peer hp row.addr hfiled.parse hold r hr)

theorem Kept.receive (h : s.Kept L) (op : OpenOp) : (s.receive L op).Kept L := by
  have hstep : s.step L (.receive op) = some (s.receive L op) := rfl
  have hsound : (s.receive L op).cipher.Sound L := sound_step h.sound hstep
  cases hresult : (s.cipher.receive L op).2 with
  | error e =>
    have hsame : s.receive L op = s := by
      rw [Connection.receive, hresult, receive_error hresult]
    rw [hsame]
    exact h
  | ok r =>
    have hreceive : s.cipher.receive L op = ((s.cipher.receive L op).1, .ok r) :=
      Prod.ext rfl hresult
    obtain ⟨q, plain, haccepts⟩ := accepts_of_receive hreceive
    obtain ⟨-, -, ip, hip⟩ := current_of_receive hreceive
    have hcipher : (s.cipher.receive L op).1 = s.cipher.setLast r.peer q r.sequence :=
      haccepts.cipher
    have haccepted : (s.receive L op).accepted =
        s.accepted ++ [⟨q.peer.key, q.session, r.sequence⟩] := by
      rw [Connection.receive, hresult]
      simp only [acceptance, haccepts.state, Option.toList_some, map_cons, map_nil]
    have hbelow : ∀ r' ∈ s.accepted, r'.key = q.peer.key → r'.session = q.session →
        r'.sequence < r.sequence := by
      intro r' hr' hkey hsession
      exact UInt64.lt_of_le_of_lt (h.last ip r.peer q hip haccepts.state r' hr' hkey hsession)
        haccepts.last
    refine ⟨hsound, ?_, ?_⟩
    · rw [haccepted]
      refine nodup_concat h.nodup fun hmem => ?_
      exact UInt64.lt_irrefl _ (hbelow _ hmem rfl rfl)
    · intro ip' j q' hip' hq' r' hr' hkey hsession
      rw [haccepted] at hr'
      change (s.cipher.receive L op).1.peers.lookup ip' = some j at hip'
      change (s.cipher.receive L op).1.states[j]? = some q' at hq'
      rw [hcipher] at hip' hq'
      obtain ⟨rfl, rfl⟩ | ⟨hne, hq'⟩ := getElem?_set_cases hq'
      · obtain hr' | hr' := mem_append.mp hr'
        · exact UInt64.le_of_lt (hbelow r' hr' hkey hsession)
        · cases mem_singleton.mp hr'
          exact UInt64.le_refl _
      · obtain hr' | hr' := mem_append.mp hr'
        · exact h.last ip' j q' hip' hq' r' hr' hkey hsession
        · -- two current states never have the same key
          cases mem_singleton.mp hr'
          exact absurd (h.sound.tables.key ip' ip j r.peer q' q hip' hip hq' haccepts.state
            hkey.symm) hne

theorem Kept.step (h : s.Kept L) (hguard : s.KeepsStates L action)
    (hs : s.step L action = some s') : s'.Kept L := by
  obtain ⟨roster, c', rfl, hupdate, rfl⟩ | ⟨pending, rfl⟩ | ⟨op, -, rfl⟩ |
    ⟨pending, r, hr, rfl⟩ := step_cases hs
  · exact h.update hguard hupdate
  · exact ⟨h.sound, h.nodup, h.last⟩
  · exact h.receive op
  · refine ⟨sound_step h.sound hs, h.nodup, ?_⟩
    change ∀ (ip : Addr) (j : ℕ) (q : PeerCipher), r.cipher.peers.lookup ip = some j →
      r.cipher.states[j]? = some q → ∀ a ∈ s.accepted, a.key = q.peer.key →
        a.session = q.session → a.sequence ≤ q.last
    rw [(sealing_spec hr).1.cipher]
    exact h.last

end Steps

/-- In every run in which no roster makes a new state for a key and a session from
which something was accepted, each number of a key and a session is accepted at most
once. -/
theorem accepted_once {L : ZoneLib} (A : Member L) (actions : List ConnAction)
    (hguard : Guarded (step L) (KeepsStates L) (start A.cipher) actions) (t : Connection)
    (hrun : run (step L) (start A.cipher) actions = some t) : t.accepted.Nodup := by
  have hstart : (start A.cipher).Kept L := ⟨A.sound, .nil, nofun⟩
  have h : t.Kept L := run_invariant (fun _ _ _ h => h.step) hstart hguard hrun
  exact h.nodup

end Connection

/-! ## Runs -/

/-- What member `10.0.0.1` sends, with key 1 and session 1. -/
def replayed : List Bytes :=
  ((plainMember 1 1 1 2 2 2).map fun A => sentBy A [streamOp, datagramOp]).getD []

/-- The peer leaves and comes back, with the same key and session. -/
def leaveActions : List ConnAction :=
  [.receive (.datagram (replayed.getD 1 [])), .update (plainRoster 2 []),
    .update (plainRoster 2 [plainPeer 1 1 1 1]), .receive (.datagram (replayed.getD 1 []))]

/-- The peer moves to another address, with the same key and session. -/
def moveActions : List ConnAction :=
  [.receive (.streamData 0 (replayed.getD 0 [])), .update (plainRoster 2 [plainPeer 3 1 1 1]),
    .receive (.streamData 1 (replayed.getD 0 []))]

/-- In both cases a message is accepted for the second time. -/
theorem renewed_replayed : ∃ A ∈ plainMember 2 2 2 1 1 1,
      (∃ t ∈ run (Connection.step plainLib) (.start A.cipher) leaveActions,
        ¬ t.accepted.Nodup ∧ t.accepted.length = 2) ∧
      ∃ t ∈ run (Connection.step plainLib) (.start A.cipher) moveActions,
        ¬ t.accepted.Nodup ∧ t.accepted.length = 2 := by
  decide +kernel

/-- The peer stays, another joins, the first moves with a new session; messages are
delivered twice. -/
def stayActions : List ConnAction :=
  [.receive (.streamData 0 (replayed.getD 0 [])),
    .update (plainRoster 2 [plainPeer 3 3 3 3, plainPeer 1 1 1 1]),
    .receive (.streamData 0 (replayed.getD 0 [])), .receive (.datagram (replayed.getD 1 [])),
    .update (plainRoster 2 [plainPeer 4 1 1 4]), .receive (.datagram (replayed.getD 1 []))]

theorem stayActions_once : ∃ A ∈ plainMember 2 2 2 1 1 1, ∃ t,
      run (Connection.step plainLib) (.start A.cipher) stayActions = some t ∧
      t.accepted.length = 2 ∧ t.accepted.Nodup := by
  obtain ⟨A, hA, hguard, t, hrun, hlength⟩ : ∃ A ∈ plainMember 2 2 2 1 1 1,
        Guarded (Connection.step plainLib) (Connection.KeepsStates plainLib) (.start A.cipher)
          stayActions ∧ ∃ t ∈ run (Connection.step plainLib) (.start A.cipher) stayActions,
          t.accepted.length = 2 := by
    decide +kernel
  exact ⟨A, hA, t, hrun, hlength, Connection.accepted_once A _ hguard t hrun⟩

end LinkSocks.Zone
