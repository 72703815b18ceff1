import LinkSocks.Zone.Update

/-!
# One connection of a member

From the first roster to the end of the connection the cipher is shared: the reader
takes rosters and messages from the coordinator, and any number of goroutines seal
frames, stream data and datagrams.  Every action below is one section under the lock
of the cipher.  `sealDatagram` has two, one to find the peer and one to seal, and
anything may happen in between.

Numbers are taken under the lock, so they increase from one `Seal` to the next,
whatever the rosters do.
-/

namespace LinkSocks.Zone

open Go PacketCipher List Option

/-- A call of `sealDatagram` that has found its peer. -/
structure PendingDatagram where
  peer : ℕ
  dst : Addr
  srcPort : UInt16
  dstPort : UInt16
  payload : Bytes

/-- Exchange key and session of the peer from which a message was accepted, and the
number of the message. -/
structure Acceptance where
  key : GoString
  session : Fixed 16
  sequence : UInt64
  deriving DecidableEq

structure Connection where
  cipher : PacketCipher
  pending : List PendingDatagram
  /-- History: the `Seal`s in the order of the lock, and the messages accepted. -/
  sealed : List SealCall
  accepted : List Acceptance

inductive ConnAction where
  | update (roster : Control)
  | sealFrame (frame : Bytes) (order : List ℕ)
  | sealStreamData (j : ℕ) (id : UInt32) (payload : Bytes)
  /-- The first section of `sealDatagram`, and the second one. -/
  | findPeer (dst : Addr) (srcPort dstPort : UInt16) (payload : Bytes)
  | sealDatagram (n : ℕ)
  | receive (op : OpenOp)

namespace Connection

/-- The second section of `sealDatagram`. -/
def sealPending (c : PacketCipher) (d : PendingDatagram) : SealRun :=
  c.sealOne d.peer (some d.dst) (datagramHeaderOf c.self d.dst d.srcPort d.dstPort) 13 d.payload

/-- What a sealing action does with the cipher. -/
def sealing (L : ZoneLib) (s : Connection) : ConnAction → Option SealRun
  | .sealFrame frame order =>
    if (SealOp.frame frame order).Possible s.cipher then some (s.cipher.sealFrame frame order)
    else none
  | .sealStreamData j id payload => some (s.cipher.sealStreamData L j id payload)
  | .sealDatagram n => (s.pending[n]?).map (sealPending s.cipher)
  | _ => none

/-- The calls of `sealDatagram` that are left. -/
def remaining (s : Connection) : ConnAction → List PendingDatagram
  | .sealDatagram n => s.pending.eraseIdx n
  | _ => s.pending

def afterSeal (s : Connection) (pending : List PendingDatagram) (r : SealRun) : Connection :=
  { s with cipher := r.cipher, pending := pending, sealed := s.sealed ++ r.calls }

/-- What the history says about a message that was accepted. -/
def acceptance (c : PacketCipher) (r : Received) : List Acceptance :=
  (c.states[r.peer]?).toList.map fun q => ⟨q.peer.key, q.session, r.sequence⟩

def receive (L : ZoneLib) (s : Connection) (op : OpenOp) : Connection :=
  { s with
    cipher := (s.cipher.receive L op).1
    accepted :=
      match (s.cipher.receive L op).2 with
      | .ok r => s.accepted ++ acceptance s.cipher r
      | .error _ => s.accepted }

def step (L : ZoneLib) (s : Connection) : ConnAction → Option Connection
  | .update roster =>
    match Zone.update L s.cipher roster with
    | .ok c => some { s with cipher := c }
    | .error _ => some s
  | .findPeer dst srcPort dstPort payload =>
    match s.cipher.peers.lookup dst with
    | none => some s
    | some j => some { s with pending := s.pending ++ [⟨j, dst, srcPort, dstPort, payload⟩] }
  | .receive op => some (s.receive L op)
  | action => (s.sealing L action).map (s.afterSeal (s.remaining action))

/-- A connection whose first roster was accepted. -/
def start (c : PacketCipher) : Connection := ⟨c, [], [], []⟩

end Connection

/-! ## Sealing -/

/-- A `Seal` as cipher `c` makes it: header and nonce end with the number, and the
nonce starts with the session. -/
structure SealCall.Made (c : PacketCipher) (call : SealCall) : Prop where
  header : ∃ m : ZoneMessage, call.header = m.front ++ putUint64 call.sequence
  nonce : call.nonce = c.session.bytes ++ putUint64 call.sequence

section Sealing

variable {L : ZoneLib} {c : PacketCipher} {s s' : Connection} {call : SealCall} {r : SealRun}
  {action : ConnAction} {m : ZoneMessage}

theorem header_of_sealEach {header payload : Bytes} {offset : ℕ}
    {targets : List (ℕ × PeerCipher)} (hheader : header = m.front ++ List.replicate 8 0)
    (hoffset : m.front.length = offset)
    (hcall : call ∈ (c.sealEach header offset payload targets).calls) :
    call.header = m.front ++ putUint64 call.sequence ∧
      call.nonce = c.session.bytes ++ putUint64 call.sequence := by
  obtain ⟨target, -, heq⟩ := (counts_sealEach c targets).2 call hcall
  rw [hheader, writeUint64_zeros hoffset] at heq
  rw [heq]
  exact ⟨rfl, packetNonce_append c.session hoffset⟩

theorem header_of_sealOne {header payload : Bytes} {offset j : ℕ}
    {addr : Option Addr} (hheader : header = m.front ++ List.replicate 8 0)
    (hoffset : m.front.length = offset)
    (hcall : call ∈ (c.sealOne j addr header offset payload).calls) :
    call.header = m.front ++ putUint64 call.sequence ∧
      call.nonce = c.session.bytes ++ putUint64 call.sequence := by
  rw [sealOne] at hcall
  split at hcall
  · cases hcall
  · exact header_of_sealEach hheader hoffset hcall

theorem made_of_header (h : call.header = m.front ++ putUint64 call.sequence ∧
      call.nonce = c.session.bytes ++ putUint64 call.sequence) : call.Made c := ⟨⟨m, h.1⟩, h.2⟩

/-- Every sealing action moves the counter on, and its `Seal`s are well made. -/
theorem Connection.sealing_spec (h : s.sealing L action = some r) :
    r.Counts s.cipher ∧ ∀ call ∈ r.calls, call.Made s.cipher := by
  cases action with
  | sealFrame frame order =>
    obtain ⟨-, rfl⟩ := of_ite_some h
    refine ⟨counts_sealMessage L s.cipher (.frame frame order), ?_⟩
    intro call hcall
    rw [sealFrame] at hcall
    split_ifs at hcall
    · cases hcall
    · cases hcall
    · cases hcall
    · exact made_of_header
        (header_of_sealEach (m := .frame _ _ frame) rfl (by simp [ZoneMessage.front]) hcall)
    · split at hcall
      · cases hcall
      · exact made_of_header
          (header_of_sealEach (m := .frame _ _ frame) rfl (by simp [ZoneMessage.front]) hcall)
  | sealStreamData j id payload =>
    cases h
    refine ⟨counts_sealMessage L s.cipher (.streamData j id payload), ?_⟩
    intro call hcall
    rw [sealStreamData] at hcall
    split at hcall
    · cases hcall
    · exact made_of_header (header_of_sealOne (m := .streamData id payload) rfl rfl hcall)
  | sealDatagram n =>
    obtain ⟨d, -, rfl⟩ := map_eq_some_iff.mp h
    refine ⟨counts_sealOne s.cipher d.peer _, ?_⟩
    intro call hcall
    exact made_of_header (header_of_sealOne
      (m := .datagram s.cipher.self d.dst d.srcPort d.dstPort d.payload)
      rfl (by simp [ZoneMessage.front]) hcall)
  | update | findPeer | receive => cases h

/-- With a well-formed cipher every `Seal` is for a current peer. -/
theorem Connection.carries_of_sealing (hc : s.cipher.Sound L)
    (h : s.sealing L action = some r) (hcall : call ∈ r.calls) : ∃ m, call.Carries s.cipher m := by
  cases action with
  | sealFrame frame order =>
    obtain ⟨hpossible, rfl⟩ := of_ite_some h
    exact ⟨_, carries_of_sealMessage hc hpossible hcall⟩
  | sealStreamData j id payload =>
    cases h
    have hpossible : (SealOp.streamData j id payload).Possible s.cipher := trivial
    exact ⟨_, carries_of_sealMessage hc hpossible hcall⟩
  | sealDatagram n =>
    obtain ⟨d, -, rfl⟩ := map_eq_some_iff.mp h
    by_cases hcurrent : s.cipher.peers.lookup d.dst = some d.peer
    · have hmem : d.dst ∈ s.cipher.peers := AList.lookup_isSome.mp (by rw [hcurrent]; rfl)
      exact ⟨_, carries_of_sealOne
        (m := .datagram s.cipher.self d.dst d.srcPort d.dstPort d.payload)
        ⟨hc.self, hc.tables.is4 d.dst hmem⟩ rfl (by simp [ZoneMessage.front]) hcall⟩
    · simp [sealPending, sealOne, hcurrent, refused] at hcall
  | update | findPeer | receive => cases h

theorem Connection.step_cases (h : s.step L action = some s') :
    (∃ roster c', action = .update roster ∧ Zone.update L s.cipher roster = .ok c' ∧
      s' = { s with cipher := c' }) ∨ (∃ pending, s' = { s with pending := pending }) ∨
    (∃ op, action = .receive op ∧ s' = s.receive L op) ∨
    ∃ pending r, s.sealing L action = some r ∧ s' = s.afterSeal pending r := by
  have hseal : (s.sealing L action).map (s.afterSeal (s.remaining action)) = some s' →
      ∃ pending r, s.sealing L action = some r ∧ s' = s.afterSeal pending r := by
    intro hmap
    obtain ⟨r, hr, rfl⟩ := map_eq_some_iff.mp hmap
    exact ⟨s.remaining action, r, hr, rfl⟩
  revert h
  fun_cases step L s action <;> intro h
  case case6 => exact .inr (.inr (.inr (hseal h)))
  all_goals cases h
  case case1 roster c' hupdate => exact .inl ⟨roster, c', rfl, hupdate, rfl⟩
  case case2 | case3 => exact .inr (.inl ⟨s.pending, rfl⟩)
  case case4 => exact .inr (.inl ⟨_, rfl⟩)
  case case5 op => exact .inr (.inr (.inl ⟨op, rfl, rfl⟩))

theorem Connection.self_step (h : s.step L action = some s') : s'.cipher.self = s.cipher.self := by
  obtain ⟨roster, c', -, hupdate, rfl⟩ | ⟨pending, rfl⟩ | ⟨op, -, rfl⟩ |
    ⟨pending, r, hr, rfl⟩ := step_cases h
  · rw [update_frame hupdate]
  · rfl
  · change (s.cipher.receive L op).1.self = s.cipher.self
    obtain hsame | ⟨j, q, seq, -, hset⟩ := receive_cases L s.cipher op
    · rw [hsame]
    · rw [hset]
      rfl
  · change r.cipher.self = s.cipher.self
    rw [(sealing_spec hr).1.cipher]

theorem Connection.sound_step (h : s.cipher.Sound L) (hs : s.step L action = some s') :
    s'.cipher.Sound L := by
  obtain ⟨roster, c', -, hupdate, rfl⟩ | ⟨pending, rfl⟩ | ⟨op, -, rfl⟩ |
    ⟨pending, r, hr, rfl⟩ := step_cases hs
  · exact (update_ok h hupdate).1
  · exact h
  · change (s.cipher.receive L op).1.Sound L
    obtain hsame | ⟨j, q, seq, hq, hset⟩ := receive_cases L s.cipher op
    · rw [hsame]
      exact h
    · rw [hset]
      exact h.of_follows (follows_setLast hq seq)
  · exact h.of_follows (follows_of_counts (sealing_spec hr).1)

end Sealing

/-! ## Numbers -/

namespace Connection

section Numbers

variable {L : ZoneLib} {c c₀ : PacketCipher} {s s' : Connection} {action : ConnAction}

/-- The `Seal`s since the counter stood where cipher `c₀` has it. -/
structure Numbered (c₀ : PacketCipher) (s : Connection) : Prop where
  session : s.cipher.session = c₀.session
  next : c₀.next ≤ s.cipher.next
  above : ∀ call ∈ s.sealed, c₀.next < call.sequence ∧ call.sequence ≤ s.cipher.next
  sorted : s.sealed.Pairwise fun call call' => call.sequence < call'.sequence
  bytes : ∀ call ∈ s.sealed, ∃ front, call.header = front ++ putUint64 call.sequence ∧
    call.nonce = c₀.session.bytes ++ putUint64 call.sequence

theorem numbered_start (c : PacketCipher) : Numbered c (start c) :=
  ⟨rfl, UInt64.le_refl _, nofun, .nil, nofun⟩

theorem Numbered.of_eq (h : s.Numbered c₀) (hsession : s'.cipher.session = s.cipher.session)
    (hnext : s'.cipher.next = s.cipher.next) (hsealed : s'.sealed = s.sealed) : s'.Numbered c₀ where
  session := hsession.trans h.session
  next := hnext ▸ h.next
  above := by
    rw [hsealed, hnext]
    exact h.above
  sorted := hsealed ▸ h.sorted
  bytes := hsealed ▸ h.bytes

theorem Numbered.afterSeal (h : s.Numbered c₀) {r : SealRun} (hcounts : r.Counts s.cipher)
    (hmade : ∀ call ∈ r.calls, call.Made s.cipher) (pending : List PendingDatagram) :
    (s.afterSeal pending r).Numbered c₀ where
  session := by
    change r.cipher.session = _
    rw [hcounts.cipher]
    exact h.session
  next := UInt64.le_trans h.next hcounts.le
  above := by
    intro call hcall
    obtain hcall | hcall := mem_append.mp hcall
    · obtain ⟨hlow, hhigh⟩ := h.above call hcall
      exact ⟨hlow, UInt64.le_trans hhigh hcounts.le⟩
    · obtain ⟨hlow, hhigh⟩ := hcounts.above call hcall
      exact ⟨UInt64.lt_of_le_of_lt h.next hlow, hhigh⟩
  sorted := by
    refine pairwise_append.mpr ⟨h.sorted, hcounts.sorted, ?_⟩
    intro call hcall call' hcall'
    exact UInt64.lt_of_le_of_lt (h.above call hcall).2 (hcounts.above call' hcall').1
  bytes := by
    intro call hcall
    obtain hcall | hcall := mem_append.mp hcall
    · exact h.bytes call hcall
    · obtain ⟨⟨m, hheader⟩, hnonce⟩ := hmade call hcall
      exact ⟨m.front, hheader, h.session ▸ hnonce⟩

theorem Numbered.step (h : s.Numbered c₀) (hs : s.step L action = some s') : s'.Numbered c₀ := by
  obtain ⟨roster, c', -, hupdate, rfl⟩ | ⟨pending, rfl⟩ | ⟨op, -, rfl⟩ |
    ⟨pending, r, hr, rfl⟩ := step_cases hs
  · have hframe := update_frame hupdate
    refine h.of_eq ?_ ?_ rfl
    · rw [hframe]
    · rw [hframe]
  · exact h.of_eq rfl rfl rfl
  · obtain hsame | ⟨j, q, seq, -, hset⟩ := receive_cases L s.cipher op
    · have hsession := congrArg PacketCipher.session hsame
      have hnext := congrArg PacketCipher.next hsame
      exact h.of_eq hsession hnext rfl
    · have hsession := congrArg PacketCipher.session hset
      have hnext := congrArg PacketCipher.next hset
      exact h.of_eq hsession hnext rfl
  · obtain ⟨hcounts, hmade⟩ := sealing_spec hr
    exact h.afterSeal hcounts hmade pending

theorem sealed_of_exhausted (h : s.cipher.next.toNat = 2 ^ 64 - 1)
    (hs : s.step L action = some s') : s'.sealed = s.sealed := by
  obtain ⟨roster, c', -, -, rfl⟩ | ⟨pending, rfl⟩ | ⟨op, -, rfl⟩ |
    ⟨pending, r, hr, rfl⟩ := step_cases hs
  · rfl
  · rfl
  · rfl
  · have hnone : r.calls = [] := by
      refine eq_nil_iff_forall_not_mem.mpr fun call hcall => ?_
      have hlt := ((sealing_spec hr).1.above call hcall).1
      have hbound := call.sequence.toNat_lt
      rw [UInt64.lt_iff_toNat_lt] at hlt
      omega
    change s.sealed ++ r.calls = s.sealed
    rw [hnone, append_nil]

end Numbers

/-- In every run the numbers of the `Seal`s increase, each number stands at the end of
the header and of the nonce, and the counter never turns over: with the last number
used, the next `Seal` fails and no action makes one. -/
theorem nonces_increase (L : ZoneLib) (c : PacketCipher) (actions : List ConnAction)
    (t : Connection) (hrun : run (step L) (start c) actions = some t) :
    t.sealed.Pairwise (fun call call' => call.sequence < call'.sequence) ∧
    (∀ call ∈ t.sealed, c.next < call.sequence ∧ call.sequence ≤ t.cipher.next) ∧
    (∀ call ∈ t.sealed, ∃ front, call.header = front ++ putUint64 call.sequence ∧
      call.nonce = c.session.bytes ++ putUint64 call.sequence) ∧
    (t.cipher.next.toNat = 2 ^ 64 - 1 →
      (∀ (header payload : Bytes) (offset : ℕ) (target : ℕ × PeerCipher)
        (rest : List (ℕ × PeerCipher)), t.cipher.sealEach header offset payload (target :: rest) =
          ⟨t.cipher, [], some (.msg "zone message sequence exhausted")⟩) ∧
      ∀ (action : ConnAction) (t' : Connection), t.step L action = some t' →
        t'.sealed = t.sealed) := by
  have h : t.Numbered c := run_preserves (fun _ _ _ h => h.step) (numbered_start c) hrun
  refine ⟨h.sorted, h.above, h.bytes, fun hmax => ⟨?_, ?_⟩⟩
  · intro header payload offset target rest
    rw [sealEach, sealLocked, if_pos hmax]
  · exact fun _ _ => sealed_of_exhausted hmax

end Connection

/-! ## Runs -/

/-- Frames for everybody and for one member, stream data and a datagram, with a roster
between the two sections of the datagram and with calls that fail. -/
def mixedActions (A : Member plainLib) : List ConnAction :=
  [.sealFrame (List.replicate 6 255 ++ A.cipher.mac.bytes ++ [8, 0]) [0],
    .findPeer (.v4 0x0A000002) 53 54 [3],
    .update (plainRoster 1 [plainPeer 3 3 3 3, plainPeer 2 2 2 2]), .sealStreamData 0 5 [],
    .sealStreamData 0 5 [1, 2],
    .sealFrame (List.replicate 6 255 ++ A.cipher.mac.bytes ++ [8, 0]) [1, 0], .sealDatagram 0]

theorem mixedActions_nonces : ∃ A ∈ plainMember 1 1 1 2 2 2, ∃ t,
      run (Connection.step plainLib) (.start A.cipher) (mixedActions A) = some t ∧
      t.sealed.map SealCall.sequence = [1, 2, 3, 4, 5] ∧
      t.sealed.Pairwise (fun call call' => call.sequence < call'.sequence) := by
  obtain ⟨A, hA, t, hrun, hnumbers⟩ : ∃ A ∈ plainMember 1 1 1 2 2 2,
        ∃ t ∈ run (Connection.step plainLib) (.start A.cipher) (mixedActions A),
          t.sealed.map SealCall.sequence = [1, 2, 3, 4, 5] := by
    decide +kernel
  exact ⟨A, hA, t, hrun, hnumbers, (Connection.nonces_increase plainLib A.cipher _ t hrun).1⟩

end LinkSocks.Zone
