import LinkSocks.Channel.Transfer

/-!
# Delivery in order

With migration on, every message on a wire is a copy of a numbered message, and the
receiving end takes in only the next number.  So whatever the network does, and however the
channel moves between its paths, the queue holds the first messages that were written, until
the numbers wrap around.
-/

namespace LinkSocks

open Go Transfer LogicalChannelState List Option

/-! ## What a step can do -/

def AfterSwitch.inHand : AfterSwitch → List BaseMessage
  | .write call => [call.msg]
  | .nothing => []

/-- The messages that a goroutine may still hand to a link. -/
def ChannelPC.inHand : ChannelPC → List BaseMessage
  | .write call _ | .currentWriter call | .writeAgain call _ => [call.msg]
  | .switchToFallback _ k | .migrate _ _ k | .replayPending k
  | .pendingMessages _ k => k.inHand
  | .replay _ rest k => rest.map .data ++ k.inHand
  | _ => []

namespace Transfer

/-- All but goroutines, lock and wires. -/
def core (s : Transfer) : LogicalChannelState × LogicalChannelState ×
    List DataMessage × (Writer → ℕ) × List DataMessage × List DataMessage × List SequenceEvent :=
  (s.channel, s.peer, s.queue, s.cursor, s.written, s.requested, s.events)

/-- Only goroutine `i` has moved, and it holds messages of `msgs`. -/
structure Moves (s s' : Transfer) (i : ℕ) (msgs : List BaseMessage) : Prop where
  core : s'.core = s.core
  wires : s'.wires = s.wires
  others : ∀ j, j ≠ i → s'.threads j = s.threads j
  inHand : ∀ m ∈ (s'.threads i).inHand, m ∈ msgs

section Moves

variable (s : Transfer) (i : ℕ)

theorem moves_setThread (pc : ChannelPC) : s.Moves (s.setThread i pc) i pc.inHand where
  core := rfl
  wires := rfl
  others := fun _ hj => setThread_of_ne s pc hj
  inHand := by simp

theorem moves_unlock (pc : ChannelPC) : s.Moves (s.unlock i pc) i pc.inHand where
  core := rfl
  wires := rfl
  others := fun _ hj => setThread_of_ne s pc hj
  inHand := by simp [unlock]

theorem moves_transportDown (call : WriteCall) : s.Moves (s.transportDown i call) i [] := by
  rw [transportDown]
  split <;> exact moves_unlock ..

theorem moves_switchFailed (k : AfterSwitch) : s.Moves (s.switchFailed i k) i [] := by
  cases k with
  | write call => exact moves_transportDown ..
  | nothing => exact moves_setThread ..

theorem moves_switched (k : AfterSwitch) : s.Moves (s.switched i k) i k.inHand := by
  cases k with
  | write call =>
    rw [switched]
    split
    · exact { moves_unlock s i .idle with
        inHand := by simp [unlock, setThread, ChannelPC.inHand] }
    · exact moves_setThread ..
  | nothing => exact moves_setThread ..

theorem moves_writeFailed (call : WriteCall) : s.Moves (s.writeFailed i call) i [call.msg] := by
  rw [writeFailed]
  split
  · exact { moves_unlock s i .idle with
      inHand := by simp [unlock, setThread, ChannelPC.inHand] }
  · exact moves_setThread ..

end Moves

/-- What one step of goroutine `i` from `pc` does.  Besides the critical section
of `WriteMessage` it changes at most the writer, the path and the migration
flag of the channel. -/
structure StepSpec (s s' : Transfer) (i : ℕ) (pc : ChannelPC) : Prop where
  core : (∃ channel : LogicalChannelState, s'.core = { s with channel := channel }.core ∧
      s.channel.KeepsData channel) ∨ ∃ data retry again, pc = .assign (.data data) retry again ∧
      s.channel.closed = false ∧ s' = s.assign i (.data data) retry again
  others : ∀ j, j ≠ i → s'.threads j = s.threads j
  inHand : ∀ m, .data m ∈ (s'.threads i).inHand →
    .data m ∈ pc.inHand ∨ (∃ n, s.channel.pending.lookup n = some m) ∨ m ∈ s'.written
  wires : ∀ w m, .data m ∈ s'.wires w → .data m ∈ s.wires w ∨ .data m ∈ pc.inHand

section Specs

variable {s s₀ s' : Transfer} {i : ℕ} {pc : ChannelPC} {msgs : List BaseMessage}
  {msg : BaseMessage} {w : Writer} {retry : Option DataMessage} {again : Bool}
  {ok taken : Bool}

@[simp] theorem attempt_core (w : Writer) (msg : BaseMessage)
    (ok taken : Bool) : (s.attempt w msg ok taken).core = s.core := by
  rw [attempt]
  split <;> rfl

@[simp] theorem attempt_threads (w : Writer) (msg : BaseMessage)
    (ok taken : Bool) : (s.attempt w msg ok taken).threads = s.threads := by
  rw [attempt]
  split <;> rfl

@[simp] theorem attempt_channel (w : Writer) (msg : BaseMessage)
    (ok taken : Bool) : (s.attempt w msg ok taken).channel = s.channel :=
  congrArg Prod.fst (attempt_core w msg ok taken)

theorem mem_attempt {w w' : Writer} {msg m : BaseMessage}
    (h : m ∈ (s.attempt w msg ok taken).wires w') : m ∈ s.wires w' ∨ m = msg := by
  rw [attempt] at h
  split at h
  · by_cases hw : w' = w
    · subst hw
      simpa [send] using h
    · refine .inl ?_
      simpa [send, hw] using h
  · exact .inl h

/-- The specification of a step that changes the channel and the wires first,
and then moves the goroutine. -/
theorem stepSpec_of_moves {channel : LogicalChannelState}
    (hcore : s₀.core = { s with channel := channel }.core) (hchannel : s.channel.KeepsData channel)
    (hthreads : s₀.threads = s.threads)
    (hwires : ∀ w m, .data m ∈ s₀.wires w → .data m ∈ s.wires w ∨ .data m ∈ pc.inHand)
    (hmoves : s₀.Moves s' i msgs)
    (hmsgs : ∀ m, .data m ∈ msgs → .data m ∈ pc.inHand ∨ ∃ n, s.channel.pending.lookup n = some m) :
    s.StepSpec s' i pc where
  core := .inl ⟨channel, hmoves.core.trans hcore, hchannel⟩
  others := fun j hj => (hmoves.others j hj).trans (congrFun hthreads j)
  inHand := by
    intro m hm
    obtain hm | hm := hmsgs m (hmoves.inHand _ hm)
    · exact .inl hm
    · exact .inr (.inl hm)
  wires := by
    intro w m hm
    rw [hmoves.wires] at hm
    exact hwires w m hm

theorem stepSpec_of_move (hmoves : s.Moves s' i msgs) (hmsgs : ∀ m, .data m ∈ msgs →
      .data m ∈ pc.inHand ∨ ∃ n, s.channel.pending.lookup n = some m) : s.StepSpec s' i pc :=
  stepSpec_of_moves rfl (.refl _) rfl (fun _ _ => .inl) hmoves hmsgs

theorem stepSpec_of_attempt (hmsg : ∀ m, msg = .data m → msg ∈ pc.inHand)
    (hmoves : (s.attempt w msg ok taken).Moves s' i msgs)
    (hmsgs : ∀ m, .data m ∈ msgs → .data m ∈ pc.inHand) : s.StepSpec s' i pc := by
  refine stepSpec_of_moves (attempt_core ..) (.refl _) (attempt_threads ..) ?_
    hmoves fun m hm => .inl (hmsgs m hm)
  intro w' m hm
  obtain hm | hm := mem_attempt hm
  · exact .inl hm
  · exact .inr (hm ▸ hmsg m hm.symm)

theorem stepSpec_of_written {s₁ s₂ : Transfer} {msgs' : List BaseMessage}
    (hstep : (if ok then some s₁ else some s₂) = some s')
    (hmsg : ∀ m, msg = .data m → msg ∈ pc.inHand)
    (hdone : (s.attempt w msg ok taken).Moves s₁ i msgs)
    (hfailed : (s.attempt w msg ok taken).Moves s₂ i msgs')
    (hmsgs : ∀ m, .data m ∈ msgs → .data m ∈ pc.inHand)
    (hmsgs' : ∀ m, .data m ∈ msgs' → .data m ∈ pc.inHand) : s.StepSpec s' i pc := by
  split at hstep
  · cases hstep
    exact stepSpec_of_attempt hmsg hdone hmsgs
  · cases hstep
    exact stepSpec_of_attempt hmsg hfailed hmsgs'

theorem stepSpec_of_switch {path : ChannelPath} {pc' : ChannelPC}
    (hstep : (match s.channel.switch w path with
      | none => some (s.setThread i .idle)
      | some channel => some ({ s with channel := channel }.setThread i pc')) = some s')
    (hnothing : pc'.inHand = []) : s.StepSpec s' i pc := by
  split at hstep
  · cases hstep
    exact stepSpec_of_move (moves_setThread ..) (by simp [ChannelPC.inHand])
  · rename_i channel hswitch
    have hkeeps := keepsData_switch hswitch
    cases hstep
    exact stepSpec_of_moves rfl hkeeps rfl (fun _ _ => .inl)
      (moves_setThread ..) (by simp [hnothing])

theorem switchToFallback_stepSpec {reason : Bytes} {k : AfterSwitch}
    (hstep : s.stepThread i (.switchToFallback reason k) .next = some s') :
    s.StepSpec s' i (.switchToFallback reason k) := by
  simp only [stepThread] at hstep
  split at hstep
  · cases hstep
    exact stepSpec_of_move (moves_switchFailed ..) (by simp)
  · rename_i channel w hswitch
    have hkeeps := keepsData_switchToFallback hswitch
    split at hstep
    · cases hstep
      exact stepSpec_of_moves rfl hkeeps rfl (fun _ _ => .inl) (moves_setThread ..) (fun _ => .inl)
    · cases hstep
      exact stepSpec_of_moves rfl hkeeps rfl (fun _ _ => .inl) (moves_switched ..) (fun _ => .inl)

theorem pendingMessages_stepSpec {k : AfterSwitch} :
    s.StepSpec (s.setThread i (.replay w s.channel.pendingMessages k)) i
      (.pendingMessages w k) := by
  refine stepSpec_of_move (moves_setThread ..) fun m hm => ?_
  obtain hm | hm := mem_append.mp hm
  · obtain ⟨m', hm', h⟩ := mem_map.mp hm
    cases h
    exact .inr (mem_pendingMessages.mp hm')
  · exact .inl hm

theorem assign_closed (hclosed : s.channel.closed = true) :
    s.assign i msg retry again = s.unlock i .idle := by
  simp only [assign, hclosed, if_true]

theorem assign_control (hopen : s.channel.closed = false) (hmsg : ∀ data, msg ≠ .data data) :
    s.assign i msg retry again = s.setThread i (.write ⟨msg, s.channel.migration, retry⟩
        s.channel.writer) := by
  unfold assign
  rw [hopen]
  cases msg <;> first | rfl | exact absurd rfl (hmsg _)

theorem assign_stepSpec : s.StepSpec (s.assign i msg retry again) i (.assign msg retry again) := by
  cases hopen : s.channel.closed with
  | true =>
    rw [assign_closed hopen]
    exact stepSpec_of_move (moves_unlock ..) (by simp [ChannelPC.inHand])
  | false =>
    by_cases hmsg : ∃ data, msg = .data data
    · obtain ⟨data, rfl⟩ := hmsg
      refine ⟨.inr ⟨data, retry, again, rfl, hopen, rfl⟩, ?_, ?_, ?_⟩
      · intro j hj
        simp [assign, hopen, setThread, hj]
      · simp_all [assign, setThread, ChannelPC.inHand]
      · simp_all [assign, setThread]
    · rw [not_exists] at hmsg
      rw [assign_control hopen hmsg]
      refine stepSpec_of_move (moves_setThread ..) fun m hm => ?_
      exact absurd (by simpa [ChannelPC.inHand, eq_comm] using hm) (hmsg m)

/-- What a step of a goroutine can change. -/
theorem stepThread_spec {label : ChannelLabel}
    (hstep : s.stepThread i pc label = some s') : s.StepSpec s' i pc := by
  unfold stepThread at hstep
  -- one case for each equation of `stepThread`
  split at hstep
  · split at hstep <;> cases hstep
    exact stepSpec_of_move { moves_setThread s i (.assign ..) with } (by simp [ChannelPC.inHand])
  · cases hstep
    exact assign_stepSpec
  · cases hstep
    exact stepSpec_of_move (moves_unlock ..) (by simp [ChannelPC.inHand])
  · exact stepSpec_of_written hstep (by simp [ChannelPC.inHand])
      (moves_unlock ..) (moves_writeFailed ..)
      (by simp [ChannelPC.inHand]) (by simp [ChannelPC.inHand])
  · exact switchToFallback_stepSpec hstep
  · exact stepSpec_of_written hstep (by simp) (moves_setThread ..)
      (moves_switchFailed ..) (fun _ => id) (by simp)
  · split at hstep <;> cases hstep
    · exact stepSpec_of_move (moves_switchFailed ..) (by simp)
    · exact stepSpec_of_move (moves_setThread ..) (fun _ => .inl)
  · cases hstep
    exact pendingMessages_stepSpec
  · cases hstep
    exact stepSpec_of_move (moves_switched ..) (fun _ => .inl)
  · exact stepSpec_of_written hstep (by simp [ChannelPC.inHand])
      (moves_setThread ..) (moves_switchFailed ..)
      (fun _ hm => mem_cons_of_mem _ hm) (by simp)
  · obtain ⟨w, -, rfl⟩ := map_eq_some_iff.mp hstep
    exact stepSpec_of_move (moves_setThread ..) (fun _ => .inl)
  · exact stepSpec_of_written hstep (by simp [ChannelPC.inHand])
      (moves_unlock ..) (moves_transportDown ..)
      (by simp [ChannelPC.inHand]) (by simp)
  · cases hstep
    exact stepSpec_of_move (moves_setThread ..) (fun _ => .inl)
  · cases hstep
    exact stepSpec_of_move (moves_setThread ..) (fun _ => .inl)
  · split at hstep <;> cases hstep <;> exact stepSpec_of_move (moves_setThread ..) (fun _ => .inl)
  · exact stepSpec_of_switch hstep (by split <;> rfl)
  · exact stepSpec_of_switch hstep (by split <;> rfl)
  · cases hstep
    exact stepSpec_of_move (moves_setThread ..) (by split <;> simp [ChannelPC.inHand])
  · cases hstep
    exact stepSpec_of_move (moves_setThread ..) (by split <;> simp [ChannelPC.inHand])
  · cases hstep
    exact stepSpec_of_moves rfl (keepsData_enableMigration _) rfl
      (fun _ _ => .inl) (moves_setThread ..) (fun _ => .inl)
  · cases hstep
    exact stepSpec_of_attempt (by simp) (moves_setThread ..) (by split <;> simp [ChannelPC.inHand])
  · cases hstep

end Specs

theorem receive_eq (s : Transfer) (msg : BaseMessage) (room : Bool) : s.receive msg room = { s with
        peer := (s.receive msg room).peer
        queue := (s.receive msg room).queue } := by
  cases msg with
  | data m =>
    simp only [receive, deliverData]
    split
    · rfl
    · cases room <;> rfl
  | _ => rfl

def delivered (s : Transfer) (w : Writer) (msg : BaseMessage) (room : Bool) : Transfer :=
  { s.receive msg room with cursor := Function.update s.cursor w (s.cursor w + 1) }

theorem delivered_eq (s : Transfer) (w : Writer) (msg : BaseMessage) (room : Bool) :
    s.delivered w msg room = { s with
        peer := (s.receive msg room).peer
        queue := (s.receive msg room).queue
        cursor := Function.update s.cursor w (s.cursor w + 1) } := by
  rw [delivered, receive_eq]

end Transfer

/-! ## Unacknowledged numbers -/

/-- Assigned, and not acknowledged since. -/
def Unacknowledged (events : List SequenceEvent) (n : UInt64) : Prop :=
  ∃ earlier later, events = earlier ++ .assigned n :: later ∧ .acknowledged n ∉ later

theorem unacknowledged_nil (n : UInt64) : ¬ Unacknowledged [] n := by
  rintro ⟨earlier, later, h, -⟩
  simp at h

theorem unacknowledged_concat (events : List SequenceEvent) (event : SequenceEvent) (n : UInt64) :
    Unacknowledged (events ++ [event]) n ↔ event = .assigned n ∨
        (event ≠ .acknowledged n ∧ Unacknowledged events n) := by
  constructor
  · rintro ⟨earlier, later, heq, hnot⟩
    rcases eq_nil_or_concat later with rfl | ⟨later, last, rfl⟩
    · refine .inl ?_
      simpa using (append_inj' heq rfl).2
    · rw [concat_eq_append] at heq hnot
      rw [← cons_append, ← append_assoc] at heq
      obtain ⟨hevents, hlast⟩ := append_inj' heq rfl
      cases hlast
      simp only [mem_append, mem_singleton, not_or] at hnot
      exact .inr ⟨fun h => hnot.2 h.symm, earlier, later, hevents, hnot.1⟩
  · rintro (rfl | ⟨hne, earlier, later, rfl, hnot⟩)
    · exact ⟨events, [], rfl, by simp⟩
    · refine ⟨earlier, later ++ [event], by simp, ?_⟩
      simp only [mem_append, mem_singleton, not_or]
      exact ⟨hnot, fun h => hne h.symm⟩

/-! ## Numbered data -/

/-- Every copy of data anywhere is one of the written messages, and they are
numbered from one. -/
structure Transfer.Numbered (s : Transfer) : Prop where
  migration : s.channel.migration = true
  sequence : s.channel.sequence = UInt64.ofNat s.written.length
  numbers : ∀ n m, s.written[n]? = some m → m.sequence = UInt64.ofNat (n + 1)
  pending : ∀ n m, s.channel.pending.lookup n = some m → m ∈ s.written
  unacknowledged : ∀ n, n ∈ s.channel.pending ↔ Unacknowledged s.events n
  inHand : ∀ i m, .data m ∈ (s.threads i).inHand → m ∈ s.written
  wires : ∀ w m, .data m ∈ s.wires w → m ∈ s.written
  queue : s.written.length < 2 ^ 64 →
    s.queue = s.written.take s.queue.length ∧ s.peer.received = UInt64.ofNat s.queue.length

/-- Nothing has been written yet, and migration is on. -/
structure Transfer.Initial (s : Transfer) : Prop where
  migration : s.channel.migration = true
  sequence : s.channel.sequence = 0
  pending : s.channel.pending = ∅
  threads : ∀ i, s.threads i = .idle
  wires : ∀ w, s.wires w = []
  received : s.peer.received = 0
  queue : s.queue = []
  written : s.written = []
  events : s.events = []

variable {s : Transfer}

theorem Transfer.numbered_initial (h : s.Initial) : s.Numbered where
  migration := h.migration
  sequence := by simp [h.sequence, h.written]
  numbers := by simp [h.written]
  pending := by simp [h.pending]
  unacknowledged := by simp [h.pending, h.events, unacknowledged_nil]
  inHand := by simp [h.threads, ChannelPC.inHand]
  wires := by simp [h.wires]
  queue := by simp [h.queue, h.received]

section Steps

variable {s s' : Transfer} {m : DataMessage} {i : ℕ}

theorem ofNat_succ_inj {n k : ℕ} (hn : n + 1 < 2 ^ 64) (hk : k + 1 < 2 ^ 64)
    (h : UInt64.ofNat (n + 1) = UInt64.ofNat (k + 1)) : n = k := by
  have htoNat := congrArg UInt64.toNat h
  rw [UInt64.toNat_ofNat', UInt64.toNat_ofNat'] at htoNat
  omega

theorem ofNat_ne_zero {n : ℕ} (hpos : 0 < n) (hn : n < 2 ^ 64) : UInt64.ofNat n ≠ 0 := by
  intro h
  have htoNat := congrArg UInt64.toNat h
  simp at htoNat
  omega

theorem numbers_concat {written : List DataMessage}
    (h : ∀ n m, written[n]? = some m → m.sequence = UInt64.ofNat (n + 1))
    (hm : m.sequence = UInt64.ofNat (written.length + 1)) : ∀ n m', (written ++ [m])[n]? = some m' →
      m'.sequence = UInt64.ofNat (n + 1) := by
  intro n m' hm'
  rw [getElem?_append] at hm'
  split at hm'
  · exact h n m' hm'
  · obtain ⟨hn', rfl⟩ := List.getElem?_eq_some_iff.mp hm'
    rw [length_singleton] at hn'
    have hlast : n = written.length := by omega
    rw [getElem_singleton, hm, hlast]

/-- Of messages numbered from one, a receiving end that has `k` of them takes
in only the next. -/
theorem accepted_next {written : List DataMessage} {c c' : LogicalChannelState} {k : ℕ}
    (h : ∀ n m, written[n]? = some m → m.sequence = UInt64.ofNat (n + 1))
    (hshort : written.length < 2 ^ 64) (hk : k ≤ written.length)
    (hreceived : c.received = UInt64.ofNat k) (hm : m ∈ written)
    (haccept : c.acceptData m.sequence = some c') :
    written[k]? = some m ∧ c'.received = UInt64.ofNat (k + 1) := by
  obtain ⟨n, hn⟩ := getElem?_of_mem hm
  have hsequence := h n m hn
  have hlt : n < written.length := (List.getElem?_eq_some_iff.mp hn).1
  have hne : m.sequence ≠ 0 := by
    rw [hsequence]
    exact ofNat_ne_zero (Nat.succ_pos n) (by omega)
  obtain ⟨-, hnext, rfl⟩ := (acceptData_sequenced hne).mp haccept
  have hnumber : m.sequence = UInt64.ofNat (k + 1) := by
    rw [hnext, hreceived, UInt64.ofNat_add]
    rfl
  have hwrap : k + 1 < 2 ^ 64 := by
    by_contra hlong
    have hwrap : k + 1 = 2 ^ 64 := by omega
    rw [hnumber, hwrap] at hne
    exact hne rfl
  have hposition : n = k := ofNat_succ_inj (by omega) hwrap (hsequence.symm.trans hnumber)
  exact ⟨hposition ▸ hn, hnumber⟩

/-- A step puts in hand and on the wires only what was written, if that held
before. -/
theorem Transfer.StepSpec.mem_written (hspec : s.StepSpec s' i (s.threads i))
    (hold : ∀ m ∈ s.written, m ∈ s'.written)
    (hpending : ∀ n m, s.channel.pending.lookup n = some m → m ∈ s.written)
    (hinHand : ∀ j m, .data m ∈ (s.threads j).inHand → m ∈ s.written)
    (hwires : ∀ w m, .data m ∈ s.wires w → m ∈ s.written) :
    (∀ j m, .data m ∈ (s'.threads j).inHand → m ∈ s'.written) ∧
      ∀ w m, .data m ∈ s'.wires w → m ∈ s'.written := by
  constructor
  · intro j m hm
    by_cases hj : j = i
    · subst hj
      obtain hm | ⟨n, hn⟩ | hm := hspec.inHand m hm
      · exact hold m (hinHand j m hm)
      · exact hold m (hpending n m hn)
      · exact hm
    · rw [hspec.others j hj] at hm
      exact hold m (hinHand j m hm)
  · intro w m hm
    obtain hm | hm := hspec.wires w m hm
    · exact hold m (hwires w m hm)
    · exact hold m (hinHand i m hm)

/-! ## The critical section of `WriteMessage` -/

section Assign

variable (i : ℕ) (data : DataMessage) (retry : Option DataMessage)
  (again : Bool)

section

variable (hopen : s.channel.closed = false)
include hopen

theorem Transfer.assign_written :
    (s.assign i (.data data) retry again).written = s.written ++ [(s.channel.assign data).2] := by
  simp [Transfer.assign, hopen]

theorem Transfer.assign_channel :
    (s.assign i (.data data) retry again).channel = (s.channel.assign data).1 := by
  simp [Transfer.assign, hopen]

theorem Transfer.assign_events
    (hon : s.channel.migration = true) : (s.assign i (.data data) retry again).events =
      s.events ++ [.assigned (s.channel.assign data).2.sequence] := by
  simp [Transfer.assign, hopen, hon]

theorem Transfer.assign_frame : (s.assign i (.data data) retry again).wires = s.wires ∧
      (s.assign i (.data data) retry again).cursor = s.cursor ∧
      (s.assign i (.data data) retry again).queue = s.queue ∧
      (s.assign i (.data data) retry again).peer = s.peer := by
  simp [Transfer.assign, hopen, Transfer.setThread]

theorem Transfer.mem_assign_written {m : DataMessage} (hm : m ∈ s.written) :
    m ∈ (s.assign i (.data data) retry again).written := by
  rw [assign_written i data retry again hopen]
  exact mem_append_left _ hm

end

end Assign

section

variable (h : s.Numbered)
include h

theorem Transfer.Numbered.queue_length_le (hlength : s.written.length < 2 ^ 64) :
    s.queue.length ≤ s.written.length := by
  rw [(h.queue hlength).1]
  exact length_take_le' ..

theorem Transfer.Numbered.assign_sequence (data : DataMessage) :
    (s.channel.assign data).2.sequence = UInt64.ofNat (s.written.length + 1) := by
  rw [(assign_on data h.migration).1, UInt64.ofNat_add, ← h.sequence]
  rfl

/-- A write gets the next number. -/
theorem Transfer.Numbered.assign {data : DataMessage}
    {retry : Option DataMessage} {again : Bool} (hopen : s.channel.closed = false)
    (hspec : s.StepSpec (s.assign i (.data data) retry again) i (s.threads i)) :
    (s.assign i (.data data) retry again).Numbered := by
  have hwritten := assign_written i data retry again hopen
  have hchannel := assign_channel i data retry again hopen
  have hevents := assign_events i data retry again hopen h.migration
  have hframe := assign_frame i data retry again hopen
  have hnumber := h.assign_sequence data
  obtain ⟨-, hsequence, hpending⟩ := assign_on data h.migration
  have hmem := hspec.mem_written
    (fun m hm => mem_assign_written i data retry again hopen hm)
    h.pending h.inHand h.wires
  refine ⟨?_, ?_, ?_, ?_, ?_, hmem.1, hmem.2, ?_⟩
  · rw [hchannel, (assign_keeps s.channel data).2.1, h.migration]
  · rw [hchannel, hsequence, hwritten, length_append,
      UInt64.ofNat_add, ← h.sequence]
    rfl
  · rw [hwritten]
    exact numbers_concat h.numbers hnumber
  · intro n m hm
    rw [hchannel] at hm
    rw [hwritten, mem_append, mem_singleton]
    exact (lookup_assign h.migration hm).imp_left (h.pending n m)
  · intro n
    rw [hchannel, hpending, hevents, AList.mem_insert, unacknowledged_concat, h.unacknowledged n]
    simp [eq_comm]
  · intro hlength
    rw [hwritten, length_append] at hlength
    have hshort : s.written.length < 2 ^ 64 := by omega
    rw [hframe.2.2.1, hframe.2.2.2, hwritten, take_append_of_le_length (h.queue_length_le hshort)]
    exact h.queue hshort

theorem Transfer.numbered_stepThread {label : ChannelLabel}
    (hstep : s.stepThread i (s.threads i) label = some s') : s'.Numbered := by
  have hspec := stepThread_spec hstep
  obtain ⟨channel, hcore, hkeeps⟩ | ⟨data, retry, again, -, hopen, rfl⟩ := hspec.core
  · simp only [Transfer.core, Prod.mk.injEq] at hcore
    obtain ⟨hchannel, hpeer, hqueue, -, hwritten, -, hevents⟩ := hcore
    have hmem := hspec.mem_written (fun m hm => hwritten ▸ hm) h.pending h.inHand h.wires
    refine ⟨?_, ?_, ?_, ?_, ?_, hmem.1, hmem.2, ?_⟩
    · rw [hchannel]
      exact hkeeps.migration h.migration
    · rw [hchannel, hkeeps.sequence, hwritten, h.sequence]
    · rw [hwritten]
      exact h.numbers
    · rw [hchannel, hkeeps.pending, hwritten]
      exact h.pending
    · rw [hchannel, hkeeps.pending, hevents]
      exact h.unacknowledged
    · rw [hwritten, hqueue, hpeer]
      exact h.queue
  · exact h.assign hopen hspec

theorem Transfer.Numbered.accepted {peer : LogicalChannelState}
    (hlength : s.written.length < 2 ^ 64) (hm : m ∈ s.written)
    (haccept : s.peer.acceptData m.sequence = some peer) :
    s.written[s.queue.length]? = some m ∧ peer.received = UInt64.ofNat (s.queue.length + 1) :=
  accepted_next h.numbers hlength (h.queue_length_le hlength) (h.queue hlength).2 hm haccept

theorem Transfer.Numbered.deliverData {room : Bool} (hm : m ∈ s.written) :
    (s.deliverData m room).Numbered := by
  rw [Transfer.deliverData]
  split
  · exact h
  · rename_i peer haccept
    cases room with
    | false =>
      rw [rejectData_of_acceptData haccept]
      exact { h with }
    | true =>
      rw [if_pos rfl]
      refine { h with queue := fun hlength => ?_ }
      obtain ⟨hnext, hreceived⟩ := h.accepted hlength hm haccept
      refine ⟨?_, by simpa using hreceived⟩
      rw [length_append, length_singleton, take_add_one, hnext, ← (h.queue hlength).1]
      rfl

/-- Every step keeps the numbers in order. -/
theorem Transfer.numbered_step {a : TransferAction} (hstep : s.step a = some s') : s'.Numbered := by
  cases a with
  | call i op =>
    simp only [Transfer.step] at hstep
    split at hstep <;> cases hstep
    refine { h with inHand := ?_ }
    intro j m hm
    by_cases hj : j = i
    · subst hj
      cases op <;> simp [Transfer.setThread, ChannelOp.entry,
        ChannelPC.inHand, AfterSwitch.inHand] at hm
    · rw [setThread_of_ne s op.entry hj] at hm
      exact h.inHand j m hm
  | step i label => exact numbered_stepThread h hstep
  | acknowledge sequence =>
    cases hstep
    refine { h with pending := ?_, unacknowledged := ?_ }
    · intro n m hm
      exact h.pending n m (lookup_of_erase n m hm)
    · intro n
      rw [unacknowledged_concat, ← h.unacknowledged n]
      simp [LogicalChannelState.acknowledge, eq_comm]
  | close =>
    cases hstep
    exact { h with }
  | deliver w n room =>
    obtain ⟨msg, hmsg, rfl⟩ := map_eq_some_iff.mp hstep
    have hreceive : (s.receive msg room).Numbered := by
      cases msg with
      | data m => exact h.deliverData (h.wires w m (mem_of_getElem? hmsg))
      | _ => exact h
    exact { hreceive with }

end

end Steps

/-- In every run of a channel with migration on, as long as fewer than `2 ^ 64` data messages
have been written, the queue of the receiving end holds the first of them, in order; and the
retained numbers are those assigned and not acknowledged since. -/
theorem run_ordered_delivery (s : Transfer) (hinit : s.Initial)
    (actions : List TransferAction) (t : Transfer) (hrun : run Transfer.step s actions = some t) :
    (t.written.length < 2 ^ 64 → t.queue <+: t.written) ∧
    ∀ n, n ∈ t.channel.pending ↔ Unacknowledged t.events n := by
  have h : t.Numbered := run_preserves (fun _ _ _ h => numbered_step h)
      (numbered_initial hinit) hrun
  refine ⟨fun hlength => ?_, h.unacknowledged⟩
  rw [(h.queue hlength).1]
  exact List.take_prefix ..

/-! ## A run with copies -/

def freshChannel : LogicalChannelState :=
  (LogicalChannelState.newLogicalChannel (uuidOf 7) (some 0) (some 0) .relay).enableMigration true

def freshTransfer : Transfer where
  channel := freshChannel
  writeMu := none
  threads := fun _ => .idle
  wires := fun _ => []
  cursor := fun _ => 0
  peer := freshChannel
  queue := []
  written := []
  requested := []
  events := []

theorem freshTransfer_initial : freshTransfer.Initial :=
  ⟨rfl, rfl, rfl, fun _ => rfl, fun _ => rfl, rfl, rfl, rfl, rfl⟩

def chunk (b : UInt8) : DataMessage := ⟨tcp, uuidOf 7, [b], 0, [], 0, [], 0, 0⟩

/-- One goroutine writes a message, and the link takes it. -/
def writeActions (i : ℕ) (data : DataMessage) : List TransferAction :=
  [.call i (.writeMessage (.data data)), .step i .next, .step i .next, .step i (.written true true)]

/-- What is on the queue, what was written, and which numbers are retained. -/
def transferred (s : Transfer) (actions : List TransferAction) :
    Option (List Bytes × List Bytes × List UInt64) :=
  (run Transfer.step s actions).map fun t =>
    (t.queue.map (·.data), t.written.map (·.data), t.channel.pending.keys)

/-- The second of three messages comes first and is dropped, the first comes
twice and is acknowledged, and a switch to the fallback replays the others. -/
def copiesRun : List TransferAction :=
  writeActions 0 (chunk 1) ++ writeActions 1 (chunk 2) ++ writeActions 0 (chunk 3) ++
    [.deliver 0 1 true, .deliver 0 0 true, .deliver 0 0 true, .acknowledge 1,
      .call 2 (.switchToFallback (ascii "lost")), .step 2 .next,
      .step 2 (.written true true), .step 2 .next, .step 2 .next,
      .step 2 (.written true true), .step 2 (.written true true), .step 2 .next,
      .deliver 0 4 true, .deliver 0 5 true]

theorem copiesRun_ordered_delivery : freshTransfer.Initial ∧ transferred freshTransfer copiesRun =
      some ([[1], [2], [3]], [[1], [2], [3]], [3, 2]) ∧
    ∃ t, run Transfer.step freshTransfer copiesRun = some t ∧
      (t.written.length < 2 ^ 64 → t.queue <+: t.written) :=
  ⟨freshTransfer_initial, by decide +kernel, of_run_isSome (by decide +kernel) fun t ht =>
    ⟨t, ht, (run_ordered_delivery freshTransfer freshTransfer_initial copiesRun t ht).1⟩⟩

/-! ## The numbers wrap around -/

/-- Goroutine `i` can write, and writes go to wire `w`. -/
structure Transfer.Ready (s : Transfer) (i : ℕ) (w : Writer) : Prop where
  idle : s.threads i = .idle
  writeMu : s.writeMu = none
  isOpen : s.channel.closed = false
  migration : s.channel.migration = true
  writer : s.channel.writer = some w

def Transfer.afterWrite (s : Transfer) (i : ℕ) (w : Writer) (data : DataMessage) : Transfer :=
  let locked := { (s.setThread i (.lock (.data data) none false)).setThread i
      (.assign (.data data) none false) with writeMu := some i }
  let assigned := locked.assign i (.data data) none false
  (assigned.attempt w (.data (s.channel.assign data).2) true true).unlock i .idle

variable {w : Writer}

theorem Transfer.run_writeActions {i : ℕ} (h : s.Ready i w) (data : DataMessage) :
    run Transfer.step s (writeActions i data) = some (s.afterWrite i w data) := by
  let called := s.setThread i (.lock (.data data) none false)
  let locked := { called.setThread i (.assign (.data data) none false) with
    writeMu := some i }
  let assigned := locked.assign i (.data data) none false
  have hcall : s.step (.call i (.writeMessage (.data data))) = some called := by
    simp [Transfer.step, h.idle, ChannelOp.entry, called]
  have hlock : called.step (.step i .next) = some locked := by
    simp [Transfer.step, Transfer.setThread, Transfer.stepThread, h.writeMu, called, locked]
  have hassign : locked.step (.step i .next) = some assigned := by
    simp [Transfer.step, Transfer.setThread, Transfer.stepThread, locked, assigned]
  have hwrite : assigned.step (.step i (.written true true)) = some (s.afterWrite i w data) := by
    have hthread : assigned.threads i =
        .write ⟨.data (s.channel.assign data).2, s.channel.migration, none⟩
          (some w) := by
      simp [assigned, locked, called, Transfer.assign, Transfer.setThread, h.isOpen, h.writer]
    rw [Transfer.step, hthread]
    rfl
  simp only [writeActions, run, hcall, hlock, hassign, hwrite, bind_some]

theorem Transfer.afterWrite_spec {i : ℕ} (h : s.Ready i w) (data : DataMessage) :
    (s.afterWrite i w data).Ready i w ∧
    (s.afterWrite i w data).channel.sequence = s.channel.sequence + 1 ∧
    ∃ m, m.sequence = s.channel.sequence + 1 ∧ m.data = data.data ∧
      (s.afterWrite i w data).wires w = s.wires w ++ [.data m] ∧
      (s.afterWrite i w data).written = s.written ++ [m] ∧ (s.afterWrite i w data).queue = s.queue ∧
      (s.afterWrite i w data).peer = s.peer := by
  have hmigration := h.migration
  refine ⟨⟨?_, ?_, ?_, ?_, ?_⟩, ?_, (s.channel.assign data).2, ?_⟩
  all_goals
    simp [Transfer.afterWrite, Transfer.assign, h.isOpen, hmigration, h.writer,
      Transfer.unlock, Transfer.setThread, Transfer.attempt, Transfer.send,
      LogicalChannelState.assign]

def writesRun (n : ℕ) (data : DataMessage) : List TransferAction :=
  (List.replicate n (writeActions 0 data)).flatten

/-- Any number of writes that nobody receives. -/
theorem Transfer.run_writesRun (h : s.Ready 0 w) (n : ℕ) (data : DataMessage) :
    ∃ t ms, run Transfer.step s (writesRun n data) = some t ∧ t.Ready 0 w ∧
      t.channel.sequence = s.channel.sequence + UInt64.ofNat n ∧
      (t.wires w).length = (s.wires w).length + n ∧
      t.written = s.written ++ ms ∧ ms.map (·.data) = List.replicate n data.data ∧
      t.queue = s.queue ∧ t.peer = s.peer := by
  induction n generalizing s with
  | zero => exact ⟨s, [], rfl, h, by simp, rfl, by simp, rfl, rfl, rfl⟩
  | succ n ih =>
    obtain ⟨hready, hsequence, m, -, hdata, hwires, hwritten, hqueue, hpeer⟩ :=
      afterWrite_spec h data
    obtain ⟨t, ms, hrun, hready', hsequence', hwires', hwritten', hms, hqueue', hpeer'⟩ := ih hready
    refine ⟨t, m :: ms, ?_, hready', ?_, ?_, ?_, ?_, hqueue'.trans hqueue, hpeer'.trans hpeer⟩
    · rw [writesRun, replicate_succ, flatten_cons, run_append, run_writeActions h]
      exact hrun
    · rw [hsequence', hsequence, UInt64.ofNat_add, UInt64.add_assoc, UInt64.add_comm 1]
      rfl
    · rw [hwires', hwires, length_append, length_singleton]
      omega
    · rw [hwritten', hwritten, append_assoc]
      rfl
    · rw [map_cons, hdata, hms, replicate_succ]

/-- All numbers but zero have been used; the next message gets zero, and is
delivered before any other. -/
def wrapRun : List TransferAction :=
  writesRun (2 ^ 64 - 1) (chunk 0) ++ (writeActions 0 (chunk 1) ++ [.deliver 0 (2 ^ 64 - 1) true])

/-- Data with number zero is taken in unconditionally, so the queue starts with
the last message that was written. -/
theorem wrapRun_overtakes : ∃ t, run Transfer.step freshTransfer wrapRun = some t ∧
      t.queue.map (·.data) = [[1]] ∧ t.written.head?.map (·.data) = some [0] ∧
      ¬ t.queue <+: t.written := by
  have hfresh : freshTransfer.Ready 0 0 := ⟨rfl, rfl, rfl, rfl, rfl⟩
  obtain ⟨t, ms, hrun, hready, hsequence, hwires, hwritten, hms, hqueue, hpeer⟩ :=
    run_writesRun hfresh (2 ^ 64 - 1) (chunk 0)
  obtain ⟨-, -, m, hnumber, hdata, hwires', hwritten', hqueue', hpeer'⟩ :=
    afterWrite_spec hready (chunk 1)
  have hzero : m.sequence = 0 := by
    rw [hnumber, hsequence]
    rfl
  have hlast : ((t.afterWrite 0 0 (chunk 1)).wires 0)[2 ^ 64 - 1]? = some (.data m) := by
    have hposition : 2 ^ 64 - 1 = (t.wires 0).length := by
      rw [hwires]
      exact (Nat.zero_add _).symm
    rw [hwires', hposition, getElem?_concat_length]
  have hreceive : (t.afterWrite 0 0 (chunk 1)).receive (.data m) true =
      { t.afterWrite 0 0 (chunk 1) with queue := [m] } := by
    simp only [Transfer.receive, Transfer.deliverData, hzero,
      acceptData_unsequenced, if_true, hqueue', hqueue]
    rfl
  have hhead : (t.afterWrite 0 0 (chunk 1)).written.head?.map (·.data) = some [0] := by
    have hms' : (ms.map (·.data)).head? = some [0] := by
      rw [hms]
      rfl
    cases ms with
    | nil => cases hms'
    | cons first rest =>
      rw [hwritten', hwritten]
      exact hms'
  refine ⟨{ { t.afterWrite 0 0 (chunk 1) with queue := [m] } with
    cursor := Function.update (t.afterWrite 0 0 (chunk 1)).cursor 0
      (2 ^ 64 - 1 + 1) }, ?_, ?_, hhead, ?_⟩
  · rw [wrapRun, run_append, hrun, bind_some, run_append, run_writeActions hready]
    simp only [run, Transfer.step, hlast, map_some, hreceive, bind_some]
  · simpa [chunk] using hdata
  · rintro ⟨rest, hrest⟩
    rw [← hrest] at hhead
    simp [hdata, chunk] at hhead

end LinkSocks
