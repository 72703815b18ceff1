import LinkSocks.Channel.Ordered
import LinkSocks.Net.InOrder

/-!
# Writes that are tried again

`writeWithTransportGrace` calls `WriteMessage` until it succeeds, and each call gives the
data a new number.  A number whose message was never sent leaves a gap that the receiving
end does not get over.  When the first attempt of every call succeeds, be it through the
fallback, each payload is taken in once and nothing stalls.
-/

namespace LinkSocks

open Go Net List Function

/-! ## Numbers on their way -/

def numberOf : BaseMessage → Option ℕ
  | .data m => some m.sequence.toNat
  | _ => none

def numbersOf (msgs : List BaseMessage) : List ℕ := msgs.filterMap numberOf

namespace Transfer

/-- The numbers that a wire still has to deliver. -/
def inTransit (s : Transfer) (w : Writer) : List ℕ := numbersOf ((s.wires w).drop (s.cursor w))

/-- With what the wire delivers, and then the numbers in `owed`, the receiving
end gets everything that was written. -/
def Reaches (s : Transfer) (w : Writer) (owed : List ℕ) : Prop :=
  Net.drain s.queue.length (s.inTransit w ++ owed) = s.written.length

def Settled (s : Transfer) : Prop := ∃ w, s.channel.writer = some w ∧ s.Reaches w []

/-! ## The condition -/

/-- Data is written with grace, no path is switched and nobody else closes the channel, wires
deliver everything in order to a queue with room, and only what was taken in is acknowledged.
There are numbers left. -/
def recovers (s : Transfer) : TransferAction → Bool
  | .call _ (.writeWithTransportGrace _) => true
  | .call _ (.writeMessage (.data _)) => false
  | .call _ (.writeMessage _) => true
  | .call _ _ => false
  | .step _ _ => decide (s.written.length + 1 < 2 ^ 64)
  | .acknowledge sequence => decide (sequence ≤ s.peer.received)
  | .close => false
  | .deliver w n room => decide (n = s.cursor w) && room

/-- A link that fails in `WriteMessage` is made up for by the fallback: the
message that announces it, the replay and the second write succeed. -/
def firstAttempt (s : Transfer) : TransferAction → Bool
  | .step i (.written ok _) =>
    match s.threads i with
    | .migrate _ _ _ | .replay _ _ _ | .writeAgain _ _ => ok
    | _ => true
  | _ => true

/-! ## The invariant -/

/-- Where a goroutine can be while it does not hold `writeMu`. -/
def Outside : ChannelPC → Prop
  | .idle => True
  | .lock msg retry again => again = false ∧ (∀ data, msg = .data data → retry.isSome = true)
  | _ => False

/-- What is true of the goroutine that holds `writeMu`. -/
def Phase (s : Transfer) : ChannelPC → Prop
  | .assign msg retry again =>
    (again = false ∧ (∀ data, msg = .data data → retry.isSome = true)) ∧ s.Settled
  | .write call w =>
    call.migration = true ∧ ∃ w', w = some w' ∧
      s.channel.writer = some w' ∧ s.Reaches w' (numbersOf [call.msg])
  | .switchToFallback _ (.write call) => call.migration = true
  | .migrate w _ (.write call) => call.migration = true ∧ s.channel.writer = some w
  | .replayPending (.write call) => call.migration = true ∧ s.channel.writer.isSome = true
  | .pendingMessages w (.write call) => call.migration = true ∧ s.channel.writer = some w
  | .replay w rest (.write call) =>
    call.migration = true ∧ s.channel.writer = some w ∧ s.Reaches w (numbersOf (rest.map .data))
  | .currentWriter call => (∀ data, call.msg ≠ .data data) ∧ s.Settled
  | .writeAgain call w =>
    (∀ data, call.msg ≠ .data data) ∧ s.channel.writer = some w ∧ s.Reaches w []
  | _ => False

def assignedNumber : SequenceEvent → Option UInt64
  | .assigned n => some n
  | .acknowledged _ => none

/-- The part of the invariant that goroutines do not change, apart from the one
that assigns a number. -/
structure Base (s : Transfer) : Prop where
  short : s.written.length < 2 ^ 64
  isOpen : s.channel.closed = false
  fallback : s.channel.fallback.isSome = true
  requested : s.requested = s.written
  assigned : s.events.filterMap assignedNumber = s.written.map (·.sequence)
  retained : ∀ n m, s.queue.length ≤ n → s.written[n]? = some m →
    s.channel.pending.lookup m.sequence = some m

structure Control (s : Transfer) : Prop where
  cursor : ∀ w, s.cursor w ≤ (s.wires w).length
  outside : ∀ i, s.writeMu ≠ some i → Outside (s.threads i)
  free : s.writeMu = none → s.Settled
  holder : ∀ i, s.writeMu = some i → s.Phase (s.threads i)

structure Intact (s : Transfer) : Prop where
  numbered : s.Numbered
  base : s.Base
  control : s.Control

structure RetryInitial (s : Transfer) : Prop where
  initial : s.Initial
  isOpen : s.channel.closed = false
  writer : s.channel.writer.isSome = true
  fallback : s.channel.fallback.isSome = true
  writeMu : s.writeMu = none
  cursor : ∀ w, s.cursor w = 0
  requested : s.requested = []

theorem intact_initial {s : Transfer} (h : s.RetryInitial) : s.Intact where
  numbered := numbered_initial h.initial
  base := by
    refine ⟨?_, h.isOpen, h.fallback, ?_, ?_, ?_⟩
    · simp [h.initial.written]
    · rw [h.requested, h.initial.written]
    · simp [h.initial.events, h.initial.written]
    · simp [h.initial.written]
  control := by
    refine ⟨?_, ?_, ?_, ?_⟩
    · simp [h.cursor]
    · simp [h.initial.threads, Outside]
    · intro _
      obtain ⟨w, hw⟩ := Option.isSome_iff_exists.mp h.writer
      refine ⟨w, hw, ?_⟩
      simp [Reaches, inTransit, numbersOf, h.initial.wires, h.initial.queue, h.initial.written]
    · simp [h.writeMu]

section Steps

variable {s s₀ s' : Transfer} {i : ℕ} {msg : BaseMessage} {w : Writer}
  {owed : List ℕ} {label : ChannelLabel} {call : WriteCall} {m : DataMessage}

theorem numbersOf_append (msgs later : List BaseMessage) :
    numbersOf (msgs ++ later) = numbersOf msgs ++ numbersOf later := filterMap_append

section

variable (h : s.Numbered) (hshort : s.written.length < 2 ^ 64)
include h hshort

theorem Numbered.toNat_sequence {n : ℕ}
    (hm : s.written[n]? = some m) : m.sequence.toNat = n + 1 := by
  have hlt := (List.getElem?_eq_some_iff.mp hm).1
  rw [h.numbers n m hm, UInt64.toNat_ofNat', Nat.mod_eq_of_lt (by omega)]

theorem Numbered.toNat_le (hm : m ∈ s.written) : m.sequence.toNat ≤ s.written.length := by
  obtain ⟨n, hn⟩ := List.getElem?_of_mem hm
  have hlt := (List.getElem?_eq_some_iff.mp hn).1
  rw [h.toNat_sequence hshort hn]
  exact hlt

theorem Numbered.numbersOf_le {msgs : List BaseMessage}
    (hmsgs : ∀ m, .data m ∈ msgs → m ∈ s.written) : ∀ n ∈ numbersOf msgs, n ≤ s.written.length := by
  intro n hn
  obtain ⟨msg, hmem, hnumber⟩ := mem_filterMap.mp hn
  cases msg with
  | data m =>
    cases hnumber
    exact h.toNat_le hshort (hmsgs m hmem)
  | _ => cases hnumber

theorem Numbered.inTransit_le (w : Writer) : ∀ n ∈ s.inTransit w, n ≤ s.written.length :=
  h.numbersOf_le hshort fun m hm => h.wires w m (mem_of_mem_drop hm)

end

/-! ## Numbers and retained data -/

open LogicalChannelState

theorem Base.of_keepsData {channel : LogicalChannelState} (h : s.Base)
    (hcore : s'.core = { s with channel := channel }.core)
    (hkeeps : s.channel.KeepsData channel) : s'.Base := by
  simp only [core, Prod.mk.injEq] at hcore
  obtain ⟨hchannel, -, hqueue, -, hwritten, hrequested, hevents⟩ := hcore
  refine ⟨?_, ?_, ?_, ?_, ?_, ?_⟩
  · exact hwritten ▸ h.short
  · rw [hchannel, hkeeps.closed, h.isOpen]
  · rw [hchannel, hkeeps.fallback, h.fallback]
  · rw [hrequested, hwritten, h.requested]
  · rw [hevents, hwritten, h.assigned]
  · rw [hqueue, hwritten, hchannel, hkeeps.pending]
    exact h.retained

theorem Base.assign {data : DataMessage} {retry : Option DataMessage}
    (h : s.Base) (hnumbered : s.Numbered)
    (hshort : s.written.length + 1 < 2 ^ 64) (hretry : retry.isSome = true) :
    (s.assign i (.data data) retry false).Base := by
  have hsequence := hnumbered.assign_sequence data
  have hmigration := hnumbered.migration
  have hwritten := assign_written i data retry false h.isOpen
  have hchannel := assign_channel i data retry false h.isOpen
  have hevents := assign_events i data retry false h.isOpen hmigration
  have hframe := assign_frame i data retry false h.isOpen
  obtain ⟨-, -, -, hfallback, hclosed⟩ := assign_keeps s.channel data
  obtain ⟨-, -, hpending⟩ := assign_on data hmigration
  refine ⟨?_, ?_, ?_, ?_, ?_, ?_⟩
  · rw [hwritten, length_append]
    exact hshort
  · rw [hchannel, hclosed, h.isOpen]
  · rw [hchannel, hfallback, h.fallback]
  · simp [Transfer.assign, h.isOpen, hretry, h.requested]
  · rw [hwritten, map_append, ← h.assigned, hevents]
    simp [assignedNumber]
  · intro n m hn hm
    rw [hwritten] at hm
    rw [hchannel, hpending]
    rw [hframe.2.2.1] at hn
    rw [getElem?_append] at hm
    split at hm
    · have hne : m.sequence ≠ (s.channel.assign data).2.sequence := by
        rw [hnumbered.numbers n m hm, hsequence]
        intro heq
        exact absurd (ofNat_succ_inj (by omega) hshort heq) (by omega)
      rw [AList.lookup_insert_ne hne]
      exact h.retained n m hn hm
    · have hlast : m = (s.channel.assign data).2 := mem_singleton.mp (mem_of_getElem? hm)
      rw [hlast]
      exact AList.lookup_insert _

/-- A step keeps the numbers in order; data is written once for each call. -/
theorem Base.stepThread (h : s.Base)
    (hnumbered : s.Numbered) (hshort : s.written.length + 1 < 2 ^ 64)
    (hassign : ∀ data retry again, s.threads i = .assign (.data data) retry again →
      again = false ∧ retry.isSome = true)
    (hstep : s.stepThread i (s.threads i) label = some s') : s'.Base := by
  obtain ⟨channel, hcore, hkeeps⟩ | ⟨data, retry, again, hpc, -, rfl⟩ :=
    (stepThread_spec hstep).core
  · exact h.of_keepsData hcore hkeeps
  · obtain ⟨rfl, hretry⟩ := hassign data retry again hpc
    exact h.assign hnumbered hshort hretry

theorem Numbered.deliverData_advance (h : s.Numbered)
    (hshort : s.written.length < 2 ^ 64) (hm : m ∈ s.written) :
    (s.deliverData m true).queue.length = Net.advance s.queue.length m.sequence.toNat := by
  rw [Transfer.deliverData, Net.advance]
  split
  · rename_i hreject
    -- the next number would have been taken in
    rw [if_neg]
    intro hnext
    have hle := h.toNat_le hshort hm
    have hreceived : s.peer.received.toNat = s.queue.length := by
      rw [(h.queue hshort).2, UInt64.toNat_ofNat', Nat.mod_eq_of_lt (by omega)]
    have hne : m.sequence ≠ 0 := by
      intro hzero
      rw [hzero] at hnext
      simp at hnext
    have hlt : s.peer.received < m.sequence := by
      rw [UInt64.lt_iff_toNat_lt]
      omega
    have hsucc : m.sequence = s.peer.received + 1 := by
      rw [← UInt64.toNat_inj, UInt64.toNat_add, UInt64.toNat_one]
      omega
    have haccept : s.peer.acceptData m.sequence = some { s.peer with received := m.sequence } :=
      (acceptData_sequenced hne).mpr ⟨hlt, hsucc, rfl⟩
    rw [hreject] at haccept
    cases haccept
  · rename_i peer haccept
    have hnext := (h.accepted hshort hm haccept).1
    rw [h.toNat_sequence hshort hnext]
    simp

/-! ## Messages on the wires -/

theorem wires_length_le_attempt (w w' : Writer) (msg : BaseMessage) (ok taken : Bool) :
    (s.wires w').length ≤ ((s.attempt w msg ok taken).wires w').length := by
  rw [attempt]
  split
  · by_cases hw : w' = w
    · subst hw
      simp [send]
    · simp [send, hw]
  · exact le_rfl

theorem Reaches.attempt {taken : Bool} (hcursor : s.cursor w ≤ (s.wires w).length)
    (h : s.Reaches w (numbersOf [msg] ++ owed)) : (s.attempt w msg true taken).Reaches w owed := by
  have htransit : (s.attempt w msg true taken).inTransit w = s.inTransit w ++ numbersOf [msg] := by
    rw [inTransit, inTransit, ← numbersOf_append]
    simp [Transfer.attempt, send, drop_append_of_le_length hcursor]
  rw [Reaches, htransit, append_assoc]
  exact h

theorem Reaches.attempt_control {ok taken : Bool} (hcursor : s.cursor w ≤ (s.wires w).length)
    (hmsg : ∀ data, msg ≠ .data data) (h : s.Reaches w owed) :
    (s.attempt w msg ok taken).Reaches w owed := by
  have hnumber : numbersOf [msg] = [] := by
    cases msg <;> first | rfl | exact absurd rfl (hmsg _)
  by_cases htaken : (ok || taken) = true
  · have hattempt : s.attempt w msg ok taken = s.attempt w msg true taken := by
      simp [Transfer.attempt, htaken]
    rw [hattempt]
    exact Reaches.attempt hcursor (by rwa [hnumber])
  · rw [Transfer.attempt, if_neg htaken]
    exact h

/-- The channel and the wires may have changed, the goroutines have not. -/
structure Extends (s s₀ : Transfer) : Prop where
  writeMu : s₀.writeMu = s.writeMu
  threads : s₀.threads = s.threads
  cursor : s₀.cursor = s.cursor
  wires : ∀ w, (s.wires w).length ≤ (s₀.wires w).length

theorem extends_self (s : Transfer) : s.Extends s := ⟨rfl, rfl, rfl, fun _ => le_rfl⟩

theorem extends_attempt (s : Transfer) (w : Writer) (msg : BaseMessage)
    (ok taken : Bool) : s.Extends (s.attempt w msg ok taken) := by
  refine ⟨?_, attempt_threads .., ?_, fun w' => wires_length_le_attempt ..⟩
  all_goals
    rw [Transfer.attempt]
    split <;> rfl

theorem Control.cursor_extends (h : s.Control) (hext : s.Extends s₀) (w : Writer) :
    s₀.cursor w ≤ (s₀.wires w).length := by
  rw [hext.cursor]
  exact (h.cursor w).trans (hext.wires w)

theorem Control.goto {pc : ChannelPC} (h : s.Control)
    (hmu : s.writeMu = some i) (hext : s.Extends s₀) (hphase : s₀.Phase pc) :
    (s₀.setThread i pc).Control where
  cursor := by
    have hcursor := h.cursor_extends hext
    exact hcursor
  outside := by
    intro j hj
    have hj' : s.writeMu ≠ some j := fun heq => hj (hext.writeMu.trans heq)
    have hne : j ≠ i := fun heq => hj' (heq ▸ hmu)
    rw [setThread_of_ne s₀ pc hne, hext.threads]
    exact h.outside j hj'
  free := by
    intro hfree
    cases hmu.symm.trans (hext.writeMu.symm.trans hfree)
  holder := by
    intro j hj
    cases hmu.symm.trans (hext.writeMu.symm.trans hj)
    rw [setThread_self]
    exact hphase

theorem Control.unlock (h : s.Control) (hmu : s.writeMu = some i)
    (hext : s.Extends s₀) (hsettled : s₀.Settled) : (s₀.unlock i .idle).Control where
  cursor := by
    have hcursor := h.cursor_extends hext
    exact hcursor
  outside := by
    intro j _
    by_cases hne : j = i
    · subst hne
      rw [Transfer.unlock, setThread_self]
      trivial
    · have hj : s.writeMu ≠ some j := by
        rw [hmu]
        exact fun heq => hne (Option.some.inj heq).symm
      have hthread : (s₀.unlock i .idle).threads j = s.threads j := by
        rw [← hext.threads]
        exact setThread_of_ne s₀ .idle hne
      rw [hthread]
      exact h.outside j hj
  free := fun _ => hsettled
  holder := by simp [Transfer.unlock]

/-! ## Steps inside the critical section -/

section

variable (h : s.Intact)
include h

theorem Intact.assign {retry : Option DataMessage} {again : Bool} (hmu : s.writeMu = some i)
    (hpc : s.threads i = .assign msg retry again) (hshort : s.written.length + 1 < 2 ^ 64) :
    (s.assign i msg retry again).Control := by
  have hphase := h.control.holder i hmu
  rw [hpc] at hphase
  obtain ⟨-, w, hw, hreaches⟩ := hphase
  by_cases hmsg : ∃ data, msg = .data data
  · obtain ⟨data, rfl⟩ := hmsg
    obtain ⟨m, hm⟩ : ∃ m, m = (s.channel.assign data).2 := ⟨_, rfl⟩
    have hnumber : m.sequence.toNat = s.written.length + 1 := by
      rw [hm, h.numbered.assign_sequence data, UInt64.toNat_ofNat', Nat.mod_eq_of_lt hshort]
    have hassign : s.assign i (.data data) retry again = Transfer.setThread { s with
            channel := (s.channel.assign data).1
            written := s.written ++ [m]
            requested := (s.assign i (.data data) retry again).requested
            events := (s.assign i (.data data) retry again).events } i
          (.write ⟨.data m, s.channel.migration, retry⟩ s.channel.writer) := by
      simp [Transfer.assign, h.base.isOpen, hm, setThread]
    have hwriter : (s.channel.assign data).1.writer = some w := by
      rw [(assign_keeps s.channel data).2.2.1, hw]
    rw [hassign]
    refine h.control.goto hmu ⟨rfl, rfl, rfl, fun _ => le_rfl⟩
      ⟨h.numbered.migration, w, hw, hwriter, ?_⟩
    -- the new number comes after all the others
    rw [Reaches, append_nil] at hreaches
    change Net.drain s.queue.length
      (s.inTransit w ++ [m.sequence.toNat]) = (s.written ++ [m]).length
    rw [drain_append, hreaches, hnumber]
    simp [Net.advance]
  · rw [not_exists] at hmsg
    have hnumbers : numbersOf [msg] = [] := by
      cases msg <;> first | rfl | exact absurd rfl (hmsg _)
    rw [assign_control h.base.isOpen hmsg]
    refine h.control.goto hmu (extends_self s) ⟨h.numbered.migration, w, hw, hw, ?_⟩
    rw [hnumbers]
    exact hreaches

/-- The snapshot of the retained data brings the rest. -/
theorem Intact.reaches_pending (w : Writer) :
    s.Reaches w (numbersOf (s.channel.pendingMessages.map .data)) := by
  have hshort := h.base.short
  have hnumbers : numbersOf (s.channel.pendingMessages.map .data) =
      s.channel.pendingMessages.map (·.sequence.toNat) := by
    rw [numbersOf, filterMap_map]
    exact congrFun (filterMap_eq_map' ..) _
  rw [Reaches, hnumbers, drain_append]
  refine drain_of_sorted (drain_le (h.numbered.queue_length_le hshort)
      (h.numbered.inTransit_le hshort w))
    (pendingMessages_sorted _) ?_ ?_
  · intro n hn
    obtain ⟨m, hm, rfl⟩ := mem_map.mp hn
    obtain ⟨k, hk⟩ := mem_pendingMessages.mp hm
    exact h.numbered.toNat_le hshort (h.numbered.pending k m hk)
  · intro n hn hle
    have hqueue := (le_drain s.queue.length (s.inTransit w)).trans_lt hn
    obtain ⟨m, hm⟩ : ∃ m, s.written[n - 1]? = some m :=
      ⟨_, getElem?_eq_getElem (show n - 1 < s.written.length by omega)⟩
    have hretained := h.base.retained (n - 1) m (by omega) hm
    refine mem_map.mpr ⟨m, mem_pendingMessages.mpr ⟨_, hretained⟩, ?_⟩
    rw [h.numbered.toNat_sequence hshort hm]
    omega

section

variable (hmu : s.writeMu = some i)
include hmu

theorem Intact.switched (hmigration : call.migration = true)
    (hw : s.channel.writer = some w) (hreaches : s.Reaches w []) :
    (s.switched i (.write call)).Control := by
  rw [Transfer.switched]
  split
  · exact h.control.unlock hmu (extends_self s) ⟨w, hw, hreaches⟩
  · rename_i hcall
    refine h.control.goto hmu (extends_self s) ⟨?_, w, hw, hreaches⟩
    intro data hdata
    exact hcall data hdata hmigration

/-- The first write: what the link refuses and does not retain stays in hand. -/
theorem Intact.write {w : Option Writer} {ok taken : Bool} (hpc : s.threads i = .write call w)
    (hstep : s.stepThread i (.write call w) (.written ok taken) = some s') : s'.Control := by
  have hcursor := h.control.cursor
  have hphase := h.control.holder i hmu
  rw [hpc] at hphase
  obtain ⟨hmigration, w, rfl, hw, hreaches⟩ := hphase
  simp only [stepThread] at hstep
  have hext := extends_attempt s w call.msg ok taken
  split at hstep
  · rename_i hok
    cases hstep
    subst hok
    exact h.control.unlock hmu hext ⟨w, by simpa using hw,
      Reaches.attempt (hcursor w) (by simpa using hreaches)⟩
  · cases hstep
    rw [writeFailed]
    split
    · rename_i m hmsg
      refine h.control.unlock hmu hext ⟨w, by simpa using hw, ?_⟩
      refine Reaches.attempt_control (hcursor w) (by simp [hmsg]) ?_
      rw [hmsg] at hreaches
      exact hreaches
    · exact h.control.goto hmu hext hmigration

theorem Intact.switchToFallback {reason : Bytes}
    (hpc : s.threads i = .switchToFallback reason (.write call))
    (hstep : s.stepThread i (.switchToFallback reason (.write call)) .next =
      some s') : s'.Control := by
  have hphase := h.control.holder i hmu
  rw [hpc] at hphase
  obtain ⟨w, hw⟩ := Option.isSome_iff_exists.mp h.base.fallback
  have hswitch : s.channel.switchToFallback =
      some ({ s.channel with writer := some w, path := .relay }, w) := by
    simp [LogicalChannelState.switchToFallback, h.base.isOpen, hw]
  simp only [stepThread, hswitch, h.numbered.migration, if_true] at hstep
  cases hstep
  exact h.control.goto hmu ⟨rfl, rfl, rfl, fun _ => le_rfl⟩ ⟨hphase, rfl⟩

/-- A step of the goroutine that holds the lock. -/
theorem Intact.stepHolder
    (hguard : s.recovers (.step i label) = true) (hfirst : s.firstAttempt (.step i label) = true)
    (hstep : s.stepThread i (s.threads i) label = some s') : s'.Control := by
  have hphase := h.control.holder i hmu
  have hcursor := h.control.cursor
  generalize hpc : s.threads i = pc at hphase hstep
  unfold stepThread at hstep
  -- one case for each equation of `stepThread`
  split at hstep
  case h_2 =>
    cases hstep
    exact h.assign hmu hpc (by simpa [recovers] using hguard)
  case h_3 =>
    obtain ⟨-, w, hw, -⟩ := hphase
    cases hw
  case h_4 => exact h.write hmu hpc hstep
  case h_5 reason k =>
    cases k with
    | nothing => exact hphase.elim
    | write call => exact h.switchToFallback hmu hpc hstep
  case h_6 w reason k ok taken =>
    cases k with
    | nothing => exact hphase.elim
    | write call =>
      -- the announcement of a migration carries no data
      obtain rfl : ok = true := by simpa [firstAttempt, hpc] using hfirst
      cases hstep
      exact h.control.goto hmu (extends_attempt ..) ⟨hphase.1, by simp [hphase.2]⟩
  case h_7 k =>
    cases k with
    | nothing => exact hphase.elim
    | write call =>
      obtain ⟨hmigration, hw⟩ := hphase
      obtain ⟨w, hw⟩ := Option.isSome_iff_exists.mp hw
      simp only [hw] at hstep
      cases hstep
      exact h.control.goto hmu (extends_self s) ⟨hmigration, hw⟩
  case h_8 w k =>
    cases k with
    | nothing => exact hphase.elim
    | write call =>
      cases hstep
      exact h.control.goto hmu (extends_self s) ⟨hphase.1, hphase.2, h.reaches_pending w⟩
  case h_9 w k =>
    cases k with
    | nothing => exact hphase.elim
    | write call =>
      cases hstep
      exact h.switched hmu hphase.1 hphase.2.1 hphase.2.2
  case h_10 w m rest k ok taken =>
    cases k with
    | nothing => exact hphase.elim
    | write call =>
      obtain rfl : ok = true := by simpa [firstAttempt, hpc] using hfirst
      obtain ⟨hmigration, hw, hreaches⟩ := hphase
      cases hstep
      exact h.control.goto hmu (extends_attempt ..)
        ⟨hmigration, by simpa using hw, Reaches.attempt (hcursor w) hreaches⟩
  case h_11 call =>
    obtain ⟨hcall, w, hw, hreaches⟩ := hphase
    simp only [hw, Option.map_some] at hstep
    cases hstep
    exact h.control.goto hmu (extends_self s) ⟨hcall, hw, hreaches⟩
  case h_12 call w ok taken =>
    obtain rfl : ok = true := by simpa [firstAttempt, hpc] using hfirst
    obtain ⟨hcall, hw, hreaches⟩ := hphase
    cases hstep
    exact h.control.unlock hmu (extends_attempt ..)
      ⟨w, by simpa using hw, Reaches.attempt_control (hcursor w) hcall hreaches⟩
  case h_22 => cases hstep
  all_goals exact hphase.elim

end

/-! ## Deliveries -/

theorem Intact.receive_queue (hmsg : (s.wires w)[s.cursor w]? = some msg) :
    (s.receive msg true).queue.length = Net.drain s.queue.length (numbersOf [msg]) := by
  cases msg with
  | data m =>
    exact h.numbered.deliverData_advance h.base.short
      (h.numbered.wires w m (mem_of_getElem? hmsg))
  | _ => rfl

/-- A delivery in order brings the receiving end nearer, whichever wire it
comes from. -/
theorem Intact.reaches_deliver {w w' : Writer} (hmsg : (s.wires w)[s.cursor w]? = some msg)
    (howed : ∀ n ∈ owed, n ≤ s.written.length) (hreaches : s.Reaches w' owed) :
    (s.delivered w msg true).Reaches w' owed := by
  have hshort := h.base.short
  rw [Reaches] at hreaches
  rw [delivered_eq]
  change Net.drain (s.receive msg true).queue.length (numbersOf ((s.wires w').drop
    (update s.cursor w (s.cursor w + 1) w')) ++ owed) = s.written.length
  rw [h.receive_queue hmsg]
  by_cases hw : w' = w
  · subst hw
    obtain ⟨hlt, hget⟩ := List.getElem?_eq_some_iff.mp hmsg
    have htransit : s.inTransit w' = numbersOf [msg] ++
        numbersOf ((s.wires w').drop (s.cursor w' + 1)) := by
      rw [inTransit, drop_eq_getElem_cons hlt, hget, ← numbersOf_append]
      rfl
    rw [htransit, append_assoc, drain_append] at hreaches
    rwa [update_self]
  · rw [update_of_ne hw]
    have hmsgs : ∀ n ∈ numbersOf [msg], n ≤ s.written.length := by
      refine h.numbered.numbersOf_le hshort fun m hm => ?_
      have hm' : .data m = msg := mem_singleton.mp hm
      exact h.numbered.wires w m (hm' ▸ mem_of_getElem? hmsg)
    refine drain_eq_of_le (le_drain ..)
      (drain_le (h.numbered.queue_length_le hshort) hmsgs) ?_ hreaches
    intro n hn
    obtain hn | hn := mem_append.mp hn
    · exact h.numbered.inTransit_le hshort w' n hn
    · exact howed n hn

section

variable (hmsg : (s.wires w)[s.cursor w]? = some msg)
include hmsg

theorem Settled.deliver (hsettled : s.Settled) : (s.delivered w msg true).Settled := by
  obtain ⟨w', hw', hreaches⟩ := hsettled
  refine ⟨w', ?_, h.reaches_deliver hmsg (by simp) hreaches⟩
  rw [delivered_eq]
  exact hw'

theorem Phase.deliver {pc : ChannelPC}
    (hinHand : ∀ m, .data m ∈ pc.inHand → m ∈ s.written) (hphase : s.Phase pc) :
    (s.delivered w msg true).Phase pc := by
  have hreaches : ∀ w' owed, (∀ n ∈ owed, n ≤ s.written.length) →
      s.Reaches w' owed → (s.delivered w msg true).Reaches w' owed :=
    fun _ _ => h.reaches_deliver hmsg
  have hchannel : (s.delivered w msg true).channel = s.channel := by
    rw [delivered_eq]
  unfold Phase at hphase
  split at hphase
  · exact ⟨hphase.1, hphase.2.deliver h hmsg⟩
  · obtain ⟨hmigration, w', rfl, hw, hw'⟩ := hphase
    exact ⟨hmigration, w', rfl, hchannel ▸ hw,
      hreaches w' _ (h.numbered.numbersOf_le h.base.short hinHand) hw'⟩
  · exact hphase
  · exact ⟨hphase.1, hchannel ▸ hphase.2⟩
  · exact ⟨hphase.1, hchannel ▸ hphase.2⟩
  · exact ⟨hphase.1, hchannel ▸ hphase.2⟩
  · obtain ⟨hmigration, hw, hw'⟩ := hphase
    refine ⟨hmigration, hchannel ▸ hw, hreaches _ _ ?_ hw'⟩
    exact h.numbered.numbersOf_le h.base.short fun m hm => hinHand m (mem_append_left _ hm)
  · exact ⟨hphase.1, hphase.2.deliver h hmsg⟩
  · obtain ⟨hcall, hw, hw'⟩ := hphase
    exact ⟨hcall, hchannel ▸ hw, hreaches _ [] (by simp) hw'⟩
  · exact hphase.elim

/-- A message reaches the receiver. -/
theorem Intact.deliver
    (hnumbered : (s.delivered w msg true).Numbered) : (s.delivered w msg true).Intact := by
  have hqueue : s.queue.length ≤ (s.receive msg true).queue.length := by
    rw [h.receive_queue hmsg]
    exact le_drain ..
  have hsettled := fun h' : s.Settled => h'.deliver h hmsg
  have hphase := fun i hi => Phase.deliver h hmsg (h.numbered.inHand i) (h.control.holder i hi)
  refine ⟨hnumbered, ?_, ?_⟩ <;> rw [delivered_eq] at *
  · exact { h.base with
      retained := fun n m hn => h.base.retained n m (hqueue.trans hn) }
  · refine ⟨?_, h.control.outside, fun hfree => hsettled (h.control.free hfree), hphase⟩
    refine forall_update_iff s.cursor
      (fun w' n => n ≤ (s.wires w').length) |>.mpr ⟨?_, fun w' _ => h.control.cursor w'⟩
    exact (List.getElem?_eq_some_iff.mp hmsg).1

end

/-- A step of another goroutine. -/
theorem Intact.stepOutside (hmu : s.writeMu ≠ some i)
    (hstep : s.stepThread i (s.threads i) label = some s') : s'.Control := by
  have houtside := h.control.outside i hmu
  generalize hpc : s.threads i = pc at houtside hstep
  unfold stepThread at hstep
  split at hstep
  case h_1 msg retry again =>
    split at hstep <;> cases hstep
    rename_i hfree
    refine ⟨h.control.cursor, ?_, by simp, ?_⟩
    · intro j hj
      have hne : j ≠ i := fun heq => hj (heq ▸ rfl)
      have hthread := setThread_of_ne s (.assign msg retry again) hne
      exact hthread ▸ h.control.outside j (by simp [hfree])
    · intro j hj
      cases hj
      have hphase : s.Phase (.assign msg retry again) := ⟨houtside, h.control.free hfree⟩
      have hthread := setThread_self s i (.assign msg retry again)
      exact hthread.symm ▸ hphase
  case h_22 => cases hstep
  all_goals exact houtside.elim

/-- Every step in which writes recover and are tried once. -/
theorem intact_step {a : TransferAction}
    (hguard : s.recovers a = true) (hfirst : s.firstAttempt a = true)
    (hstep : s.step a = some s') : s'.Intact := by
  have hnumbered := numbered_step h.numbered hstep
  cases a with
  | call i op =>
    simp only [step] at hstep
    split at hstep <;> cases hstep
    rename_i hidle
    have hmu : s.writeMu ≠ some i := by
      intro hmu
      have hphase := h.control.holder i hmu
      simp [hidle, Phase] at hphase
    have houtside : Outside op.entry := by
      cases op with
      | writeWithTransportGrace data => simp [ChannelOp.entry, Outside]
      | writeMessage msg =>
        refine ⟨rfl, fun data hdata => ?_⟩
        subst hdata
        cases hguard
      | _ => cases hguard
    refine ⟨hnumbered, { h.base with }, h.control.cursor, ?_, h.control.free, ?_⟩
    · intro j hj
      by_cases hne : j = i
      · subst hne
        rw [setThread_self]
        exact houtside
      · rw [setThread_of_ne s _ hne]
        exact h.control.outside j hj
    · intro j hj
      have hne : j ≠ i := fun heq => hmu (heq ▸ hj)
      rw [setThread_of_ne s _ hne]
      exact h.control.holder j hj
  | step i label =>
    have hshort : s.written.length + 1 < 2 ^ 64 := by
      simpa [recovers] using hguard
    by_cases hmu : s.writeMu = some i
    · refine ⟨hnumbered, ?_, h.stepHolder hmu hguard hfirst hstep⟩
      refine h.base.stepThread h.numbered hshort ?_ hstep
      intro data retry again hpc
      have hphase := h.control.holder i hmu
      rw [hpc] at hphase
      exact ⟨hphase.1.1, hphase.1.2 data rfl⟩
    · refine ⟨hnumbered, ?_, h.stepOutside hmu hstep⟩
      refine h.base.stepThread h.numbered hshort ?_ hstep
      intro data retry again hpc
      have houtside := h.control.outside i hmu
      simp [hpc, Outside] at houtside
  | acknowledge sequence =>
    cases hstep
    refine ⟨hnumbered, { h.base with assigned := ?_, retained := ?_ }, { h.control with }⟩
    · rw [filterMap_append]
      exact (append_nil _).trans h.base.assigned
    · intro n m hn hm
      have hne : m.sequence ≠ sequence := by
        intro heq
        have hle : sequence ≤ s.peer.received := by simpa [recovers] using hguard
        have hnumber := h.numbered.toNat_sequence h.base.short hm
        rw [← heq, (h.numbered.queue h.base.short).2, UInt64.le_iff_toNat_le,
          UInt64.toNat_ofNat'] at hle
        have hn' : s.queue.length ≤ n := hn
        omega
      rw [LogicalChannelState.acknowledge, AList.lookup_erase_ne hne]
      exact h.base.retained n m hn hm
  | close => cases hguard
  | deliver w n room =>
    simp only [recovers, Bool.and_eq_true, decide_eq_true_eq] at hguard
    obtain ⟨rfl, rfl⟩ := hguard
    obtain ⟨msg, hmsg, rfl⟩ := Option.map_eq_some_iff.mp hstep
    exact h.deliver hmsg hnumbered

end

end Steps

end Transfer

/-- In every run of a channel with migration on in which the first attempt of every
`WriteMessage` succeeds, if need be through the fallback: each call of `writeWithTransportGrace`
has added one entry; the receiving end has taken in the first payloads, each once; and when no
write is under way and the current wire is drained, it has taken in all of them. -/
theorem run_written_once (s : Transfer) (hinit : s.RetryInitial) (actions : List TransferAction)
    (hguard : Guarded Transfer.step
      (fun s a => s.recovers a = true ∧ s.firstAttempt a = true) s actions)
    (t : Transfer) (hrun : run Transfer.step s actions = some t) :
    t.events.filterMap Transfer.assignedNumber = t.requested.map (·.sequence) ∧
    t.written = t.requested ∧ t.queue <+: t.requested ∧
    (t.writeMu = none → (∀ w, t.channel.writer = some w → t.cursor w = (t.wires w).length) →
      t.queue = t.requested) := by
  have h : t.Intact :=
    run_invariant (fun _ _ _ h hguard => Transfer.intact_step h hguard.1 hguard.2)
      (Transfer.intact_initial hinit) hguard hrun
  have hqueue := (h.numbered.queue h.base.short).1
  rw [h.base.requested]
  refine ⟨h.base.assigned, rfl, ?_, ?_⟩
  · rw [hqueue]
    exact List.take_prefix ..
  · intro hfree hdrained
    obtain ⟨w, hw, hreaches⟩ := h.control.free hfree
    have htransit : t.inTransit w = [] := by
      rw [Transfer.inTransit, hdrained w hw, drop_length]
      rfl
    have hlength : t.queue.length = t.written.length := by
      simpa [Transfer.Reaches, htransit] using hreaches
    rw [hqueue, hlength, take_length]

/-! ## Two runs -/

theorem freshTransfer_retryInitial : freshTransfer.RetryInitial :=
  ⟨freshTransfer_initial, rfl, rfl, rfl, rfl, fun _ => rfl, rfl⟩

/-- The queue, the data of all attempts and of all calls, the retained numbers,
and whether the relay has delivered everything. -/
structure RetryOutcome where
  queue : List Bytes
  attempts : List Bytes
  calls : List Bytes
  retained : List UInt64
  drained : Bool
  deriving DecidableEq

def retried (actions : List TransferAction) : Option RetryOutcome :=
  (run Transfer.step freshTransfer actions).map fun t =>
    ⟨t.queue.map (·.data), t.written.map (·.data), t.requested.map (·.data),
      t.channel.pending.keys, t.cursor 0 = (t.wires 0).length⟩

def fallbackRun : List TransferAction :=
  [.call 0 (.writeWithTransportGrace (chunk 1)), .step 0 .next, .step 0 .next,
    .step 0 (.written false false), .step 0 .next, .step 0 (.written true true),
    .step 0 .next, .step 0 .next, .step 0 (.written true true), .step 0 .next,
    .deliver 0 0 true, .deliver 0 1 true]

theorem fallbackRun_written_once : freshTransfer.RetryInitial ∧ Guarded Transfer.step
      (fun s a => s.recovers a = true ∧ s.firstAttempt a = true) freshTransfer fallbackRun ∧
    retried fallbackRun = some ⟨[[1]], [[1]], [[1]], [1], true⟩ ∧
    ∃ t, run Transfer.step freshTransfer fallbackRun = some t ∧ t.queue <+: t.requested := by
  refine ⟨freshTransfer_retryInitial, ?guard, ?_, of_run_isSome ?_ fun t ht =>
    ⟨t, ht, (run_written_once _ freshTransfer_retryInitial _ ?guard t ht).2.2.1⟩⟩
  all_goals decide +kernel

/-- The link fails, and so does the announcement.  The second attempt succeeds,
and after it the write of another payload; everything is delivered. -/
def stalledRun : List TransferAction :=
  [.call 0 (.writeWithTransportGrace (chunk 1)), .step 0 .next, .step 0 .next,
    .step 0 (.written false false), .step 0 .next, .step 0 (.written false false),
    .step 0 .next, .step 0 .next, .step 0 .next, .step 0 (.written true true), .deliver 0 0 true,
    .call 0 (.writeWithTransportGrace (chunk 2)), .step 0 .next, .step 0 .next,
    .step 0 (.written true true), .deliver 0 1 true]

/-- Both calls have returned without an error, nothing is on its way, and neither payload was
taken in: number one was never sent.  The first call has added two entries. -/
theorem stalledRun_takes_in_nothing : retried stalledRun =
      some ⟨[], [[1], [1], [2]], [[1], [2]], [3, 2, 1], true⟩ := by
  decide +kernel

end LinkSocks
