import LinkSocks.Channel.Logical
import LinkSocks.Go.Machine

/-!
# Two goroutines that take in data

The dispatcher of the relay link and the read loop of a direct stream deliver data of one
channel at the same time.  Taking a number in, placing the data on the queue and giving the
number back are separate critical sections, and only the last number can be given back.  A
goroutine that is overtaken before it gives its number back leaves a gap.
-/

namespace LinkSocks

open Go Option

inductive DeliveryPC where
  | idle
  | acceptData (m : DataMessage)
  | isDuplicate (m : DataMessage)
  | acknowledge (m : DataMessage)
  | loadQueue (m : DataMessage)
  | send (m : DataMessage)
  | rejectData (m : DataMessage)

/-- What a goroutine does not decide itself: whether the channel has a queue,
and whether the queue has room. -/
inductive DeliveryLabel where
  | next
  | found (queue : Bool)
  | room (free : Bool)

/-- The receiving end of a channel. -/
structure Reception where
  channel : LogicalChannelState
  threads : ℕ → DeliveryPC
  /-- History: the data placed on the queue. -/
  placed : List DataMessage
  /-- History: the acknowledgements written for duplicates. -/
  acknowledged : List UInt64

namespace Reception

def setThread (s : Reception) (i : ℕ) (pc : DeliveryPC) : Reception :=
  { s with threads := Function.update s.threads i pc }

theorem setThread_self (s : Reception) (i : ℕ) (pc : DeliveryPC) :
    (s.setThread i pc).threads i = pc := Function.update_self ..

theorem setThread_of_ne (s : Reception) {i j : ℕ} (pc : DeliveryPC)
    (h : j ≠ i) : (s.setThread i pc).threads j = s.threads j := Function.update_of_ne h ..

/-- `acknowledgeMessage`; without migration nothing is written. -/
def acknowledge (s : Reception) (sequence : UInt64) : Reception :=
  if s.channel.migration then { s with acknowledged := s.acknowledged ++ [sequence] }
  else s

def stepThread (s : Reception) (i : ℕ) : DeliveryPC → DeliveryLabel → Option Reception
  | .acceptData m, .next =>
    match s.channel.acceptData m.sequence with
    | none => some (s.setThread i (.isDuplicate m))
    | some channel => some { s.setThread i (.loadQueue m) with channel := channel }
  | .isDuplicate m, .next =>
    some (s.setThread i (if s.channel.isDuplicate m.sequence then .acknowledge m else .idle))
  | .acknowledge m, .next => some ((s.acknowledge m.sequence).setThread i .idle)
  | .loadQueue m, .found queue => some (s.setThread i (if queue then .send m else .rejectData m))
  | .send m, .room free =>
    if free then some { s.setThread i .idle with placed := s.placed ++ [m] }
    else some (s.setThread i (.rejectData m))
  | .rejectData m, .next =>
    some { s.setThread i .idle with channel := s.channel.rejectData m.sequence }
  | _, _ => none

end Reception

inductive ReceptionAction where
  | call (i : ℕ) (m : DataMessage)
  | step (i : ℕ) (label : DeliveryLabel)

def Reception.step (s : Reception) : ReceptionAction → Option Reception
  | .call i m =>
    match s.threads i with
    | .idle => some (s.setThread i (.acceptData m))
    | _ => none
  | .step i label => s.stepThread i (s.threads i) label

/-! ## Every number once -/

/-- The number that a goroutine has taken in and neither placed nor given
back. -/
def DeliveryPC.number : DeliveryPC → Option UInt64
  | .loadQueue m | .send m | .rejectData m => if m.sequence = 0 then none else some m.sequence
  | _ => none

namespace Reception

/-- How often a number was placed on the queue. -/
def placedCount (s : Reception) (n : UInt64) : ℕ := (s.placed.map (·.sequence)).count n

/-- Every number up to the counter has been placed once, unless its delivery is under way; no
other has been placed. -/
structure GapFree (s : Reception) : Prop where
  placed : ∀ n, n ≠ 0 → n ≤ s.channel.received →
    (∀ i, (s.threads i).number ≠ some n) → s.placedCount n = 1
  underWay : ∀ i n, (s.threads i).number = some n → s.placedCount n = 0
  beyond : ∀ n, s.channel.received < n → s.placedCount n = 0

/-- A number is given back while it is the last that was taken in. -/
def givesBackLast (s : Reception) : ReceptionAction → Bool
  | .call _ _ => true
  | .step i _ =>
    match s.threads i with
    | .rejectData m => decide (m.sequence = 0) || decide (s.channel.received = m.sequence)
    | _ => true

/-- Numbers that are under way have been taken in, each by one goroutine. -/
structure Accounted (s : Reception) : Prop where
  gapFree : s.GapFree
  le : ∀ i n, (s.threads i).number = some n → n ≤ s.channel.received
  unique : ∀ i j n, (s.threads i).number = some n → (s.threads j).number = some n → i = j

structure Initial (s : Reception) : Prop where
  received : s.channel.received = 0
  threads : ∀ i, s.threads i = .idle
  placed : s.placed = []

theorem accounted_initial {s : Reception} (h : s.Initial) : s.Accounted where
  gapFree := by
    refine ⟨?_, ?_, ?_⟩
    · intro n hne hle
      rw [h.received, UInt64.le_iff_toNat_le] at hle
      exact absurd (UInt64.toNat_inj.mp (Nat.le_zero.mp hle)) hne
    · simp [h.threads, DeliveryPC.number]
    · simp [placedCount, h.placed]
  le := by simp [h.threads, DeliveryPC.number]
  unique := by simp [h.threads, DeliveryPC.number]

section Steps

variable {s s' : Reception} {i : ℕ} {pc : DeliveryPC} {m : DataMessage}

theorem number_ne_zero {n : UInt64} (h : pc.number = some n) : n ≠ 0 := by
  unfold DeliveryPC.number at h
  all_goals grind

theorem le_next_iff {n received sequence : UInt64} (hlt : received < sequence)
    (hnext : sequence = received + 1) : n ≤ sequence ↔ n ≤ received ∨ n = sequence := by
  have hsucc : sequence.toNat = received.toNat + 1 := by
    have hle := UInt64.lt_iff_toNat_lt.mp hlt
    have hmod := congrArg UInt64.toNat hnext
    rw [UInt64.toNat_add, UInt64.toNat_one] at hmod
    omega
  rw [UInt64.le_iff_toNat_le, UInt64.le_iff_toNat_le, ← UInt64.toNat_inj]
  omega

theorem le_sub_one_iff {n sequence : UInt64} (hne : sequence ≠ 0) :
    n ≤ sequence - 1 ↔ n ≤ sequence ∧ n ≠ sequence := by
  have hpos : sequence.toNat ≠ 0 := fun h => hne (UInt64.toNat_inj.mp h)
  have hle : (1 : UInt64) ≤ sequence := by
    rw [UInt64.le_iff_toNat_le, UInt64.toNat_one]
    omega
  rw [UInt64.le_iff_toNat_le, UInt64.le_iff_toNat_le, Ne, ← UInt64.toNat_inj,
    UInt64.toNat_sub_of_le _ _ hle, UInt64.toNat_one]
  omega

theorem Accounted.of_same (h : s.Accounted) (hreceived : s'.channel.received = s.channel.received)
    (hplaced : s'.placed = s.placed) (hnumber : ∀ j, (s'.threads j).number = (s.threads j).number) :
    s'.Accounted := by
  refine ⟨⟨?_, ?_, ?_⟩, ?_, ?_⟩ <;> simp only [placedCount, hreceived, hplaced, hnumber]
  · exact h.gapFree.placed
  · exact h.gapFree.underWay
  · exact h.gapFree.beyond
  · exact h.le
  · exact h.unique

theorem Accounted.setThread (h : s.Accounted)
    (hpc : pc.number = (s.threads i).number) : (s.setThread i pc).Accounted := by
  refine h.of_same rfl rfl fun j => ?_
  by_cases hj : j = i
  · rw [hj, setThread_self, hpc]
  · rw [setThread_of_ne s pc hj]

theorem Accounted.accept {channel : LogicalChannelState}
    (h : s.Accounted) (hnone : (s.threads i).number = none) (hne : m.sequence ≠ 0)
    (haccept : s.channel.acceptData m.sequence = some channel) :
    { s.setThread i (.loadQueue m) with channel := channel }.Accounted := by
  obtain ⟨hlt, hnext, rfl⟩ := (LogicalChannelState.acceptData_sequenced hne).mp haccept
  have hself : ((s.setThread i (.loadQueue m)).threads i).number = some m.sequence := by
    rw [setThread_self]
    exact if_neg hne
  have hothers : ∀ j n, j ≠ i → ((s.setThread i (.loadQueue m)).threads j).number = some n →
      (s.threads j).number = some n ∧ n ≠ m.sequence := by
    intro j n hj hn
    rw [setThread_of_ne s _ hj] at hn
    refine ⟨hn, fun heq => ?_⟩
    have hle := h.le j n hn
    rw [heq] at hle
    exact UInt64.not_lt.mpr hle hlt
  refine ⟨⟨?_, ?_, ?_⟩, ?_, ?_⟩
  · intro n hn hle hidle
    obtain hle | rfl := (le_next_iff hlt hnext).mp hle
    · refine h.gapFree.placed n hn hle fun j hj => ?_
      by_cases hji : j = i
      · rw [hji, hnone] at hj
        cases hj
      · refine hidle j ?_
        rwa [setThread_of_ne s _ hji]
    · exact absurd hself (hidle i)
  · intro j n hn
    by_cases hj : j = i
    · rw [hj, hself] at hn
      cases hn
      exact h.gapFree.beyond _ hlt
    · exact h.gapFree.underWay j n (hothers j n hj hn).1
  · intro n hn
    exact h.gapFree.beyond n (UInt64.lt_trans hlt hn)
  · intro j n hn
    refine (le_next_iff hlt hnext).mpr ?_
    by_cases hj : j = i
    · rw [hj, hself] at hn
      exact .inr (some.inj hn).symm
    · exact .inl (h.le j n (hothers j n hj hn).1)
  · intro j k n hj hk
    by_cases hji : j = i <;> by_cases hki : k = i
    · rw [hji, hki]
    · rw [hji, hself] at hj
      exact absurd (some.inj hj).symm (hothers k n hki hk).2
    · rw [hki, hself] at hk
      exact absurd (some.inj hk).symm (hothers j n hji hj).2
    · exact h.unique j k n (hothers j n hji hj).1 (hothers k n hki hk).1

theorem Accounted.others {j : ℕ} {n : UInt64} (h : s.Accounted) (hpc : pc.number = none)
    (hj : ((s.setThread i pc).threads j).number = some n) :
    (s.threads j).number = some n ∧ (s.threads i).number ≠ some n := by
  by_cases hji : j = i
  · rw [hji, setThread_self, hpc] at hj
    cases hj
  · rw [setThread_of_ne s _ hji] at hj
    exact ⟨hj, fun hi => hji (h.unique j i n hj hi)⟩

theorem placedCount_concat (s : Reception) (m : DataMessage) (n : UInt64) :
    { s with placed := s.placed ++ [m] }.placedCount n =
      s.placedCount n + if m.sequence = n then 1 else 0 := by
  simp [placedCount, List.count_append, List.count_singleton]

theorem Accounted.place (h : s.Accounted) (hpc : s.threads i = .send m) :
    { s.setThread i .idle with placed := s.placed ++ [m] }.Accounted := by
  have hcount : ∀ n, n ≠ m.sequence →
      { s.setThread i .idle with placed := s.placed ++ [m] }.placedCount n = s.placedCount n := by
    intro n hn
    have hconcat := placedCount_concat (s.setThread i .idle) m n
    rw [if_neg hn.symm] at hconcat
    exact hconcat
  have hnumber : ∀ n, (s.threads i).number = some n → n = m.sequence := by
    intro n hn
    rw [hpc, DeliveryPC.number] at hn
    split at hn
    · cases hn
    · exact (some.inj hn).symm
  have hself : m.sequence ≠ 0 → (s.threads i).number = some m.sequence := by
    intro hne
    rw [hpc]
    exact if_neg hne
  refine ⟨⟨?_, ?_, ?_⟩, ?_, ?_⟩
  · intro n hn hle hidle
    by_cases heq : n = m.sequence
    · subst heq
      have hconcat := placedCount_concat (s.setThread i .idle) m m.sequence
      rw [if_pos rfl] at hconcat
      have hzero := h.gapFree.underWay i m.sequence (hself hn)
      exact hconcat.trans (congrArg (· + 1) hzero)
    · rw [hcount n heq]
      refine h.gapFree.placed n hn hle fun j hj => ?_
      by_cases hji : j = i
      · exact heq (hnumber n (hji ▸ hj))
      · refine hidle j ?_
        rwa [setThread_of_ne s _ hji]
  · intro j n hn
    obtain ⟨hj, hi⟩ := h.others rfl hn
    rw [hcount n]
    · exact h.gapFree.underWay j n hj
    · intro heq
      exact hi (heq ▸ hself (heq ▸ number_ne_zero hj))
  · intro n hn
    rw [hcount n]
    · exact h.gapFree.beyond n hn
    · intro heq
      have hne : n ≠ 0 := by
        intro hzero
        rw [hzero] at hn
        exact Nat.not_lt_zero _ hn
      have hle := h.le i n (heq ▸ hself (heq ▸ hne))
      exact UInt64.not_lt.mpr hle hn
  · exact fun j n hn => h.le j n (h.others rfl hn).1
  · exact fun j k n hj hk => h.unique j k n (h.others rfl hj).1 (h.others rfl hk).1

theorem Accounted.giveBack (h : s.Accounted)
    (hpc : s.threads i = .rejectData m) (hne : m.sequence ≠ 0)
    (hlast : s.channel.received = m.sequence) : { s.setThread i .idle with
      channel := s.channel.rejectData m.sequence }.Accounted := by
  have hself : (s.threads i).number = some m.sequence := by
    rw [hpc]
    exact if_neg hne
  have hreceived : (s.channel.rejectData m.sequence).received = m.sequence - 1 := by
    rw [LogicalChannelState.rejectData, if_pos ⟨hne, hlast⟩]
  have hle : ∀ n, n ≤ m.sequence - 1 ↔ n ≤ s.channel.received ∧ n ≠ m.sequence := by
    intro n
    rw [hlast]
    exact le_sub_one_iff hne
  refine ⟨⟨?_, ?_, ?_⟩, ?_, ?_⟩ <;> dsimp only <;> try rw [hreceived]
  · intro n hn hn' hidle
    obtain ⟨hn', hother⟩ := (hle n).mp hn'
    refine h.gapFree.placed n hn hn' fun j hj => ?_
    by_cases hji : j = i
    · rw [hji, hself] at hj
      exact hother (some.inj hj).symm
    · refine hidle j ?_
      rwa [setThread_of_ne s _ hji]
  · exact fun j n hn => h.gapFree.underWay j n (h.others rfl hn).1
  · intro n hn
    by_cases heq : n = m.sequence
    · exact heq ▸ h.gapFree.underWay i m.sequence hself
    · refine h.gapFree.beyond n ?_
      by_contra hnot
      exact UInt64.not_le.mpr hn ((hle n).mpr ⟨UInt64.not_lt.mp hnot, heq⟩)
  · intro j n hn
    obtain ⟨hj, hi⟩ := h.others rfl hn
    exact (hle n).mpr ⟨h.le j n hj, fun heq => hi (heq ▸ hself)⟩
  · exact fun j k n hj hk => h.unique j k n (h.others rfl hj).1 (h.others rfl hk).1

theorem accounted_stepThread {label : DeliveryLabel} (h : s.Accounted)
    (hguard : s.givesBackLast (.step i label) = true)
    (hstep : s.stepThread i (s.threads i) label = some s') : s'.Accounted := by
  generalize hpc : s.threads i = pc at hstep
  revert hguard hpc hstep
  fun_cases stepThread s i pc label <;> intro hguard hpc hstep <;> cases hstep
  case case1 m _ =>
    refine h.setThread ?_
    rw [hpc]
    rfl
  case case2 m channel haccept =>
    have hnone : (s.threads i).number = none := by rw [hpc]; rfl
    by_cases hzero : m.sequence = 0
    · rw [hzero] at haccept
      cases haccept
      refine h.setThread ?_
      rw [hnone]
      exact if_pos hzero
    · exact h.accept hnone hzero haccept
  case case3 m | case5 m _ =>
    refine h.setThread ?_
    rw [hpc]
    split <;> rfl
  case case4 m =>
    have hsame : (s.acknowledge m.sequence).Accounted := by
      rw [Reception.acknowledge]
      split
      · exact h.of_same rfl rfl fun _ => rfl
      · exact h
    have hthreads : (s.acknowledge m.sequence).threads = s.threads := by
      rw [Reception.acknowledge]
      split <;> rfl
    refine hsame.setThread ?_
    rw [hthreads, hpc]
    rfl
  case case6 m => exact h.place hpc
  case case7 m _ _ =>
    refine h.setThread ?_
    rw [hpc]
    rfl
  case case8 m =>
    simp only [givesBackLast, hpc, Bool.or_eq_true, decide_eq_true_eq] at hguard
    by_cases hzero : m.sequence = 0
    · rw [hzero]
      refine h.setThread ?_
      rw [hpc]
      exact (if_pos hzero).symm
    · exact h.giveBack hpc hzero (hguard.resolve_left hzero)

theorem accounted_step {a : ReceptionAction} (h : s.Accounted)
    (hguard : s.givesBackLast a = true) (hstep : s.step a = some s') : s'.Accounted := by
  cases a with
  | call i m =>
    simp only [Reception.step] at hstep
    split at hstep <;> cases hstep
    rename_i hidle
    refine h.setThread ?_
    rw [hidle]
    rfl
  | step i label => exact accounted_stepThread h hguard hstep

/-- A number that is not the last when it is given back is neither placed nor
under way afterwards. -/
theorem gap_of_overtaken {a : ReceptionAction} (h : s.Accounted)
    (hguard : ¬ s.givesBackLast a = true) (hstep : s.step a = some s') : ¬ s'.GapFree := by
  cases a with
  | call i m => exact absurd rfl hguard
  | step i label =>
    simp only [givesBackLast] at hguard
    split at hguard
    · rename_i m hpc
      simp only [Bool.or_eq_true, decide_eq_true_eq, not_or] at hguard
      obtain ⟨hne, hlast⟩ := hguard
      have hself : (s.threads i).number = some m.sequence := by
        rw [hpc]
        exact if_neg hne
      simp only [Reception.step, hpc] at hstep
      cases label with
      | next =>
        cases hstep
        have hsame : s.channel.rejectData m.sequence = s.channel := by
          rw [LogicalChannelState.rejectData, if_neg fun h => hlast h.2]
        rw [hsame]
        intro hgap
        have hone := hgap.placed m.sequence hne (h.le i _ hself)
          fun j hj => (h.others rfl hj).2 hself
        have hzero := h.gapFree.underWay i m.sequence hself
        exact absurd (hone.symm.trans hzero) (by decide)
      | _ => cases hstep
    · exact absurd rfl hguard

end Steps

end Reception

/-- The numbers are free of gaps along a run exactly when each number that is given back is the
last one then. -/
theorem run_gapFree_iff (s : Reception) (hinit : s.Initial)
    (actions : List ReceptionAction) (t : Reception)
    (hrun : run Reception.step s actions = some t) :
    Always Reception.step Reception.GapFree s actions ↔
      Guarded Reception.step (fun s a => s.givesBackLast a = true) s actions :=
  always_iff_guarded (fun _ h => h.gapFree)
    (fun _ _ _ => Reception.accounted_step)
    (fun _ _ _ => Reception.gap_of_overtaken)
    (Reception.accounted_initial hinit) hrun

/-! ## Two goroutines -/

def freshReception : Reception where
  channel := (LogicalChannelState.newLogicalChannel (uuidOf 7) (some 0) (some 0)
    .direct).enableMigration true
  threads := fun _ => .idle
  placed := []
  acknowledged := []

theorem freshReception_initial : freshReception.Initial := ⟨rfl, fun _ => rfl, rfl⟩

def numberedChunk (n : UInt64) : DataMessage := ⟨tcp, uuidOf 7, [], 0, [], 0, [], 0, n⟩

def receptionOutcome (actions : List ReceptionAction) : Option (UInt64 × List UInt64) :=
  (run Reception.step freshReception actions).map fun t =>
    (t.channel.received, t.placed.map (·.sequence))

/-- Goroutine 0 takes in the first number, finds the queue full and gives it
back; goroutine 1 brings it again, and then goroutine 0 the second one. -/
def givenBackRun : List ReceptionAction :=
  [.call 0 (numberedChunk 1), .step 0 .next, .step 0 (.found true),
    .step 0 (.room false), .step 0 .next,
    .call 1 (numberedChunk 1), .step 1 .next, .step 1 (.found true),
    .call 0 (numberedChunk 2), .step 0 .next, .step 0 (.found true),
    .step 0 (.room true), .step 1 (.room true)]

theorem givenBackRun_gapFree : freshReception.Initial ∧
    receptionOutcome givenBackRun = some (2, [2, 1]) ∧
    Guarded Reception.step (fun s a => s.givesBackLast a = true) freshReception givenBackRun ∧
    Always Reception.step Reception.GapFree freshReception givenBackRun := by
  refine ⟨freshReception_initial, ?_, ?guard, of_run_isSome ?_ fun t ht =>
    (run_gapFree_iff freshReception freshReception_initial givenBackRun t ht).mpr ?guard⟩
  all_goals decide +kernel

/-- Goroutine 1 takes in the second number before goroutine 0, which finds the
queue full, gives the first one back. -/
def overtakenRun : List ReceptionAction :=
  [.call 0 (numberedChunk 1), .step 0 .next, .step 0 (.found true), .step 0 (.room false),
    .call 1 (numberedChunk 2), .step 1 .next, .step 1 (.found true),
    .step 1 (.room true), .step 0 .next]

/-- Both goroutines are done and the counter is at two, but the first number was
never placed. -/
theorem overtakenRun_leaves_gap : receptionOutcome overtakenRun = some (2, [2]) ∧
    ∃ t, run Reception.step freshReception overtakenRun = some t ∧
      (t.threads 0).number = none ∧ (t.threads 1).number = none ∧
      (1 : UInt64) ≤ t.channel.received ∧ t.placedCount 1 = 0 := by
  decide +kernel

end LinkSocks
