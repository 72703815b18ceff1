import LinkSocks.Secure.Endpoint

/-!
# Data that comes before its channel

Data may reach a client before the request that binds its channel, and is then held in a
buffer.  One goroutine delivers: it looks for the queue of the channel and puts a message
there, or into the buffer.  Another one binds: it stores the queue and then moves what is in
the buffer to it, once.  A message that was not to find the queue can reach the buffer when
it has been emptied, and stays there; one that finds the queue overtakes the messages that
are still to be moved.  A channel that is not bound has no logical channel;
`LinkSocks.Channel.Concurrent` is about those that have.
-/

namespace LinkSocks

open Go Option

/-- Where the delivering goroutine is in `deliverDataMessage`. -/
inductive EarlyPC where
  | idle
  | loadQueue (m : DataMessage)
  | send (m : DataMessage)
  | bufferOrphanData (m : DataMessage)
  deriving DecidableEq

inductive BindingPC where
  | loadQueue
  | storeQueue
  | flushOrphanData
  /-- The loop of `flushOrphanData`, with what is left in the buffer it took. -/
  | move (buffered : List DataMessage)
  | bound
  deriving DecidableEq

def EarlyPC.holding : EarlyPC → List DataMessage
  | .idle => []
  | .loadQueue m | .send m | .bufferOrphanData m => [m]

def BindingPC.stored : BindingPC → Bool
  | .loadQueue | .storeQueue => false
  | _ => true

def BindingPC.flushed : BindingPC → Bool
  | .move _ | .bound => true
  | _ => false

/-- What the binding goroutine has taken from the buffer and not moved. -/
def BindingPC.holding : BindingPC → List DataMessage
  | .move buffered => buffered
  | _ => []

/-- What is kept for one channel, and the two goroutines. -/
structure Binding where
  queue : Option (List DataMessage)
  orphanData : Option (List DataMessage)
  deliver : EarlyPC
  bind : BindingPC
  /-- History: the calls of `deliverDataMessage`. -/
  calls : List DataMessage
  /-- History: what the forwarding loop has taken off the queue. -/
  received : List DataMessage

inductive BindingAction where
  | call (m : DataMessage)
  | deliver
  | bind
  | receive
  | expireOrphanData

namespace Binding

def stepDeliver (s : Binding) : Option Binding :=
  match s.deliver with
  | .idle => none
  | .loadQueue m =>
    some { s with deliver := if s.queue.isSome then .send m else .bufferOrphanData m }
  | .send m =>
    -- a full queue drops the message
    some { s with
      deliver := .idle
      queue := s.queue.map fun q => if q.length < messageQueueSize then q ++ [m] else q }
  | .bufferOrphanData m =>
    let buffered := s.orphanData.getD []
    some { s with
      deliver := .idle
      orphanData := some
        (if buffered.length < orphanDataQueueSize then buffered ++ [m]
        else buffered) }

def stepBind (s : Binding) : Option Binding :=
  match s.bind with
  | .loadQueue => some { s with bind := if s.queue.isSome then .bound else .storeQueue }
  | .storeQueue => some { s with queue := some [], bind := .flushOrphanData }
  | .flushOrphanData =>
    match s.orphanData with
    | none => some { s with bind := .bound }
    | some buffered => some { s with orphanData := none, bind := .move buffered }
  | .move [] => some { s with bind := .bound }
  | .move (m :: rest) =>
    match s.queue with
    | none => none
    | some q =>
      if q.length < messageQueueSize then
        some { s with queue := some (q ++ [m]), bind := .move rest }
      else some { s with bind := .bound }
  | .bound => none

def step (s : Binding) : BindingAction → Option Binding
  | .call m =>
    match s.deliver with
    | .idle => some { s with deliver := .loadQueue m, calls := s.calls ++ [m] }
    | _ => none
  | .deliver => s.stepDeliver
  | .bind => s.stepBind
  | .receive =>
    match s.queue with
    | some (m :: rest) => some { s with queue := some rest, received := s.received ++ [m] }
    | _ => none
  | .expireOrphanData => some { s with orphanData := none }

/-- The channel is not bound, and no data has come for it. -/
structure Fresh (s : Binding) : Prop where
  queue : s.queue = none
  orphanData : s.orphanData = none
  deliver : s.deliver = .idle
  bind : s.bind = .loadQueue
  calls : s.calls = []
  received : s.received = []

/-- Every message is on the queue once, in the order of the calls, and none is
left in the buffer. -/
structure Complete (s : Binding) : Prop where
  placed : s.received ++ s.queue.getD [] = s.calls
  orphanData : s.orphanData = none

instance (s : Binding) : Decidable s.Complete :=
  decidable_of_iff (s.received ++ s.queue.getD [] = s.calls ∧ s.orphanData = none)
    ⟨fun h => ⟨h.1, h.2⟩, fun h => ⟨h.1, h.2⟩⟩

def Settled (s : Binding) : Prop := s.deliver = .idle ∧ s.bind = .bound

instance (s : Binding) : Decidable s.Settled := inferInstanceAs (Decidable (_ ∧ _))

/-! ## Conditions on a run -/

/-- What the buffers have to offer: room for every message, and no expiry. -/
def ample (s : Binding) : BindingAction → Bool
  | .call _ | .receive => true
  | .deliver =>
    match s.deliver with
    | .send _ => (s.queue.getD []).length < messageQueueSize
    | .bufferOrphanData _ => (s.orphanData.getD []).length < orphanDataQueueSize
    | _ => true
  | .bind =>
    match s.bind with
    | .move (_ :: _) => (s.queue.getD []).length < messageQueueSize
    | _ => true
  | .expireOrphanData => false

/-- A message goes into the buffer before the buffer is taken, and straight to the queue when
nothing waits to be moved there. -/
def apart (s : Binding) : BindingAction → Bool
  | .deliver =>
    match s.deliver with
    | .send _ => s.bind.holding.isEmpty && (s.orphanData.getD []).isEmpty
    | .bufferOrphanData _ => !s.bind.flushed
    | _ => true
  | _ => true

/-! ## Messages on their way -/

/-- The messages are, in the order of the calls: taken off the queue, on it, to
be moved to it, in the buffer, being delivered. -/
structure InLine (s : Binding) : Prop where
  order : s.received ++ s.queue.getD [] ++ s.bind.holding ++
    s.orphanData.getD [] ++ s.deliver.holding = s.calls
  stored : s.queue.isSome = s.bind.stored
  sends : ∀ m, s.deliver = .send m → s.queue.isSome = true
  flushed : s.bind.flushed = true → s.orphanData = none

variable {s s' : Binding}

theorem Fresh.inLine (h : s.Fresh) : s.InLine where
  order := by
    simp [h.received, h.queue, h.bind, h.orphanData, h.deliver, h.calls,
      BindingPC.holding, EarlyPC.holding]
  stored := by
    rw [h.queue, h.bind]
    rfl
  sends := by simp [h.deliver]
  flushed := fun _ => h.orphanData

theorem InLine.complete (h : s.InLine) (hsettled : s.Settled) : s.Complete := by
  obtain ⟨hdeliver, hbind⟩ := hsettled
  have horphans : s.orphanData = none := h.flushed (by rw [hbind]; rfl)
  refine ⟨?_, horphans⟩
  simpa [hdeliver, hbind, horphans, BindingPC.holding, EarlyPC.holding] using h.order

theorem InLine.stepDeliver (h : s.InLine) (hample : s.ample .deliver = true)
    (hapart : s.apart .deliver = true) (hstep : s.stepDeliver = some s') : s'.InLine := by
  rw [Binding.stepDeliver] at hstep
  cases hpc : s.deliver with
  | idle => simp [hpc] at hstep
  | loadQueue m =>
    simp only [hpc, some.injEq] at hstep
    subst hstep
    refine ⟨?_, h.stored, ?_, h.flushed⟩
    · rw [← h.order, hpc]
      split <;> rfl
    · intro m' hm'
      split at hm'
      · assumption
      · cases hm'
  | send m =>
    simp only [hpc, some.injEq] at hstep
    subst hstep
    obtain ⟨q, hq⟩ := isSome_iff_exists.mp (h.sends m hpc)
    have hroom : q.length < messageQueueSize := by
      simpa [ample, hpc, hq] using hample
    have hempty : s.bind.holding = [] ∧ s.orphanData.getD [] = [] := by
      simpa [apart, hpc] using hapart
    have horder := h.order
    rw [hpc] at horder
    refine ⟨?_, ?_, by simp, h.flushed⟩
    · simpa [hq, hroom, hempty.1, hempty.2, EarlyPC.holding] using horder
    · rw [← h.stored]
      exact isSome_map
  | bufferOrphanData m =>
    simp only [hpc, some.injEq] at hstep
    subst hstep
    have hroom : (s.orphanData.getD []).length < orphanDataQueueSize := by
      simpa [ample, hpc] using hample
    have hbefore : s.bind.flushed = false := by
      simpa [apart, hpc] using hapart
    refine ⟨?_, h.stored, by simp, ?_⟩
    · have horder := h.order
      rw [hpc] at horder
      simpa [hroom, EarlyPC.holding] using horder
    · intro hflushed
      rw [hbefore] at hflushed
      contradiction

theorem InLine.stepBind (h : s.InLine) (hample : s.ample .bind = true)
    (hstep : s.stepBind = some s') : s'.InLine := by
  have hstored := h.stored
  have horder := h.order
  rw [Binding.stepBind] at hstep
  cases hpc : s.bind with
  | loadQueue =>
    rw [hpc] at hstored
    simp only [hpc, hstored, BindingPC.stored, Bool.false_eq_true, if_false, some.injEq] at hstep
    subst hstep
    rw [hpc] at horder
    exact ⟨horder, hstored, h.sends, by simp [BindingPC.flushed]⟩
  | storeQueue =>
    rw [hpc] at hstored horder
    have hnone : s.queue = none := by
      simpa [BindingPC.stored] using hstored
    simp only [hpc, some.injEq] at hstep
    subst hstep
    rw [hnone] at horder
    exact ⟨horder, rfl, fun _ _ => rfl, by simp [BindingPC.flushed]⟩
  | flushOrphanData =>
    rw [hpc] at hstored horder
    cases horphans : s.orphanData with
    | none =>
      simp only [hpc, horphans, some.injEq] at hstep
      subst hstep
      rw [horphans] at horder
      exact ⟨horder, hstored, h.sends, fun _ => rfl⟩
    | some buffered =>
      simp only [hpc, horphans, some.injEq] at hstep
      subst hstep
      rw [horphans] at horder
      refine ⟨?_, hstored, h.sends, fun _ => rfl⟩
      simpa [BindingPC.holding] using horder
  | move buffered =>
    have horphans : s.orphanData = none := h.flushed (by rw [hpc]; rfl)
    rw [hpc] at hstored horder
    cases buffered with
    | nil =>
      simp only [hpc, some.injEq] at hstep
      subst hstep
      exact ⟨horder, hstored, h.sends, fun _ => horphans⟩
    | cons m rest =>
      obtain ⟨q, hq⟩ := isSome_iff_exists.mp hstored
      have hroom : q.length < messageQueueSize := by
        simpa [ample, hpc, hq] using hample
      simp only [hpc, hq, if_pos hroom, some.injEq] at hstep
      subst hstep
      rw [hq] at horder
      refine ⟨?_, rfl, fun _ _ => rfl, fun _ => horphans⟩
      simpa [BindingPC.holding] using horder
  | bound => simp [hpc] at hstep

theorem InLine.step {a : BindingAction} (h : s.InLine)
    (hguard : (s.ample a && s.apart a) = true) (hstep : s.step a = some s') : s'.InLine := by
  rw [Bool.and_eq_true] at hguard
  cases a with
  | call m =>
    simp only [Binding.step] at hstep
    cases hpc : s.deliver with
    | idle =>
      simp only [hpc, some.injEq] at hstep
      subst hstep
      refine ⟨?_, h.stored, by simp, h.flushed⟩
      rw [← h.order, hpc]
      simp [EarlyPC.holding]
    | _ => simp [hpc] at hstep
  | deliver => exact h.stepDeliver hguard.1 hguard.2 hstep
  | bind => exact h.stepBind hguard.1 hstep
  | receive =>
    simp only [Binding.step] at hstep
    split at hstep
    · rename_i m rest hq
      cases hstep
      have hstored := h.stored
      have horder := h.order
      rw [hq] at hstored horder
      exact ⟨by simpa using horder, hstored, fun _ _ => rfl, h.flushed⟩
    · contradiction
  | expireOrphanData => exact absurd hguard.1 Bool.false_ne_true

end Binding

/-- In every run in which the buffers have room, nothing expires and the goroutines keep apart,
the messages are on the queue once and in the order of the calls when both goroutines have
finished, and none is left in the buffer. -/
theorem early_data_in_order {s t : Binding} {actions : List BindingAction} (hfresh : s.Fresh)
    (hguard : Guarded Binding.step (fun s a => s.ample a && s.apart a) s actions)
    (hrun : run Binding.step s actions = some t) (hsettled : t.Settled) :
    t.Complete := by
  have hinLine : t.InLine := run_invariant (fun _ _ _ h => h.step)
      hfresh.inLine hguard hrun
  exact hinLine.complete hsettled

/-! ## Two messages during a bind -/

def unboundChannel : Binding := ⟨none, none, .idle, .loadQueue, [], []⟩

def earlyMessage (b : UInt8) : DataMessage := ⟨tcp, uuidOf 9, [b], 0, [], 0, [], 0, 0⟩

theorem unboundChannel_fresh : unboundChannel.Fresh := ⟨rfl, rfl, rfl, rfl, rfl, rfl⟩

/-- The first message comes before the bind, the second one after it. -/
def apartRun : List BindingAction :=
  [.call (earlyMessage 1), .deliver, .deliver, .bind, .bind, .bind, .bind, .bind,
    .call (earlyMessage 2), .deliver, .deliver]

theorem apartRun_in_order : ∃ t ∈ run Binding.step unboundChannel apartRun,
      t.calls = [earlyMessage 1, earlyMessage 2] ∧ t.Complete := by
  have hsettled : ∀ t ∈ run Binding.step unboundChannel apartRun, t.Settled := by
    decide +kernel
  exact exists_run_and (by decide +kernel) fun t ht =>
    early_data_in_order unboundChannel_fresh (by decide +kernel) ht (hsettled t ht)

/-- The lookup misses the queue, and the buffer is filled after the flush. -/
def lateBufferRun : List BindingAction :=
  [.call (earlyMessage 1), .deliver, .bind, .bind, .bind, .deliver]

/-- The second message finds the queue before the first is moved there. -/
def earlyQueueRun : List BindingAction :=
  [.call (earlyMessage 1), .deliver, .deliver, .bind, .bind,
    .call (earlyMessage 2), .deliver, .deliver, .bind, .bind, .bind]

/-- A message is left in the buffer of a bound channel, and a message overtakes the one before
it, with room for everything and without expiry. -/
theorem bindingRuns_lose_and_reorder :
    (Guarded Binding.step (fun s a => s.ample a) unboundChannel lateBufferRun ∧
      ∃ t ∈ run Binding.step unboundChannel lateBufferRun, t.Settled ∧
        t.queue = some [] ∧ t.orphanData = some [earlyMessage 1] ∧ ¬ t.Complete) ∧
    (Guarded Binding.step (fun s a => s.ample a) unboundChannel earlyQueueRun ∧
      ∃ t ∈ run Binding.step unboundChannel earlyQueueRun, t.Settled ∧
        t.queue = some [earlyMessage 2, earlyMessage 1] ∧ ¬ t.Complete) := by
  decide +kernel

end LinkSocks
