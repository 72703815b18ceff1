import LinkSocks.Secure.Frames

/-!
# The receive loop of a secure session

Links put ciphertext frames into the buffer of a session, its loop takes and
decrypts them, and the session is closed by others at any time.  `receive`
tries the buffer, and then waits for the buffer or for the end of the session
in a second `select`, in which Go is free to choose when both are ready.  The
machine is the loop of an established session, with the calls of `deliver` and
the closing of `done` around it.
-/

namespace LinkSocks

open Go List

inductive DeliverPC where
  /-- The attempt that does not block. -/
  | offer (data : Bytes)
  | wait (data : Bytes)
  | returned

inductive DeliverLabel where
  | put
  | full
  | sessionDone

inductive ReceivePC where
  /-- The first `select` of `receive`. -/
  | poll
  /-- Between the two. -/
  | gap
  /-- Waiting in the second. -/
  | parked
  | decrypt (ct : Bytes)
  | dispatch
  | fail
  | returned

/-- The frame that is out of the buffer and not decrypted yet. -/
def ReceivePC.holding : ReceivePC → List Bytes
  | .decrypt ct => [ct]
  | _ => []

inductive ReceiveLabel where
  | next
  /-- The second `select` chooses the buffer, or the end of the session. -/
  | take
  | quit
  /-- The message has found room in the queue of its channel. -/
  | dispatched
  deriving DecidableEq

structure Receiver where
  inbound : List Bytes
  done : Bool
  nonce : ℕ
  pc : ReceivePC
  calls : List DeliverPC
  /-- History: the frames that were put into the buffer, those that were
  decrypted, and how many were put there before `done` was closed. -/
  placed : List Bytes
  decrypted : List Bytes
  early : ℕ
  /-- History: a frame did not decrypt or parse. -/
  failed : Bool
  /-- History: the buffer at the moment the loop returned because of `done`. -/
  left : List Bytes

/-- The handshake is over; the buffer may hold frames that came during it. -/
structure Receiver.Initial (s : Receiver) : Prop where
  nonce : s.nonce = 0
  pc : s.pc = .poll
  placed : s.placed = s.inbound
  decrypted : s.decrypted = []
  early : s.early = s.inbound.length
  failed : s.failed = false

/-- A frame goes into the buffer, or straight to a loop that waits for it. -/
def Receiver.put (s : Receiver) (data : Bytes) : Receiver :=
  let s := { s with
    placed := s.placed ++ [data]
    early := if s.done then s.early else s.early + 1 }
  match s.pc with
  | .parked => { s with pc := .decrypt data }
  | _ => { s with inbound := s.inbound ++ [data] }

def Receiver.setCall (s : Receiver) (i : ℕ) (pc : DeliverPC) : Receiver :=
  { s with calls := s.calls.set i pc }

/-- `deliver`: the buffer comes first, `done` counts only when it is full. -/
def Receiver.stepCall (s : Receiver) (i : ℕ) : DeliverPC → DeliverLabel → Option Receiver
  | .offer data, .put =>
    if s.inbound.length < secureInboundQueue then some ((s.put data).setCall i .returned)
    else none
  | .offer data, .full =>
    if s.inbound.length < secureInboundQueue then none
    else some (s.setCall i (.wait data))
  | .wait data, .put =>
    if s.inbound.length < secureInboundQueue then some ((s.put data).setCall i .returned)
    else none
  | .wait _, .sessionDone => if s.done then some (s.setCall i .returned) else none
  | _, _ => none

/-- `finish` closes `done`, which wakes a loop that waits. -/
def Receiver.finish (s : Receiver) : Receiver :=
  match s.pc with
  | .parked => { s with done := true, pc := .returned, left := s.inbound }
  | _ => { s with done := true }

/-- The loop of `run` with `receive`; `dispatch` waits for room unless the
session is over. -/
def Receiver.stepLoop (env : EndpointEnv) (ref : SessionRef) (s : Receiver) :
    ReceivePC → ReceiveLabel → Option Receiver
  | .poll, .next =>
    match s.inbound with
    | ct :: rest => some { s with inbound := rest, pc := .decrypt ct }
    | [] => some { s with pc := .gap }
  | .gap, .take =>
    match s.inbound with
    | ct :: rest => some { s with inbound := rest, pc := .decrypt ct }
    | [] => none
  | .gap, .quit =>
    if s.done then some { s with pc := .returned, left := s.inbound }
    else none
  | .gap, .next =>
    if s.inbound = [] ∧ s.done = false then some { s with pc := .parked }
    else none
  | .decrypt ct, .next =>
    match env.opened ref s.nonce ct with
    | some _ =>
      some { s with
        pc := .dispatch, nonce := s.nonce + 1
        decrypted := s.decrypted ++ [ct] }
    | none =>
      some { s with pc := .fail, failed := true, decrypted := s.decrypted ++ [ct] }
  | .dispatch, .dispatched => some { s with pc := .poll }
  | .dispatch, .quit => if s.done then some { s with pc := .poll } else none
  | .fail, .next => some { s with pc := .returned, done := true }
  | _, _ => none

inductive ReceiverAction where
  | deliver (data : Bytes)
  | call (i : ℕ) (label : DeliverLabel)
  /-- `close` or `fail` by others. -/
  | finish
  | loop (label : ReceiveLabel)

def Receiver.step (env : EndpointEnv) (ref : SessionRef) (s : Receiver) :
    ReceiverAction → Option Receiver
  | .deliver data => some { s with calls := s.calls ++ [.offer data] }
  | .call i label => s.calls[i]?.bind fun pc => s.stepCall i pc label
  | .finish => some s.finish
  | .loop label => s.stepLoop env ref s.pc label

/-! ## Frames in order -/

/-- The loop is between its two selects. -/
def Receiver.inGap (s : Receiver) : Bool :=
  match s.pc with
  | .gap => true
  | _ => false

theorem Receiver.inGap_iff {s : Receiver} : s.inGap = true ↔ s.pc = .gap := by
  rw [inGap]
  split <;> simp_all

/-- Nothing makes both cases of the second `select` ready at once: while the
loop is between the selects, the session is not closed with a frame in the
buffer, and no frame is put into the buffer of a closed session. -/
def oneCaseReady (s : Receiver) : ReceiverAction → Bool
  | .finish => !(s.inGap && !s.inbound.isEmpty)
  | .call _ .put => !(s.inGap && s.done)
  | _ => true

/-- What is true in every state of a run that meets `oneCaseReady`. -/
structure Receiver.InOrder (env : EndpointEnv) (ref : SessionRef) (s : Receiver) : Prop where
  order : s.decrypted ++ s.pc.holding ++ s.inbound = s.placed
  parked : s.pc = .parked → s.inbound = [] ∧ s.done = false
  gap : s.pc = .gap → s.done = true → s.inbound = []
  earlyLe : s.early ≤ s.placed.length
  earlyAll : s.done = false → s.early = s.placed.length
  nonce : s.failed = false → s.nonce = s.decrypted.length
  failed : s.failed = true → (s.pc = .fail ∨ s.pc = .returned) ∧
    ∃ frames ct, s.decrypted = frames ++ [ct] ∧ env.opened ref frames.length ct = none
  failing : s.pc = .fail → s.failed = true
  returned : s.pc = .returned → s.done = true ∧
    (s.failed = true ∨ s.left = [] ∧ s.early ≤ s.decrypted.length)

section Steps

variable {env : EndpointEnv} {ref : SessionRef} {s s' : Receiver}

theorem Receiver.inOrder_initial (h : s.Initial) : s.InOrder env ref where
  order := by simp [h.decrypted, h.pc, h.placed, ReceivePC.holding]
  parked := by simp [h.pc]
  gap := by simp [h.pc]
  earlyLe := by rw [h.early, h.placed]
  earlyAll := by simp [h.early, h.placed]
  nonce := by simp [h.nonce, h.decrypted]
  failed := by simp [h.failed]
  failing := by simp [h.pc]
  returned := by simp [h.pc]

section

variable (h : s.InOrder env ref)
include h

theorem Receiver.InOrder.calls (calls : List DeliverPC) :
    { s with calls := calls }.InOrder env ref := { h with }

theorem Receiver.InOrder.put (data : Bytes)
    (hguard : s.pc = .gap → s.done = false) : (s.put data).InOrder env ref := by
  have hearly : (if s.done then s.early else s.early + 1) ≤ s.placed.length + 1 := by
    have hle := h.earlyLe
    split <;> omega
  by_cases hparked : s.pc = .parked
  · obtain ⟨hempty, hdone⟩ := h.parked hparked
    have horder := h.order
    simp only [hparked, ReceivePC.holding, hempty, append_nil] at horder
    simp only [Receiver.put, hparked]
    refine ⟨?_, by simp, by simp, by simpa using hearly, ?_, h.nonce, ?_, by simp, by simp⟩
    · simp [ReceivePC.holding, hempty, horder]
    · simp [hdone, h.earlyAll hdone]
    · intro hfailed
      simpa [hparked] using (h.failed hfailed).1
  · have hput : s.put data = { s with
        placed := s.placed ++ [data]
        early := if s.done then s.early else s.early + 1
        inbound := s.inbound ++ [data] } := by
      rw [Receiver.put]
      split
      · contradiction
      · rfl
    rw [hput]
    refine ⟨?_, fun hpc => absurd hpc hparked, ?_, by simpa using hearly, ?_,
      h.nonce, h.failed, h.failing, ?_⟩
    · simp only [← h.order, append_assoc]
    · intro hpc hdone
      simp [hguard hpc] at hdone
    · intro hdone
      simp [show s.done = false from hdone, h.earlyAll hdone]
    · intro hpc
      obtain ⟨hdone, hleft⟩ := h.returned hpc
      simpa [hdone] using hleft

theorem Receiver.InOrder.finish
    (hguard : s.pc = .gap → s.inbound = []) : s.finish.InOrder env ref := by
  by_cases hparked : s.pc = .parked
  · obtain ⟨hempty, hdone⟩ := h.parked hparked
    have horder := h.order
    simp only [hparked, ReceivePC.holding, hempty, append_nil] at horder
    simp only [Receiver.finish, hparked]
    refine ⟨?_, by simp, by simp, h.earlyLe, by simp, h.nonce, ?_, by simp, ?_⟩
    · simp [ReceivePC.holding, hempty, horder]
    · intro hfailed
      simpa [hparked] using (h.failed hfailed).1
    · intro _
      refine ⟨rfl, .inr ⟨hempty, ?_⟩⟩
      rw [horder]
      exact h.earlyLe
  · have hfinish : s.finish = { s with done := true } := by
      rw [Receiver.finish]
      split
      · contradiction
      · rfl
    rw [hfinish]
    exact ⟨h.order, fun hpc => absurd hpc hparked, fun hpc _ => hguard hpc,
      h.earlyLe, by simp, h.nonce, h.failed, h.failing,
      fun hpc => ⟨rfl, (h.returned hpc).2⟩⟩

theorem Receiver.InOrder.stepCall {i : ℕ} {pc : DeliverPC} {label : DeliverLabel}
    (hguard : oneCaseReady s (.call i label) = true)
    (hstep : s.stepCall i pc label = some s') : s'.InOrder env ref := by
  have hput : label = .put → s.pc = .gap → s.done = false := by
    rintro rfl hpc
    simpa [oneCaseReady, Receiver.inGap_iff.mpr hpc] using hguard
  revert hput hstep
  fun_cases Receiver.stepCall s i pc label <;> intro hstep hput <;> cases hstep
  case case1 data _ | case5 data _ => exact (h.put data (hput rfl)).calls _
  all_goals exact h.calls _

theorem Receiver.InOrder.failed_of_running
    (hrunning : s.pc ≠ .fail ∧ s.pc ≠ .returned) : s.failed = false := by
  by_contra hfailed
  exact not_or.mpr hrunning (h.failed (by simpa using hfailed)).1

theorem Receiver.InOrder.take {ct : Bytes} {rest : List Bytes} (hheld : s.pc.holding = [])
    (hrunning : s.pc ≠ .fail ∧ s.pc ≠ .returned) (hinbound : s.inbound = ct :: rest) :
    { s with inbound := rest, pc := .decrypt ct }.InOrder env ref := by
  have horder := h.order
  rw [hheld, hinbound] at horder
  exact ⟨by simpa [ReceivePC.holding] using horder, by simp, by simp, h.earlyLe,
    h.earlyAll, h.nonce, by simp [h.failed_of_running hrunning], by simp, by simp⟩

theorem Receiver.InOrder.goto {pc : ReceivePC}
    (hheld : s.pc.holding = []) (hheld' : pc.holding = [])
    (hrunning : s.pc ≠ .fail ∧ s.pc ≠ .returned) (hpc : pc = .poll ∨ (pc = .gap ∧ s.inbound = []) ∨
      (pc = .parked ∧ s.inbound = [] ∧ s.done = false)) : { s with pc := pc }.InOrder env ref := by
  have horder := h.order
  rw [hheld] at horder
  refine ⟨by simpa [hheld'] using horder, ?_, ?_, h.earlyLe, h.earlyAll,
    h.nonce, by simp [h.failed_of_running hrunning], ?_, ?_⟩ <;> rintro rfl
  · simpa using hpc
  · exact fun _ => by simpa using hpc
  · simp at hpc
  · simp at hpc

theorem Receiver.InOrder.stepLoop {label : ReceiveLabel}
    (hstep : s.stepLoop env ref s.pc label = some s') : s'.InOrder env ref := by
  generalize hpc : s.pc = pc at hstep
  have horder := h.order
  rw [hpc] at horder
  revert hpc horder hstep
  fun_cases Receiver.stepLoop env ref s pc label <;> intro hpc hstep horder <;> cases hstep
  case case1 ct rest hinbound | case3 ct rest hinbound =>
    exact h.take (by rw [hpc]; rfl) (by simp [hpc]) hinbound
  case case2 hinbound =>
    exact h.goto (by rw [hpc]; rfl) rfl (by simp [hpc]) (.inr (.inl ⟨rfl, hinbound⟩))
  case case5 hdone =>
    -- `done` is the only case that is ready
    have hempty := h.gap hpc hdone
    simp only [ReceivePC.holding, hempty, append_nil] at horder
    refine { h with
      order := by simpa [ReceivePC.holding, hempty] using horder
      parked := by simp
      gap := by simp
      failed := fun hfailed => by simpa [hpc] using (h.failed hfailed).1
      failing := by simp
      returned := fun _ => ⟨hdone, .inr ⟨hempty, ?_⟩⟩ }
    rw [horder]
    exact h.earlyLe
  case case7 hidle =>
    exact h.goto (by rw [hpc]; rfl) rfl (by simp [hpc]) (.inr (.inr ⟨rfl, hidle⟩))
  case case9 ct _ _ =>
    have hfailed := h.failed_of_running (by simp [hpc])
    exact ⟨by simpa [ReceivePC.holding] using horder, by simp, by simp, h.earlyLe,
      h.earlyAll, by simp [h.nonce hfailed], by simp [hfailed], by simp, by simp⟩
  case case10 ct hopened =>
    have hnonce := h.nonce (h.failed_of_running (by simp [hpc]))
    exact ⟨by simpa [ReceivePC.holding] using horder, by simp, by simp, h.earlyLe,
      h.earlyAll, by simp, fun _ => ⟨.inl rfl, s.decrypted, ct, rfl, hnonce ▸ hopened⟩,
      by simp, by simp⟩
  case case11 | case12 =>
    exact h.goto (by rw [hpc]; rfl) rfl (by simp [hpc]) (.inl rfl)
  case case14 =>
    have hfailed := h.failing hpc
    exact ⟨horder, by simp, by simp, h.earlyLe, by simp, h.nonce,
      fun _ => ⟨.inr rfl, (h.failed hfailed).2⟩, by simp, fun _ => ⟨rfl, .inl hfailed⟩⟩

/-- Every action that makes one case ready at a time. -/
theorem Receiver.inOrder_step {a : ReceiverAction}
    (hguard : oneCaseReady s a = true) (hstep : s.step env ref a = some s') :
    s'.InOrder env ref := by
  cases a with
  | deliver data =>
    cases hstep
    exact h.calls _
  | call i label =>
    obtain ⟨pc, -, hcall⟩ := Option.bind_eq_some_iff.mp hstep
    exact h.stepCall hguard hcall
  | finish =>
    cases hstep
    refine h.finish fun hpc => ?_
    simpa [oneCaseReady, Receiver.inGap_iff.mpr hpc] using hguard
  | loop label => exact h.stepLoop hstep

end

end Steps

/-! ## The loop comes to its end -/

def ReceivePC.rank : ReceivePC → ℕ
  | .decrypt _ => 4
  | .dispatch => 3
  | .poll => 2
  | .gap => 1
  | .fail => 1
  | .parked => 0
  | .returned => 0

/-- Steps that the loop can take at most when nobody else moves. -/
def Receiver.measure (s : Receiver) : ℕ := 4 * s.inbound.length + s.pc.rank

section Progress

variable {env : EndpointEnv} {ref : SessionRef} {s s' : Receiver}

/-- Each step of the loop brings it closer to its end. -/
theorem Receiver.stepLoop_measure {label : ReceiveLabel}
    (hstep : s.stepLoop env ref s.pc label = some s') : s'.measure < s.measure := by
  generalize hpc : s.pc = pc at hstep
  revert hpc hstep
  fun_cases Receiver.stepLoop env ref s pc label <;> intro hpc hstep <;> cases hstep
  case case1 hinbound | case3 hinbound =>
    simp only [Receiver.measure, ReceivePC.rank, hpc, hinbound, length_cons]
    omega
  all_goals simp [Receiver.measure, ReceivePC.rank, hpc]

/-- The loop alone makes at most `measure` steps. -/
theorem Receiver.loop_bounded {labels : List ReceiveLabel}
    (hrun : run (Receiver.step env ref) s (labels.map .loop) = some s') :
    labels.length + s'.measure ≤ s.measure := by
  induction labels generalizing s with
  | nil =>
    cases hrun
    simp
  | cons label labels ih =>
    obtain ⟨t, hstep, hrest⟩ := run_cons hrun
    have hlt := Receiver.stepLoop_measure hstep
    have hle := ih hrest
    simp only [length_cons]
    omega

/-- Where the loop waits for others, it has nothing left to take, or the queue
of its channel is full. -/
theorem Receiver.loop_progress (h : s.InOrder env ref) :
    s.pc = .returned ∨ (s.pc = .parked ∧ s.inbound = []) ∨ (s.pc = .dispatch ∧ s.done = false) ∨
      ∃ label, label ≠ .dispatched ∧ (s.step env ref (.loop label)).isSome = true := by
  cases hpc : s.pc with
  | returned => exact .inl rfl
  | parked => exact .inr (.inl ⟨rfl, (h.parked hpc).1⟩)
  | poll | decrypt ct =>
    refine .inr (.inr (.inr ⟨.next, by simp, ?_⟩))
    simp only [Receiver.step, hpc, Receiver.stepLoop]
    split <;> rfl
  | gap =>
    refine .inr (.inr (.inr ?_))
    cases hdone : s.done with
    | true => exact ⟨.quit, by simp, by simp [Receiver.step, hpc, Receiver.stepLoop, hdone]⟩
    | false =>
      cases hinbound : s.inbound with
      | nil =>
        exact ⟨.next, by simp, by simp [Receiver.step, hpc, Receiver.stepLoop, hdone, hinbound]⟩
      | cons ct rest =>
        exact ⟨.take, by simp, by simp [Receiver.step, hpc, Receiver.stepLoop, hinbound]⟩
  | dispatch =>
    cases hdone : s.done with
    | true =>
      exact .inr (.inr (.inr ⟨.quit, by simp,
        by simp [Receiver.step, hpc, Receiver.stepLoop, hdone]⟩))
    | false => exact .inr (.inr (.inl ⟨rfl, rfl⟩))
  | fail =>
    exact .inr (.inr (.inr ⟨.next, by simp, by simp [Receiver.step, hpc, Receiver.stepLoop]⟩))

theorem Receiver.guarded_loop (labels : List ReceiveLabel) :
    Guarded (Receiver.step env ref) (oneCaseReady · ·) s (labels.map .loop) := by
  induction labels generalizing s with
  | nil => trivial
  | cons label labels ih => exact ⟨rfl, fun _ _ => ih⟩

end Progress

/-- In every run in which nothing makes both cases of the second `select` ready
at once, frames are decrypted in the order they were put into the buffer, and
only the loop takes them out.  It fails only at a frame that does not open;
otherwise it returns with the buffer empty, and all that was there before
`done` was closed has been decrypted.  Left to itself it comes to that point in
a bounded number of steps, unless it waits for room in the queue of a channel
that is still open. -/
theorem Receiver.frames_decrypted (env : EndpointEnv) (ref : SessionRef)
    (s : Receiver) (hinit : s.Initial) (actions : List ReceiverAction)
    (hguard : Guarded (Receiver.step env ref) (oneCaseReady · ·) s actions)
    (t : Receiver) (hrun : run (Receiver.step env ref) s actions = some t) :
    t.decrypted ++ t.pc.holding ++ t.inbound = t.placed ∧
    (t.failed = true → ∃ frames ct, t.decrypted = frames ++ [ct] ∧
      env.opened ref frames.length ct = none) ∧
    (t.pc = .returned → t.failed = false → t.left = [] ∧ t.placed.take t.early <+: t.decrypted) ∧
    ∀ (labels : List ReceiveLabel) (u : Receiver),
      run (Receiver.step env ref) t (labels.map .loop) = some u → labels.length ≤ t.measure ∧
      (u.pc = .returned ∨ (u.pc = .parked ∧ u.inbound = []) ∨ (u.pc = .dispatch ∧ u.done = false) ∨
        ∃ label, label ≠ .dispatched ∧ (u.step env ref (.loop label)).isSome = true) := by
  have hstep : ∀ s a s', Receiver.InOrder env ref s → oneCaseReady s a = true →
      s.step env ref a = some s' → s'.InOrder env ref :=
    fun _ _ _ h hguard => Receiver.inOrder_step h hguard
  have h := run_invariant hstep (Receiver.inOrder_initial hinit) hguard hrun
  refine ⟨h.order, fun hfailed => (h.failed hfailed).2, ?_, ?_⟩
  · intro hpc hfailed
    obtain ⟨hleft, hle⟩ := (h.returned hpc).2.resolve_left (by simp [hfailed])
    refine ⟨hleft, ?_⟩
    rw [← h.order, append_assoc, take_append_of_le_length hle]
    exact List.take_prefix ..
  · intro labels u hloop
    have hbound := Receiver.loop_bounded hloop
    exact ⟨by omega, Receiver.loop_progress
      (run_invariant hstep h (Receiver.guarded_loop labels) hloop)⟩

/-! ## Two runs -/

def freshReceiver : Receiver := ⟨[], false, 0, .poll, [], [], [], 0, false, []⟩

theorem freshReceiver_initial : freshReceiver.Initial := ⟨rfl, rfl, rfl, rfl, rfl, rfl⟩

/-- A frame that opens under the cipher of `plainEnv`. -/
def byeFrame : Bytes :=
  protocolVersionV2 :: binaryTypeConnectResponse :: boolToByte true :: (uuidOf 9).bytes

def receiverSession : SessionRef := ⟨uuidOf 9, 0⟩

/-- Where the loop is over: how many frames were decrypted and how many were
put into the buffer before `done` was closed, and what was left there. -/
def outcome (actions : List ReceiverAction) : Option (Bool × ℕ × ℕ × List Bytes) :=
  (run (Receiver.step (plainEnv true) receiverSession) freshReceiver actions).map
    fun t => (match t.pc with | .returned => true | _ => false, t.decrypted.length, t.early, t.left)

/-- Two frames come, the session is closed while the first is dispatched, and
the loop drains the buffer. -/
def drainedRun : List ReceiverAction :=
  [.deliver byeFrame, .call 0 .put, .deliver byeFrame, .call 1 .put,
    .loop .next, .loop .next, .finish, .loop .quit, .loop .next, .loop .next,
    .loop .quit, .loop .next, .loop .quit]

theorem drainedRun_frames_decrypted :
    Guarded (Receiver.step (plainEnv true) receiverSession) (oneCaseReady · ·)
      freshReceiver drainedRun ∧ outcome drainedRun = some (true, 2, 2, []) ∧
    ∃ t, run (Receiver.step (plainEnv true) receiverSession) freshReceiver drainedRun = some t ∧
      t.decrypted ++ t.pc.holding ++ t.inbound = t.placed := by
  refine ⟨?guard, ?_, of_run_isSome ?_ fun t ht => ⟨t, ht,
    (Receiver.frames_decrypted _ _ _ freshReceiver_initial _ ?guard t ht).1⟩⟩
  all_goals decide +kernel

/-- The loop has found the buffer empty; a frame comes, the session is closed,
and the second `select` chooses `done`. -/
def lostFrameRun : List ReceiverAction :=
  [.deliver byeFrame, .loop .next, .call 0 .put, .finish, .loop .quit]

/-- The frame was put into the buffer of an open session, and is never
decrypted. -/
theorem lostFrameRun_frame_left : outcome lostFrameRun = some (true, 0, 1, [byeFrame]) := by
  decide +kernel

end LinkSocks
