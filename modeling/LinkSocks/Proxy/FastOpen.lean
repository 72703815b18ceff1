import LinkSocks.Secure.Frames

/-!
# Fast-open channels

In fast-open mode a local request does not wait for the response of the remote
side.  A timer tears the channel down later, unless a successful response has
left its mark by then.  Responses in the clear are looked at by the dispatcher
of the link; on a server it starts a goroutine for each.  Sealed responses end
up on the queue of the channel, where the forwarding loop skips them, so on a
channel of the second generation nothing ever leaves the mark.
-/

namespace LinkSocks

open Go List

/-- Who accepted the local request. -/
inductive EntryHost where
  | client
  | server

inductive Generation where
  | first
  | second
  deriving DecidableEq

structure FastOpenEnv where
  host : EntryHost
  generation : Generation

inductive FastOpenTimer where
  | unset
  | armed
  | done
  deriving DecidableEq

structure FastOpenChannel where
  /-- The queue of the channel, and whether `messageQueues` still has it. -/
  queue : List BaseMessage
  registered : Bool
  connectionSuccess : Bool
  timer : FastOpenTimer
  /-- Goroutines that a server has started for responses. -/
  handlers : List ConnectResponseMessage
  /-- Sealed responses that the session has not dispatched yet. -/
  inbound : List ConnectResponseMessage
  /-- `disconnectChannel` has been called. -/
  closed : Bool
  /-- History: a successful response has come in, and a failed one. -/
  confirmed : Bool
  refused : Bool
  /-- History: the timer has torn down a channel that was confirmed and not
  closed. -/
  lost : Bool

namespace FastOpenChannel

def disconnectChannel (ch : FastOpenChannel) : FastOpenChannel := { ch with closed := true }

/-- A response that is looked at: `SetConnectionSuccess`, or the channel is torn
down. -/
def respond (ch : FastOpenChannel) (m : ConnectResponseMessage) : FastOpenChannel :=
  if m.success then { ch with connectionSuccess := true }
  else ch.disconnectChannel

/-- A goroutine of a server; a response for a channel without queue goes to a
connector. -/
def handle (ch : FastOpenChannel) (m : ConnectResponseMessage) : FastOpenChannel :=
  if ch.registered then ch.respond m else ch

/-- A response comes in, in the clear or sealed as the generation has it. -/
def arrive (env : FastOpenEnv) (ch : FastOpenChannel)
    (m : ConnectResponseMessage) : FastOpenChannel :=
  let ch := { ch with
    confirmed := ch.confirmed || m.success
    refused := ch.refused || !m.success }
  match env.generation, env.host with
  | .first, .client => ch.respond m
  | .first, .server => { ch with handlers := ch.handlers ++ [m] }
  | .second, _ => { ch with inbound := ch.inbound ++ [m] }

/-- `deliverToQueue`, which waits for room unless the channel is closed. -/
def dispatch (ch : FastOpenChannel) : Option FastOpenChannel :=
  match ch.inbound with
  | [] => none
  | m :: rest =>
    if ch.queue.length < messageQueueSize then
      some { ch with
        inbound := rest
        queue := ch.queue ++ [.connectResponse m] }
    else if ch.closed then some { ch with inbound := rest }
    else none

/-- The timer of `HandleSocksRequest` and of `armFastOpenTimeout`. -/
def expire (ch : FastOpenChannel) : FastOpenChannel :=
  if ch.connectionSuccess then { ch with connectionSuccess := false, timer := .done }
  else
    { ch.disconnectChannel with
      timer := .done
      lost := ch.lost || (ch.confirmed && !ch.closed) }

/-- The parts of `doCleanup` that matter here. -/
def cleanup (ch : FastOpenChannel) : CleanupPart → FastOpenChannel
  | .queue => { ch with registered := false }
  | .success => { ch with connectionSuccess := false }
  | _ => ch

end FastOpenChannel

inductive FastOpenAction where
  | arrive (m : ConnectResponseMessage)
  /-- One of the goroutines that a server has started runs. -/
  | handle (k : ℕ)
  | dispatch
  /-- Data comes in, and there is room for it or not. -/
  | data (m : DataMessage)
  /-- The forwarding loop takes a message; only data is written out. -/
  | forward
  | arm
  | expire
  /-- The context of the request is done. -/
  | stop
  /-- Either side closes the channel. -/
  | disconnect
  | cleanup (part : CleanupPart)

def FastOpenChannel.step (env : FastOpenEnv) (ch : FastOpenChannel) :
    FastOpenAction → Option FastOpenChannel
  | .arrive m => some (ch.arrive env m)
  | .handle k =>
    ch.handlers[k]?.map fun m => { ch with handlers := ch.handlers.eraseIdx k }.handle m
  | .dispatch => ch.dispatch
  | .data m =>
    if ch.queue.length < messageQueueSize then some { ch with queue := ch.queue ++ [.data m] }
    else some ch
  | .forward =>
    match ch.queue with
    | [] => none
    | _ :: rest => some { ch with queue := rest }
  | .arm => if ch.timer = .unset then some { ch with timer := .armed } else none
  | .expire => if ch.timer = .armed then some ch.expire else none
  | .stop => if ch.timer = .armed then some { ch with timer := .done } else none
  | .disconnect => some ch.disconnectChannel
  | .cleanup part => if ch.closed then some (ch.cleanup part) else none

def freshFastOpen : FastOpenChannel := ⟨[], true, false, .unset, [], [], false, false, false, false⟩

namespace FastOpenChannel

/-! ## Channels that survive -/

def IsResponse : BaseMessage → Prop
  | .connectResponse _ => True
  | _ => False

/-- No response that has come in is still to be looked at. -/
structure Drained (ch : FastOpenChannel) : Prop where
  handlers : ch.handlers = []
  inbound : ch.inbound = []
  queue : ∀ msg ∈ ch.queue, ¬ IsResponse msg

/-- A confirmed channel is not torn down by the timer, and a refused one is torn
down when the response has been looked at. -/
structure Kept (ch : FastOpenChannel) : Prop where
  survives : ch.lost = false
  tornDown : ch.refused = true → ch.Drained → ch.closed = true

/-- When the timer fires, the goroutines for successful responses have run. -/
def handlersFirst (ch : FastOpenChannel) : FastOpenAction → Bool
  | .expire => ch.handlers.all fun m => !m.success
  | _ => true

/-- Where a response of the first generation has left its mark. -/
structure Marked (ch : FastOpenChannel) : Prop where
  survives : ch.lost = false
  confirmed : ch.confirmed = true → ch.closed = true ∨ ch.timer = .done ∨
    ch.connectionSuccess = true ∨ ∃ m ∈ ch.handlers, m.success = true
  refused : ch.refused = true → ch.closed = true ∨ ∃ m ∈ ch.handlers, m.success = false
  registered : ch.registered = false → ch.closed = true

theorem Marked.kept {ch : FastOpenChannel} (h : ch.Marked) : ch.Kept where
  survives := h.survives
  tornDown := by
    intro hrefused hdrained
    obtain hclosed | ⟨m, hm, -⟩ := h.refused hrefused
    · exact hclosed
    · rw [hdrained.handlers] at hm
      cases hm

section Steps

variable {ch ch' : FastOpenChannel}

theorem Marked.disconnectChannel (h : ch.Marked) : ch.disconnectChannel.Marked where
  survives := h.survives
  confirmed := fun _ => .inl rfl
  refused := fun _ => .inl rfl
  registered := fun _ => rfl

theorem mem_eraseIdx_of_ne {handlers : List ConnectResponseMessage} {k : ℕ}
    {m m' : ConnectResponseMessage} (hm : handlers[k]? = some m)
    (hm' : m' ∈ handlers) (hne : m' ≠ m) : m' ∈ handlers.eraseIdx k := by
  obtain ⟨i, hi⟩ := getElem?_of_mem hm'
  refine mem_eraseIdx_iff_getElem?.mpr ⟨i, fun heq => ?_, hi⟩
  rw [heq, hm] at hi
  exact hne (Option.some.inj hi).symm

theorem Marked.handle {k : ℕ} {m : ConnectResponseMessage} (h : ch.Marked)
    (hm : ch.handlers[k]? = some m) :
    ({ ch with handlers := ch.handlers.eraseIdx k }.handle m).Marked := by
  rw [FastOpenChannel.handle]
  split
  · rw [respond]
    split
    · rename_i hsuccess
      refine ⟨h.survives, fun _ => .inr (.inr (.inl rfl)), ?_, h.registered⟩
      intro hrefused
      obtain hclosed | ⟨m', hm', hfailed⟩ := h.refused hrefused
      · exact .inl hclosed
      · refine .inr ⟨m', mem_eraseIdx_of_ne hm hm' ?_, hfailed⟩
        rintro rfl
        rw [hsuccess] at hfailed
        cases hfailed
    · exact ⟨h.survives, fun _ => .inl rfl, fun _ => .inl rfl, fun _ => rfl⟩
  · -- the queue is gone only after the channel was closed
    rename_i hgone
    have hclosed : ch.closed = true := h.registered (by simpa using hgone)
    exact ⟨h.survives, fun _ => .inl hclosed, fun _ => .inl hclosed, fun _ => hclosed⟩

/-- A response of the first generation is looked at, or a goroutine is started
for it. -/
theorem Marked.arrive {env : FastOpenEnv} (hfirst : env.generation = .first)
    (h : ch.Marked) (m : ConnectResponseMessage) : (ch.arrive env m).Marked := by
  rw [FastOpenChannel.arrive, hfirst]
  cases env.host with
  | client =>
    dsimp only
    rw [respond]
    split
    · rename_i hsuccess
      refine ⟨h.survives, fun _ => .inr (.inr (.inl rfl)), ?_, h.registered⟩
      intro hrefused
      refine h.refused ?_
      simpa [hsuccess] using hrefused
    · exact ⟨h.survives, fun _ => .inl rfl, fun _ => .inl rfl, fun _ => rfl⟩
  | server =>
    refine ⟨h.survives, ?_, ?_, h.registered⟩
    · intro hconfirmed
      rw [Bool.or_eq_true] at hconfirmed
      obtain hconfirmed | hsuccess := hconfirmed
      · obtain hclosed | hdone | hmark | ⟨m', hm', hsuccess⟩ := h.confirmed hconfirmed
        · exact .inl hclosed
        · exact .inr (.inl hdone)
        · exact .inr (.inr (.inl hmark))
        · exact .inr (.inr (.inr ⟨m', mem_append_left _ hm', hsuccess⟩))
      · exact .inr (.inr (.inr ⟨m, by simp, hsuccess⟩))
    · intro hrefused
      rw [Bool.or_eq_true, Bool.not_eq_true'] at hrefused
      obtain hrefused | hfailed := hrefused
      · obtain hclosed | ⟨m', hm', hfailed⟩ := h.refused hrefused
        · exact .inl hclosed
        · exact .inr ⟨m', mem_append_left _ hm', hfailed⟩
      · exact .inr ⟨m, by simp, hfailed⟩

theorem Marked.expire (h : ch.Marked) (harmed : ch.timer = .armed)
    (hhandlers : ch.handlersFirst .expire = true) : ch.expire.Marked := by
  rw [FastOpenChannel.expire]
  split
  · exact ⟨h.survives, fun _ => .inr (.inl rfl), h.refused, h.registered⟩
  · rename_i hmark
    refine ⟨?_, fun _ => .inl rfl, fun _ => .inl rfl, fun _ => rfl⟩
    rw [h.survives, Bool.false_or, Bool.and_eq_false_iff, Bool.not_eq_false']
    by_cases hconfirmed : ch.confirmed = true
    · obtain hclosed | hdone | hmark' | ⟨m, hm, hsuccess⟩ := h.confirmed hconfirmed
      · exact .inr hclosed
      · rw [harmed] at hdone
        cases hdone
      · exact absurd hmark' hmark
      · have hfailed := all_eq_true.mp hhandlers m hm
        rw [hsuccess] at hfailed
        cases hfailed
    · exact .inl (Bool.not_eq_true _ ▸ hconfirmed)

theorem marked_step {env : FastOpenEnv} {a : FastOpenAction}
    (hfirst : env.generation = .first) (h : ch.Marked)
    (hguard : ch.handlersFirst a = true) (hstep : ch.step env a = some ch') : ch'.Marked := by
  revert hguard hstep
  fun_cases FastOpenChannel.step env ch a <;> intro hguard hstep
  case case2 k =>
    obtain ⟨m, hm, rfl⟩ := Option.map_eq_some_iff.mp hstep
    exact h.handle hm
  case case3 =>
    rw [dispatch] at hstep
    split at hstep
    · cases hstep
    · split_ifs at hstep <;> cases hstep
      · exact { h with }
      · exact { h with }
  all_goals cases hstep
  case case1 m => exact h.arrive hfirst m
  case case8 hunset =>
    refine { h with confirmed := fun hconfirmed => ?_ }
    obtain hclosed | hdone | hmark := h.confirmed hconfirmed
    · exact .inl hclosed
    · rw [hunset] at hdone
      cases hdone
    · exact .inr (.inr hmark)
  case case10 harmed => exact h.expire harmed hguard
  case case12 => exact { h with confirmed := fun _ => .inr (.inl rfl) }
  case case14 => exact h.disconnectChannel
  case case15 part hclosed =>
    cases part <;>
      exact ⟨h.survives, fun _ => .inl hclosed, fun _ => .inl hclosed, fun _ => hclosed⟩
  all_goals exact { h with }

end Steps

theorem freshFastOpen_marked : freshFastOpen.Marked where
  survives := rfl
  confirmed := by simp [freshFastOpen]
  refused := by simp [freshFastOpen]
  registered := by simp [freshFastOpen]

end FastOpenChannel

def successResponse : ConnectResponseMessage := ⟨true, [], uuidOf 7⟩

def failureResponse : ConnectResponseMessage := ⟨false, ascii "refused", uuidOf 7⟩

/-- A sealed response comes in and is passed on, long before the timer fires. -/
def sealedResponseRun : List FastOpenAction :=
  [.arm, .arrive successResponse, .dispatch, .forward, .expire]

/-- On either host, the timer tears down a confirmed channel of the second
generation. -/
theorem lost_of_second (host : EntryHost) : Guarded (FastOpenChannel.step ⟨host, .second⟩)
      (fun ch a => ch.handlersFirst a = true) freshFastOpen sealedResponseRun ∧
    ∃ ch, run (FastOpenChannel.step ⟨host, .second⟩) freshFastOpen sealedResponseRun =
      some ch ∧ ch.lost = true := by
  cases host <;> exact ⟨by decide, _, rfl, rfl⟩

/-- Whichever host accepted the request: the runs in which the goroutines of a
server get to successful responses before the timer fires all keep the channel
as the responses say, exactly on the first generation. -/
theorem fastOpen_kept_iff (env : FastOpenEnv) : (∀ actions ch, Guarded (FastOpenChannel.step env)
        (fun ch a => ch.handlersFirst a = true) freshFastOpen actions →
      run (FastOpenChannel.step env) freshFastOpen actions = some ch → ch.Kept) ↔
    env.generation = .first := by
  constructor
  · intro h
    obtain ⟨host, generation⟩ := env
    cases generation with
    | first => rfl
    | second =>
      obtain ⟨hguard, ch, hrun, hlost⟩ := lost_of_second host
      have hkept := (h sealedResponseRun ch hguard hrun).survives
      rw [hlost] at hkept
      cases hkept
  · intro hfirst actions ch hguard hrun
    have h : ch.Marked := run_invariant (fun _ _ _ => FastOpenChannel.marked_step hfirst)
        FastOpenChannel.freshFastOpen_marked hguard hrun
    exact h.kept

/-- On a server of the first generation a goroutine leaves the mark, and the
timer takes it. -/
def confirmedRun : List FastOpenAction := [.arm, .arrive successResponse, .handle 0, .expire]

theorem confirmedRun_kept : ∃ ch, run (FastOpenChannel.step ⟨.server, .first⟩) freshFastOpen
        confirmedRun = some ch ∧
      ch.confirmed = true ∧ ch.timer = .done ∧ ch.closed = false ∧ ch.Kept :=
  ⟨_, rfl, rfl, rfl, rfl,
    (fastOpen_kept_iff ⟨.server, .first⟩).mpr rfl confirmedRun _ (by decide) rfl⟩

/-- A channel of the second generation is confirmed by a sealed response, and
the timer tears it down; another is refused by one, and nothing happens. -/
theorem sealed_responses_ignored :
    (∃ ch, run (FastOpenChannel.step ⟨.client, .second⟩) freshFastOpen sealedResponseRun =
        some ch ∧ ch.confirmed = true ∧ ch.lost = true ∧ ¬ ch.Kept) ∧
    ∃ ch, run (FastOpenChannel.step ⟨.client, .second⟩) freshFastOpen
        [.arm, .arrive failureResponse, .dispatch, .forward] = some ch ∧
      ch.refused = true ∧ ch.Drained ∧ ch.timer = .armed ∧ ch.closed = false := by
  refine ⟨⟨_, rfl, rfl, rfl, fun hkept => ?_⟩, ⟨_, rfl, rfl, ⟨rfl, rfl, ?_⟩, rfl, rfl⟩⟩
  · cases hkept.survives
  · intro msg hmsg
    cases hmsg

end LinkSocks
