import LinkSocks.Relay.ReturnPath

/-!
# The order of what comes back

A payload is written, queued, in a replay or in the hands of a dispatcher.  In
this order the four make up what the provider has sent, as long as no dispatcher
writes past a queue or a replay and no two replays of a channel overlap.
Nothing in the relay sees to that: a channel is mapped to the fresh link before
its queue is replayed.
-/

namespace LinkSocks

open Go List Option AList Function

def Dispatch.holds (id : UUID) : Dispatch → List BaseMessage
  | .write channelID msg _ | .buffer channelID msg => if channelID = id then [msg] else []

def ReplayPC.pending : ReplayPC → List BaseMessage
  | .take => []
  | .write pending | .requeue pending => pending

def Replay.holds (id : UUID) (replay : Replay) : List BaseMessage :=
  if replay.channelID = id then replay.pc.pending else []

namespace ReturnPath

/-- What the dispatchers have in their hands. -/
def inHand (f : ReturnPath) (id : UUID) : UUID → List BaseMessage :=
  held (Dispatch.holds id) f.dispatching

/-- What the replays have taken and not written yet. -/
def replaying (f : ReturnPath) (id : UUID) : Drainer → List BaseMessage :=
  held (Replay.holds id) f.replays

def delivered (f : ReturnPath) (id : UUID) : List BaseMessage :=
  (f.writes.filter fun w => w.ok && w.channelID = id).map (·.message)

def sentFor (f : ReturnPath) (id : UUID) : List BaseMessage := (f.sent.filter (·.1 = id)).map (·.2)

/-! ## In order -/

/-- No other payload of the channel is being dispatched. -/
def HandsFree (f : ReturnPath) (id : UUID) : Prop :=
  ∀ clientID ∈ f.dispatching.keys, f.inHand id clientID = []

def NoReplay (f : ReturnPath) (id : UUID) : Prop := ∀ d ∈ f.replays.keys, f.replaying id d = []

/-- A direct write finds nothing that waits, and the queue has room. -/
def MayDispatch (f : ReturnPath) (id : UUID) (ok : Bool) : Dispatch → Prop
  | .write channelID _ _ => channelID = id → ok = true → f.queued id = [] ∧ f.NoReplay id
  | .buffer channelID _ => channelID = id → (f.queued id).length < orphanDataQueueSize

/-- The queue is not taken while another replay holds something, and has room
for what is put back. -/
def MayReplay (f : ReturnPath) (id : UUID) : ReplayPC → Prop
  | .take => f.queued id = [] ∨ f.NoReplay id
  | .requeue pending => (pending ++ f.queued id).length ≤ orphanDataQueueSize
  | .write _ => True

/-- A dispatcher writes directly only when nothing waits, replays of the
channel do not overlap, and one payload of it is dispatched at a time.  The
queue has room, and neither expires nor is cleaned up. -/
def OneByOne (id : UUID) (f : ReturnPath) : ReturnAction → Prop
  | .relay a => f.cleaned a ≠ some id
  | .payload _ msg => (payloadOf msg).map Prod.fst = some id → f.HandsFree id
  | .dispatch clientID ok =>
    ∀ dispatch ∈ f.dispatching.lookup clientID, f.MayDispatch id ok dispatch
  | .replay d _ => ∀ replay ∈ f.replays.lookup d, replay.channelID = id → f.MayReplay id replay.pc
  | .expireConnectorReturn channelID => channelID ≠ id
  | _ => True

/-- Written, in a replay, queued and in hand: this is what was sent. -/
structure Ordered (id : UUID) (f : ReturnPath) : Prop where
  order : ∃ replaying hand, HeldOnce (f.replaying id) replaying ∧ HeldOnce (f.inHand id) hand ∧
    f.delivered id ++ replaying ++ f.queued id ++ hand = f.sentFor id
  /-- A replay can put back what it has taken. -/
  kept : ∀ d, f.replaying id d ≠ [] → (f.returnQueues.lookup id).isSome

section Steps

variable {f f' : ReturnPath} {id : UUID} {E : RelayEnv}
  {clientID channelID : UUID} {msg : BaseMessage} {d : Drainer} {ok : Bool}

theorem HandsFree.inHand (h : f.HandsFree id) (clientID : UUID) : f.inHand id clientID = [] :=
  held_eq_nil h clientID

theorem NoReplay.replaying (h : f.NoReplay id) (d : Drainer) : f.replaying id d = [] :=
  held_eq_nil h d

theorem Ordered.frame (h : f.Ordered id) (hreplaying : f'.replaying id = f.replaying id)
    (hhand : f'.inHand id = f.inHand id)
    (hqueue : f'.returnQueues.lookup id = f.returnQueues.lookup id)
    (hdelivered : f'.delivered id = f.delivered id)
    (hsent : f'.sentFor id = f.sentFor id) : f'.Ordered id := by
  constructor
  · rw [hreplaying, hhand, hdelivered, hsent, queued, hqueue]
    exact h.order
  · rw [hreplaying, hqueue]
    exact h.kept

theorem delivered_log (f : ReturnPath) (id channelID : UUID) (msg : BaseMessage)
    (target : Link) (ok : Bool) : (f.log channelID msg target ok).delivered id =
      f.delivered id ++ if ok = true ∧ channelID = id then [msg] else [] := by
  rw [delivered, log, delivered]
  by_cases h : ok = true ∧ channelID = id
  · simp [h]
  · rw [if_neg h]
    simpa using h

/-! ## Dispatchers -/

theorem Ordered.payload (h : f.Ordered id) (hfree : channelID = id → f.HandsFree id)
    (hidle : f.dispatching.lookup clientID = none) : Ordered id { f with
      sent := f.sent ++ [(channelID, msg)]
      dispatching := f.dispatching.insert clientID (f.lookUp channelID msg) } := by
  have hholds : (f.lookUp channelID msg).holds id = if channelID = id then [msg] else [] := by
    rw [lookUp]
    cases f.connector channelID <;> rfl
  by_cases hid : channelID = id
  · rw [if_pos hid] at hholds
    obtain ⟨replaying, hand, hreplaying, hhand, horder⟩ := h.order
    obtain rfl : hand = [] := hhand.eq_nil (hfree hid).inHand
    refine ⟨⟨replaying, [msg], hreplaying, ?_, ?_⟩, h.kept⟩
    · rw [inHand, held_insert, hholds]
      exact .update (fun j _ => (hfree hid).inHand j) _
    · rw [append_nil] at horder
      rw [sentFor, filter_append, map_append]
      simp only [hid, decide_true, filter_cons_of_pos, filter_nil, map_cons, map_nil]
      exact congrArg (· ++ [msg]) horder
  · rw [if_neg hid] at hholds
    refine h.frame rfl ?_ rfl rfl ?_
    · refine held_insert_same ?_
      rw [held_of_lookup_none hidle, hholds]
    · simp [sentFor, hid]

/-- A dispatcher delivers its payload, or puts it on the queue. -/
theorem Ordered.leaveHand {clientID : UUID}
    (h : f.Ordered id) (hhand : f.inHand id clientID = [msg])
    (herased : f'.dispatching = f.dispatching.erase clientID)
    (hreplays : f'.replays = f.replays) (hsent : f'.sent = f.sent)
    (hkept : (f.returnQueues.lookup id).isSome → (f'.returnQueues.lookup id).isSome)
    (hnext : ∀ replaying, HeldOnce (f.replaying id) replaying →
      f'.delivered id ++ replaying ++ f'.queued id =
        f.delivered id ++ replaying ++ f.queued id ++ [msg]) : f'.Ordered id := by
  have hreplaying : f'.replaying id = f.replaying id := by
    rw [replaying, hreplays, replaying]
  have hsentFor : f'.sentFor id = f.sentFor id := by
    rw [sentFor, hsent, sentFor]
  obtain ⟨replaying, hand, honce, hhands, horder⟩ := h.order
  obtain ⟨rfl, hothers⟩ := hhands.of_ne_nil (k := clientID) (by simp [hhand])
  rw [hhand] at horder
  refine ⟨⟨replaying, [], ?_, ?_, ?_⟩, fun d hd => ?_⟩
  · rwa [hreplaying]
  · rw [inHand, herased, held_erase]
    exact .update hothers []
  · rw [append_nil, hnext replaying honce, horder, hsentFor]
  · rw [hreplaying] at hd
    exact hkept (h.kept d hd)

theorem inHand_of_lookup (id : UUID) {clientID : UUID} {d : Dispatch}
    (hlookup : f.dispatching.lookup clientID = some d) : f.inHand id clientID = d.holds id :=
  held_of_lookup hlookup

theorem Ordered.dispatchWrite {target : Link} (h : f.Ordered id)
    (hlookup : f.dispatching.lookup clientID = some (.write channelID msg target))
    (hguard : f.MayDispatch id ok (.write channelID msg target)) :
    (f.dispatch clientID ok (.write channelID msg target)).Ordered id := by
  have hhand := inHand_of_lookup id hlookup
  have hdelivered := f.delivered_log id channelID msg target ok
  by_cases hwritten : ok = true ∧ channelID = id
  · obtain ⟨rfl, rfl⟩ := hwritten
    obtain ⟨hqueued, hnoReplay⟩ := hguard rfl rfl
    rw [if_pos ⟨rfl, rfl⟩] at hdelivered
    refine h.leaveHand (hhand.trans (if_pos rfl)) rfl rfl rfl (fun hsome => hsome) ?_
    intro replaying honce
    obtain rfl := honce.eq_nil hnoReplay.replaying
    have hqueued' : (f.dispatch clientID true (.write channelID msg target)).queued
        channelID = [] := hqueued
    rw [hqueued', hqueued]
    simp only [append_nil]
    exact hdelivered
  · rw [if_neg hwritten, append_nil] at hdelivered
    refine h.frame rfl ?_ rfl hdelivered rfl
    by_cases hok : ok = true
    · -- a payload of another channel
      have hid : channelID ≠ id := fun hid => hwritten ⟨hok, hid⟩
      rw [dispatch, if_pos hok]
      exact held_erase_same (hhand.trans (if_neg hid))
    · rw [dispatch, if_neg hok]
      exact held_insert_same hhand

theorem Ordered.dispatchBuffer (h : f.Ordered id)
    (hlookup : f.dispatching.lookup clientID = some (.buffer channelID msg))
    (hguard : f.MayDispatch id ok (.buffer channelID msg)) :
    (f.dispatch clientID ok (.buffer channelID msg)).Ordered id := by
  have hhand := inHand_of_lookup id hlookup
  by_cases hid : channelID = id
  · subst hid
    have hqueue : (f.dispatch clientID ok (.buffer channelID msg)).returnQueues.lookup channelID =
          some (f.queued channelID ++ [msg]) := by
      rw [dispatch, bufferConnectorReturn, lookup_insert, if_pos (hguard rfl)]
    refine h.leaveHand (hhand.trans (if_pos rfl)) rfl rfl rfl ?_ ?_
    · intro _
      rw [hqueue]
      rfl
    · intro replaying _
      have hdelivered : (f.dispatch clientID ok (.buffer channelID msg)).delivered
          channelID = f.delivered channelID := rfl
      rw [hdelivered, queued, hqueue, getD_some]
      simp only [append_assoc]
  · refine h.frame rfl ?_ (lookup_insert_ne (Ne.symm hid)) rfl rfl
    exact held_erase_same (hhand.trans (if_neg hid))

/-! ## Replays -/

theorem replaying_of_lookup {replay : Replay} (hlookup : f.replays.lookup d = some replay) :
    f.replaying id d = replay.holds id := held_of_lookup hlookup

/-- A replay goes on with what is left. -/
theorem Ordered.carryOn {pending : List BaseMessage}
    (h : f.Ordered id) (hothers : ∀ j, j ≠ d → f.replaying id j = [])
    (hreplaying : f'.replaying id = Function.update (f.replaying id) d pending)
    (hdispatching : f'.dispatching = f.dispatching) (hsent : f'.sent = f.sent)
    (hkept : (f'.returnQueues.lookup id).isSome)
    (hnext : ∀ replaying, HeldOnce (f.replaying id) replaying →
      f'.delivered id ++ pending ++ f'.queued id =
        f.delivered id ++ replaying ++ f.queued id) : f'.Ordered id := by
  have hhand : f'.inHand id = f.inHand id := by
    rw [inHand, hdispatching, inHand]
  have hsentFor : f'.sentFor id = f.sentFor id := by
    rw [sentFor, hsent, sentFor]
  obtain ⟨replaying, hand, honce, hhands, horder⟩ := h.order
  refine ⟨⟨pending, hand, ?_, ?_, ?_⟩, fun _ _ => hkept⟩
  · rw [hreplaying]
    exact .update hothers pending
  · rwa [hhand]
  · rw [hnext replaying honce, horder, hsentFor]

section Replays

variable {d : Drainer} {replay : Replay} {ok : Bool}

section

variable (h : f.Ordered id) (hlookup : f.replays.lookup d = some replay)
include h hlookup

theorem Ordered.otherReplay (hid : replay.channelID ≠ id) :
    (f.stepReplay d ok replay).Ordered id := by
  have hheld : held (Replay.holds id) f.replays d = [] :=
    (held_of_lookup hlookup).trans (if_neg hid)
  have hinsert : ∀ pc, held (Replay.holds id)
      (f.replays.insert d { replay with pc := pc }) = f.replaying id :=
    fun pc => held_insert_same (hheld.trans (if_neg hid).symm)
  have herase : held (Replay.holds id) (f.replays.erase d) = f.replaying id := held_erase_same hheld
  have hqueue : ∀ queue, (f.returnQueues.insert replay.channelID queue).lookup id =
      f.returnQueues.lookup id := fun queue => lookup_insert_ne hid.symm
  rw [stepReplay]
  split
  · split
    · exact h.frame herase rfl rfl rfl rfl
    · exact h.frame (hinsert _) rfl (hqueue _) rfl rfl
  · exact h.frame herase rfl rfl rfl rfl
  · refine h.frame (hinsert _) rfl rfl ?_ rfl
    refine (f.delivered_log ..).trans ?_
    rw [if_neg fun hwritten => hid hwritten.2, append_nil]
  · refine h.frame herase rfl ?_ rfl rfl
    split
    · rfl
    · exact hqueue _

theorem Ordered.takeQueue (hid : replay.channelID = id)
    (hpc : replay.pc = .take) (hguard : f.MayReplay id .take) :
    (f.stepReplay d ok replay).Ordered id := by
  have hheld : f.replaying id d = [] := by
    rw [replaying_of_lookup hlookup, Replay.holds, if_pos hid, hpc]
    rfl
  rw [stepReplay, hpc]
  cases hqueue : f.returnQueues.lookup replay.channelID with
  | none => exact h.frame (held_erase_same hheld) rfl rfl rfl rfl
  | some queue =>
    have hqueued : f.queued id = queue := by
      rw [queued, ← hid, hqueue]
      rfl
    have hempty : (f.returnQueues.insert replay.channelID []).lookup id = some [] := by
      rw [hid]
      exact lookup_insert _
    have hreplaying : held (Replay.holds id)
        (f.replays.insert d { replay with pc := .write queue }) =
          update (f.replaying id) d queue := by
      rw [held_insert, Replay.holds, if_pos hid]
      rfl
    rcases hguard with hnothing | hnoReplay
    · obtain rfl : queue = [] := hqueued.symm.trans hnothing
      refine h.frame (hreplaying.trans ?_) rfl ?_ rfl rfl
      · rw [← hheld, update_eq_self]
      · rw [← hid, hqueue]
        exact lookup_insert _
    · refine h.carryOn (fun j _ => hnoReplay.replaying j) hreplaying rfl rfl ?_ ?_
      · rw [hempty]
        rfl
      · intro replaying honce
        obtain rfl := honce.eq_nil hnoReplay.replaying
        rw [hqueued, queued, hempty]
        simp only [getD_some, append_nil]
        rfl

theorem Ordered.replayWrite {msg : BaseMessage} {rest : List BaseMessage}
    (hid : replay.channelID = id) (hpc : replay.pc = .write (msg :: rest)) :
    (f.stepReplay d ok replay).Ordered id := by
  have hheld : f.replaying id d = msg :: rest := by
    rw [replaying_of_lookup hlookup, Replay.holds, if_pos hid, hpc]
    rfl
  have hholding : f.replaying id d ≠ [] := by simp [hheld]
  have hdelivered := f.delivered_log id replay.channelID msg replay.target ok
  rw [stepReplay, hpc]
  cases ok with
  | true =>
    rw [if_pos ⟨rfl, hid⟩] at hdelivered
    obtain ⟨replaying, hand, honce, -, -⟩ := h.order
    obtain ⟨-, hothers⟩ := honce.of_ne_nil hholding
    have hreplaying : held (Replay.holds id)
        (f.replays.insert d { replay with pc := .write rest }) =
          update (f.replaying id) d rest := by
      rw [held_insert, Replay.holds, if_pos hid]
      rfl
    refine h.carryOn hothers hreplaying rfl rfl (h.kept d hholding) ?_
    intro replaying honce
    obtain ⟨rfl, -⟩ := honce.of_ne_nil hholding
    rw [hheld, ← singleton_append, ← append_assoc]
    exact congrArg (· ++ rest ++ f.queued id) hdelivered
  | false =>
    rw [if_neg (by simp), append_nil] at hdelivered
    refine h.frame ?_ rfl rfl hdelivered rfl
    refine held_insert_same (hheld.trans ?_)
    rw [Replay.holds, if_pos hid]
    rfl

theorem Ordered.putBack {pending : List BaseMessage} (hid : replay.channelID = id)
    (hpc : replay.pc = .requeue pending) (hguard : f.MayReplay id (.requeue pending)) :
    (f.stepReplay d ok replay).Ordered id := by
  have hheld : f.replaying id d = pending := by
    rw [replaying_of_lookup hlookup, Replay.holds, if_pos hid, hpc]
    rfl
  have hroom : (pending ++ f.queued id).take orphanDataQueueSize =
      pending ++ f.queued id := take_of_length_le hguard
  have hreplaying : held (Replay.holds id) (f.replays.erase d) =
      update (f.replaying id) d [] := held_erase _ _
  rw [stepReplay, hpc]
  subst hid
  cases hqueue : f.returnQueues.lookup replay.channelID with
  | none =>
    -- a replay that holds something finds its queue
    have hnothing : pending = [] := by
      by_contra hsome
      have hkept := h.kept d (hheld.trans_ne hsome)
      rw [hqueue] at hkept
      contradiction
    exact h.frame (held_erase_same (hheld.trans hnothing)) rfl rfl rfl rfl
  | some queue =>
    have hqueued : f.queued replay.channelID = queue := by
      rw [queued, hqueue]
      rfl
    rw [hqueued] at hroom
    have hlookup' : (f.returnQueues.insert replay.channelID
        ((pending ++ queue).take orphanDataQueueSize)).lookup replay.channelID =
          some (pending ++ queue) := by
      rw [lookup_insert, hroom]
    by_cases hnothing : pending = []
    · subst hnothing
      refine h.frame (held_erase_same hheld) rfl ?_ rfl rfl
      rw [hqueue]
      exact hlookup'
    · have hholding := hheld.trans_ne hnothing
      obtain ⟨replaying, hand, honce, -, -⟩ := h.order
      obtain ⟨-, hothers⟩ := honce.of_ne_nil hholding
      refine h.carryOn hothers hreplaying rfl rfl ?_ ?_
      · rw [hlookup']
        rfl
      · intro replaying honce
        obtain ⟨rfl, -⟩ := honce.of_ne_nil hholding
        rw [hheld, hqueued, queued, hlookup', append_nil, append_assoc]
        rfl

theorem Ordered.stepReplay (hguard : replay.channelID = id → f.MayReplay id replay.pc) :
    (f.stepReplay d ok replay).Ordered id := by
  by_cases hid : replay.channelID = id
  · have hmay := hguard hid
    rcases hpc : replay.pc with _ | (_ | ⟨msg, rest⟩) | pending
    · rw [hpc] at hmay
      exact h.takeQueue hlookup hid hpc hmay
    · rw [ReturnPath.stepReplay, hpc]
      refine h.frame (held_erase_same ?_) rfl rfl rfl rfl
      rw [held_of_lookup hlookup, Replay.holds, if_pos hid, hpc]
      rfl
    · exact h.replayWrite hlookup hid hpc
    · rw [hpc] at hmay
      exact h.putBack hlookup hid hpc hmay
  · exact h.otherReplay hlookup hid

end

end Replays

/-! ## The relay and rebinds -/

theorem replaying_start (hidle : f.replays.lookup d = none) (channelID : UUID) (target : Link) :
    held (Replay.holds id) (f.replays.insert d ⟨channelID, target, .take⟩) = f.replaying id := by
  refine held_insert_same ?_
  rw [held_of_lookup_none hidle, Replay.holds]
  split <;> rfl

theorem Ordered.follow {a : RelayAction} {r' : Relay} (h : f.Ordered id)
    (hfree : f.blocks a = false) (hkept : f.cleaned a ≠ some id) : (f.follow a r').Ordered id := by
  refine h.frame ?_ rfl ?_ rfl rfl
  · obtain hsame | ⟨n, channelID, target, -, hidle, hstart⟩ := replaysAfter_cases hfree
    · exact congrArg (held (Replay.holds id)) hsame
    · rw [ReturnPath.follow, hstart]
      exact replaying_start hidle channelID target
  · rw [ReturnPath.follow]
    cases hcleaned : f.cleaned a with
    | none => rfl
    | some channelID =>
      refine lookup_erase_ne ?_
      rintro rfl
      exact hkept hcleaned

theorem Ordered.rebind {k : ℕ} {rebind : Rebind} (h : f.Ordered id)
    (hstep : f.stepRebind k rebind = some f') : f'.Ordered id := by
  obtain ⟨rebind', rfl⟩ | ⟨channelID, rest, cur, rebind', -, -, hidle, -, -, rfl⟩ :=
    stepRebind_cases hstep
  · exact h.frame rfl rfl rfl rfl rfl
  · exact h.frame (replaying_start hidle channelID _) rfl rfl rfl rfl

theorem Ordered.dispatch {clientID : UUID} {d : Dispatch}
    (h : f.Ordered id) (hlookup : f.dispatching.lookup clientID = some d)
    (hguard : f.MayDispatch id ok d) : (f.dispatch clientID ok d).Ordered id := by
  cases d with
  | write channelID msg target => exact h.dispatchWrite hlookup hguard
  | buffer channelID msg => exact h.dispatchBuffer hlookup hguard

/-- Every action in which payloads are dispatched one by one. -/
theorem Ordered.step {a : ReturnAction} (h : f.Ordered id)
    (hguard : OneByOne id f a) (hstep : f.step E a = some f') : f'.Ordered id := by
  cases a with
  | relay a =>
    obtain ⟨hfree, r', -, rfl⟩ := step_relay hstep
    exact h.follow hfree hguard
  | payload clientID msg =>
    obtain ⟨⟨channelID, msg'⟩, hmsg, hidle, rfl⟩ := step_payload hstep
    refine h.payload (fun hid => hguard ?_) hidle
    rw [hmsg, map_some, hid]
  | dispatch clientID ok =>
    obtain ⟨d, hd, rfl⟩ := map_eq_some_iff.mp hstep
    exact h.dispatch hd (hguard d hd)
  | startRebind clientID =>
    obtain ⟨rebind, rfl⟩ := step_startRebind hstep
    exact h.frame rfl rfl rfl rfl rfl
  | rebind k =>
    obtain ⟨rebind, -, hrebind⟩ := bind_eq_some_iff.mp hstep
    exact h.rebind hrebind
  | replay d ok =>
    obtain ⟨replay, hreplay, rfl⟩ := map_eq_some_iff.mp hstep
    exact h.stepReplay hreplay (hguard replay hreplay)
  | expireConnectorReturn channelID =>
    cases hstep
    refine h.frame rfl rfl ?_ rfl rfl
    split_ifs
    · rfl
    · exact lookup_erase_ne (Ne.symm hguard)
  | tick millis | ping link | pong link =>
    cases hstep
    exact h.frame rfl rfl rfl rfl rfl

theorem returnPathOf_ordered (r : Relay) (now : ℕ) (id : UUID) :
    (returnPathOf r now).Ordered id := by
  have hhand : ∀ clientID, (returnPathOf r now).inHand id clientID = [] :=
    fun clientID => held_of_lookup_none rfl
  have hreplaying : ∀ d, (returnPathOf r now).replaying id d = [] :=
    fun d => held_of_lookup_none rfl
  have : Nonempty Drainer := ⟨.pump 0⟩
  have : Nonempty UUID := ⟨id⟩
  refine ⟨⟨[], [], .of_none hreplaying, .of_none hhand, rfl⟩, fun d hd => ?_⟩
  exact absurd (hreplaying d) hd

end Steps

end ReturnPath

/-- In every run in which the payloads of a channel go one by one, what its
connector gets is, in order, the beginning of what was sent, and what is
replayed, queued and in hand is the rest. -/
theorem return_path_in_order (E : RelayEnv) {r : Relay} {now : ℕ} {id : UUID}
    {f : ReturnPath} {actions : List ReturnAction}
    (hguard : Guarded (ReturnPath.step E) (ReturnPath.OneByOne id) (returnPathOf r now) actions)
    (hrun : run (ReturnPath.step E) (returnPathOf r now) actions = some f) :
    f.delivered id <+: f.sentFor id ∧ ∃ replaying hand, HeldOnce (f.replaying id) replaying ∧
        HeldOnce (f.inHand id) hand ∧
        f.delivered id ++ (replaying ++ f.queued id ++ hand) = f.sentFor id := by
  have hordered : f.Ordered id := run_invariant (fun _ _ _ h => h.step)
      (ReturnPath.returnPathOf_ordered r now id) hguard hrun
  obtain ⟨replaying, hand, hreplaying, hhand, horder⟩ := hordered.order
  simp only [append_assoc] at horder
  refine ⟨⟨_, horder⟩, replaying, hand, hreplaying, hhand, ?_⟩
  simpa only [append_assoc] using horder

/-! ## A connector that comes back -/

instance (f : ReturnPath) (id : UUID) : Decidable (f.HandsFree id) :=
  inferInstanceAs (Decidable (∀ clientID ∈ f.dispatching.keys, _))

instance (f : ReturnPath) (id : UUID) : Decidable (f.NoReplay id) :=
  inferInstanceAs (Decidable (∀ d ∈ f.replays.keys, _))

instance (f : ReturnPath) (id : UUID) (ok : Bool) (d : Dispatch) :
    Decidable (f.MayDispatch id ok d) := by
  unfold ReturnPath.MayDispatch
  split <;> infer_instance

instance (f : ReturnPath) (id : UUID) (pc : ReplayPC) : Decidable (f.MayReplay id pc) := by
  unfold ReturnPath.MayReplay
  split <;> infer_instance

instance (id : UUID) (f : ReturnPath) (a : ReturnAction) : Decidable (f.OneByOne id a) := by
  unfold ReturnPath.OneByOne
  split <;> infer_instance

/-- The queue is replayed before the next payload arrives. -/
def replayedRun : List ReturnAction :=
  takenOverRun ++ [.replay (.rebind 0) true, .replay (.rebind 0) true, .replay (.rebind 0) true,
      .payload (uuidOf 1) (sealedPayload 2), .dispatch (uuidOf 1) true]

/-- The next payload arrives before the queue is replayed. -/
def freshFirstRun : List ReturnAction :=
  takenOverRun ++ [.payload (uuidOf 1) (sealedPayload 2), .dispatch (uuidOf 1) true,
      .replay (.rebind 0) true, .replay (.rebind 0) true]

def returned (actions : List ReturnAction) : Option (List BaseMessage × List BaseMessage) :=
  (run (ReturnPath.step graceEnv)
    (returnPathOf (idleRelay pairRegistry protocolVersionV2) 1700000000000)
    actions).map fun f => (f.sentFor UUID.nil, f.delivered UUID.nil)

theorem replayedRun_in_order : Guarded (ReturnPath.step graceEnv) (ReturnPath.OneByOne UUID.nil)
      (returnPathOf (idleRelay pairRegistry protocolVersionV2) 1700000000000) replayedRun ∧
    ∃ f, run (ReturnPath.step graceEnv)
        (returnPathOf (idleRelay pairRegistry protocolVersionV2) 1700000000000)
        replayedRun = some f ∧ f.delivered UUID.nil = [sealedPayload 1, sealedPayload 2] ∧
      f.delivered UUID.nil <+: f.sentFor UUID.nil := by
  refine ⟨?guard, exists_run_and ?_ fun _ hrun => (return_path_in_order graceEnv ?guard hrun).1⟩
  all_goals decide +kernel

/-- The second payload overtakes the first. -/
theorem freshFirstRun_out_of_order : returned freshFirstRun =
      some ([sealedPayload 1, sealedPayload 2], [sealedPayload 2, sealedPayload 1]) ∧
    ¬ [sealedPayload 2, sealedPayload 1] <+: [sealedPayload 1, sealedPayload 2] := by
  constructor <;> decide +kernel

end LinkSocks
