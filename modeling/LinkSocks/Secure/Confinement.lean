import LinkSocks.Secure.Endpoint

/-!
# What a sealed session reaches

A session is routed to by the channel of its frames, but a responder acts on
the channel named inside the decrypted message.  A sequence of messages keeps
to the channel of the session exactly when each message the responder acts on
names that channel.
-/

namespace LinkSocks

open Go Endpoint ChannelState List Option

/-- The channel that a responder changes on a message, if it acts on it. -/
def EndpointEnv.actsOn (env : EndpointEnv) : BaseMessage → Option UUID
  | .connect m => some m.channelID
  | .data m => some m.channelID
  | .disconnect m => if env.isClient then some m.channelID else none
  | _ => none

/-- The dispatches of a session, one message after another. -/
def Endpoint.dispatchAll (env : EndpointEnv) (ref : SessionRef)
    (s : RecvSession) : Endpoint → List BaseMessage → Option Endpoint :=
  run fun E msg => E.dispatch env ref s msg

/-! ## Traces of a dispatch

Queue, cleanups, dials and responses only grow by dispatch, so that their size
tells whether a channel has been touched. -/

def ChannelState.weight (ch : ChannelState) : ℕ :=
  (ch.queue.getD []).length + ch.cleanups + ch.dials.length + ch.responses.length

section

variable (ch : ChannelState)

theorem ChannelState.weight_trySend (item : Item) : ch.weight ≤ (ch.trySend item).weight := by
  cases hq : ch.queue with
  | none => simp [trySend, hq]
  | some q =>
    simp only [trySend, hq]
    split
    · simp only [weight, hq, getD_some, length_append]
      omega
    · exact le_rfl

theorem ChannelState.weight_deliverData (m : DataMessage)
    (origin : Origin) : ch.weight ≤ (ch.deliverData m origin).weight := by
  have hsend := ch.weight_trySend ⟨.data m, origin⟩
  simp only [deliverData]
  split
  · split
    · exact hsend
    · exact le_rfl
  · split
    · exact le_rfl
    · split
      · split
        · exact hsend
        · exact le_rfl
      · exact le_rfl

theorem ChannelState.weight_secureConnect (dial : Dial) :
    ch.weight < (ch.secureConnect dial).weight := by
  cases hq : ch.queue with
  | some q =>
    simp only [secureConnect, hq, weight, getD_some, length_append, length_singleton]
    omega
  | none =>
    cases ho : ch.orphans <;> simp only [secureConnect, hq, ho, flushOrphanData, weight,
        getD_some, getD_none, length_append, length_singleton, length_nil] <;> omega

theorem ChannelState.weight_peerDisconnect : ch.weight < ch.peerDisconnect.weight := by
  have hqueue : ch.hubClose.queue = ch.queue ∧ ch.hubClose.dials = ch.dials ∧
      ch.hubClose.responses = ch.responses := by
    rw [hubClose]
    split <;> exact ⟨rfl, rfl, rfl⟩
  simp only [peerDisconnect, weight, hqueue]
  omega

end

section Dispatch

variable {env : EndpointEnv} {ref : SessionRef} {s : RecvSession}
  {E E' : Endpoint} {j : UUID} {msg : BaseMessage} {msgs : List BaseMessage}

/-- What acting on channel `id` comes to: other channels stay as they are, and
the channel keeps what it has, with a trace of the message if it is open. -/
structure Endpoint.Touches (id : UUID) (E E' : Endpoint) : Prop where
  others : ∀ j, j ≠ id → E' j = E j
  grows : (E id).weight ≤ (E' id).weight
  trace : (E id).queue = some [] → (E id).logical = none → (E id).weight < (E' id).weight

theorem Endpoint.touches_modify {id : UUID} {f : ChannelState → ChannelState}
    (hf : (E id).weight < (f (E id)).weight) : E.Touches id (E.modify id f) where
  others := fun _ hj => modify_of_ne E f hj
  grows := by
    rw [modify_self]
    exact hf.le
  trace := fun _ _ => by rwa [modify_self]

theorem Endpoint.touches_deliverData (m : DataMessage) (origin : Origin) :
    E.Touches m.channelID (E.modify m.channelID (·.deliverData m origin)) where
  others := fun _ hj => modify_of_ne E _ hj
  grows := by
    rw [modify_self]
    exact weight_deliverData _ m origin
  trace := by
    intro hqueue hlogical
    simp [deliverData, hlogical, hqueue, trySend, messageQueueSize, weight]

theorem Endpoint.touches_deliverToRelay {m : DataMessage}
    (h : E.deliverToRelay ref s m = some E') : E.Touches m.channelID E' := by
  have hunchanged : (E m.channelID).queue ≠ some [] → E.Touches m.channelID E := fun hqueue =>
    ⟨fun _ _ => rfl, le_rfl, fun hempty => absurd hempty hqueue⟩
  revert h
  fun_cases Endpoint.deliverToRelay E ref s m <;> intro h <;> cases h
  case case1 hnone => exact hunchanged (by simp [hnone])
  case case2 q hq hroom =>
    refine touches_modify ?_
    simp only [ChannelState.trySend, hq, hroom, if_true, ChannelState.weight,
      getD_some, length_append, length_singleton]
    omega
  case case3 q hq hfull _ =>
    refine hunchanged fun hempty => ?_
    rw [hq] at hempty
    cases hempty
    exact hfull (by decide)

section

variable (hs : s.initiator = false)
include hs

theorem Endpoint.dispatch_touches (h : E.dispatch env ref s msg = some E') :
    (env.actsOn msg = none ∧ E' = E) ∨ ∃ id, env.actsOn msg = some id ∧ E.Touches id E' := by
  cases msg with
  | connect m =>
    refine .inr ⟨m.channelID, rfl, ?_⟩
    simp only [Endpoint.dispatch, hs, Bool.false_eq_true, if_false] at h
    split at h
    · cases h
      exact touches_modify (weight_secureConnect _ _)
    · split at h <;> cases h
      · refine touches_modify ?_
        simp only [ChannelState.weight, length_append, length_singleton]
        omega
      · refine touches_modify ?_
        simp only [relayConnect, ChannelState.weight, getD_some, length_append, length_singleton]
        omega
  | data m =>
    refine .inr ⟨m.channelID, rfl, ?_⟩
    simp only [Endpoint.dispatch, hs, Bool.false_eq_true, if_false] at h
    split_ifs at h
    · cases h
      exact touches_deliverData m _
    · exact touches_deliverToRelay h
  | disconnect m =>
    simp only [Endpoint.dispatch, hs, Bool.false_eq_true, if_false] at h
    split_ifs at h with hside <;> cases h
    · exact .inr ⟨m.channelID, if_pos hside, touches_modify (weight_peerDisconnect _)⟩
    · exact .inl ⟨if_neg hside, rfl⟩
  | connectResponse m =>
    simp only [Endpoint.dispatch, hs, Bool.false_eq_true, if_false] at h
    cases h
    exact .inl ⟨rfl, rfl⟩
  | _ =>
    cases h
    exact .inl ⟨rfl, rfl⟩

theorem Endpoint.dispatch_of_ne
    (hj : env.actsOn msg ≠ some j) (h : E.dispatch env ref s msg = some E') : E' j = E j := by
  obtain ⟨-, rfl⟩ | ⟨id, hid, htouches⟩ := dispatch_touches hs h
  · rfl
  · refine htouches.others j ?_
    rintro rfl
    exact hj hid

theorem Endpoint.weight_dispatch
    (h : E.dispatch env ref s msg = some E') : (E j).weight ≤ (E' j).weight := by
  obtain ⟨-, rfl⟩ | ⟨id, -, htouches⟩ := dispatch_touches hs h
  · exact le_rfl
  · by_cases hj : j = id
    · rw [hj]
      exact htouches.grows
    · rw [htouches.others j hj]

theorem Endpoint.weight_dispatch_lt (hqueue : (E j).queue = some [])
    (hlogical : (E j).logical = none) (hacts : env.actsOn msg = some j)
    (h : E.dispatch env ref s msg = some E') : (E j).weight < (E' j).weight := by
  obtain ⟨hnone, -⟩ | ⟨id, hid, htouches⟩ := dispatch_touches hs h
  · rw [hacts] at hnone
    cases hnone
  · obtain rfl : j = id := some.inj (hacts.symm.trans hid)
    exact htouches.trace hqueue hlogical

theorem Endpoint.dispatchAll_of_ne (hj : ∀ msg ∈ msgs, env.actsOn msg ≠ some j)
    (h : E.dispatchAll env ref s msgs = some E') : E' j = E j := by
  induction msgs generalizing E with
  | nil =>
    cases h
    rfl
  | cons msg msgs ih =>
    obtain ⟨E₁, hmsg, hrest⟩ := run_cons h
    calc
      E' j = E₁ j := ih (fun m hm => hj m (.tail _ hm)) hrest
      _ = E j := dispatch_of_ne hs (hj msg (.head _)) hmsg

theorem Endpoint.weight_dispatchAll (h : E.dispatchAll env ref s msgs = some E') :
    (E j).weight ≤ (E' j).weight := by
  induction msgs generalizing E with
  | nil =>
    cases h
    exact le_rfl
  | cons msg msgs ih =>
    obtain ⟨E₁, hmsg, hrest⟩ := run_cons h
    exact (weight_dispatch hs hmsg).trans (ih hrest)

/-- So does a sequence with such a message: those before it leave the channel
open. -/
theorem Endpoint.weight_dispatchAll_lt (hqueue : (E j).queue = some [])
    (hlogical : (E j).logical = none) (hacts : ∃ msg ∈ msgs, env.actsOn msg = some j)
    (h : E.dispatchAll env ref s msgs = some E') : (E j).weight < (E' j).weight := by
  induction msgs generalizing E with
  | nil =>
    obtain ⟨_, hmem, _⟩ := hacts
    cases hmem
  | cons msg msgs ih =>
    obtain ⟨E₁, hmsg, hrest⟩ := run_cons h
    by_cases hhead : env.actsOn msg = some j
    · exact (weight_dispatch_lt hs hqueue hlogical hhead hmsg).trans_le
        (weight_dispatchAll hs hrest)
    · have hsame : E₁ j = E j := dispatch_of_ne hs hhead hmsg
      obtain ⟨m, hm, hmacts⟩ := hacts
      have htail : m ∈ msgs := by
        rcases mem_cons.mp hm with rfl | htail
        · exact absurd hmacts hhead
        · exact htail
      rw [← hsame]
      exact ih (by rwa [hsame]) (by rwa [hsame]) ⟨m, htail, hmacts⟩ hrest

end

/-- A session that is over never blocks. -/
theorem Endpoint.dispatch_of_closed (env : EndpointEnv) (ref : SessionRef)
    (hs : s.initiator = false) (hclosed : s.closed = true) (E : Endpoint) (msg : BaseMessage) :
    ∃ E', E.dispatch env ref s msg = some E' := by
  cases msg with
  | connect m =>
    simp only [Endpoint.dispatch, hs, Bool.false_eq_true, if_false]
    split
    · exact ⟨_, rfl⟩
    · split <;> exact ⟨_, rfl⟩
  | data m =>
    simp only [Endpoint.dispatch, hs, Bool.false_eq_true, if_false]
    split
    · exact ⟨_, rfl⟩
    · rw [Endpoint.deliverToRelay]
      split
      · exact ⟨_, rfl⟩
      · split
        · exact ⟨_, rfl⟩
        · exact ⟨_, rfl⟩
  | disconnect m =>
    simp only [Endpoint.dispatch, hs, Bool.false_eq_true, if_false]
    split <;> exact ⟨_, rfl⟩
  | connectResponse m =>
    exact ⟨_, if_neg (by simp [hs])⟩
  | _ => exact ⟨_, rfl⟩

theorem Endpoint.dispatchAll_of_closed (env : EndpointEnv) (ref : SessionRef)
    (hs : s.initiator = false) (hclosed : s.closed = true) (E : Endpoint)
    (msgs : List BaseMessage) : ∃ E', E.dispatchAll env ref s msgs = some E' := by
  induction msgs generalizing E with
  | nil => exact ⟨E, rfl⟩
  | cons msg msgs ih =>
    obtain ⟨E₁, hmsg⟩ := dispatch_of_closed env ref hs hclosed E msg
    obtain ⟨E', hrest⟩ := ih E₁
    exact ⟨E', bind_eq_some_iff.mpr ⟨E₁, hmsg, hrest⟩⟩

end Dispatch

/-! ## Exactly the sequences that stay in their channel -/

def openEndpoint : Endpoint := fun _ => { emptyChannel with queue := some [] }

/-- It dispatches what is left in its buffer, and waits for no room. -/
def endedResponder : RecvSession := ⟨false, none, [], 2, true, 0, true, false⟩

/-- From every state of the endpoint, a responder on a client or a relay that
dispatches the messages leaves all that is kept for other channels as it was,
if and only if each message it acts on names the channel of its session. -/
theorem dispatchAll_confined_iff (env : EndpointEnv) (ref : SessionRef) (msgs : List BaseMessage) :
    (∀ (E E' : Endpoint) (s : RecvSession), s.initiator = false →
      E.dispatchAll env ref s msgs = some E' → ∀ j, j ≠ ref.channel → E' j = E j) ↔
    ∀ msg ∈ msgs, ∀ j, env.actsOn msg = some j → j = ref.channel := by
  constructor
  · intro hconfined msg hmsg j hacts
    by_contra hj
    -- the message would leave its trace on the open queue of `j`
    obtain ⟨E', hrun⟩ := dispatchAll_of_closed env ref (s := endedResponder) rfl rfl
        openEndpoint msgs
    have hsame : E' j = openEndpoint j := hconfined openEndpoint E' endedResponder rfl hrun j hj
    have hgrown : (openEndpoint j).weight < (E' j).weight :=
      weight_dispatchAll_lt rfl rfl rfl ⟨msg, hmsg, hacts⟩ hrun
    rw [hsame] at hgrown
    exact lt_irrefl _ hgrown
  · intro hnames E E' s hs hrun j hj
    refine dispatchAll_of_ne hs ?_ hrun
    intro msg hmsg hacts
    exact hj (hnames msg hmsg j hacts)

/-! ## A message for another channel -/

def ownID : UUID := uuidOf 1

def otherID : UUID := uuidOf 2

def busyEndpoint : Endpoint := fun _ =>
  { emptyChannel with
    queue := some []
    sessions := [⟨true, none, [], 1, true, 0, false, false⟩]
    registered := some 0 }

/-- Session, queue length, dials and cleanups of the other channel, after the
session of the first one dispatched a message. -/
def otherAfter (isClient : Bool) (msg : BaseMessage) : Option (Option ℕ × ℕ × ℕ × ℕ) :=
  (busyEndpoint.dispatchAll (plainEnv isClient) ⟨ownID, 0⟩
      ⟨false, none, [], 2, true, 0, false, false⟩ [msg]).map fun E =>
    ((E otherID).registered, ((E otherID).queue.getD []).length,
      (E otherID).dials.length, (E otherID).cleanups)

/-- On a client, a sealed disconnect tears the session of another channel
down and data lands on its queue; on a relay that dials itself, data does and
a dial is started for it. -/
theorem otherAfter_changed : otherID ≠ ownID ∧
    otherAfter true (.connectResponse ⟨true, [], otherID⟩) = some (some 0, 0, 0, 0) ∧
    otherAfter true (.disconnect ⟨otherID, []⟩) = some (none, 0, 0, 1) ∧
    otherAfter true (.data ⟨tcp, otherID, [1], 0, [], 0, [], 0, 0⟩) = some (some 0, 1, 0, 0) ∧
    otherAfter false (.data ⟨tcp, otherID, [1], 0, [], 0, [], 0, 0⟩) = some (some 0, 1, 0, 0) ∧
    otherAfter false (.connect ⟨tcp, ascii "h", 80, otherID, false⟩) = some (some 0, 0, 1, 0) := by
  decide +kernel

end LinkSocks
