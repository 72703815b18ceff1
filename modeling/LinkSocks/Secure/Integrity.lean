import LinkSocks.Secure.Frames

/-!
# Payloads against the relay

The data and the successful responses on the queue of a channel with a secure
session should have been decrypted by that session.  A refusal is taken from
the relay in the clear, on purpose: `openChannel` waits for it.

The code lets other payloads through as well: data and successful responses in
the clear, buffered data that is flushed to a queue made by a sealed request,
and messages whose channel is not the one of the session they came by.  The
main theorem is about the runs in which these do not happen.
-/

namespace LinkSocks

open Go Endpoint ChannelState List Option

/-! ## Genuine channels -/

/-- Data, or the news that a connection was made. -/
def Item.isPayload (item : Item) : Bool :=
  match item.msg with
  | .data _ => true
  | .connectResponse m => m.success
  | _ => false

/-- Any origin will do for a channel without session; with a session, only
that session. -/
def ChannelState.accepts (ch : ChannelState) (k : UUID) (origin : Origin) : Bool :=
  match ch.registered with
  | none => true
  | some n => origin = .sealed ⟨k, n⟩

/-- The payloads on the queue of channel `k`, and its record of success, come
from the session that is registered. -/
structure ChannelState.Genuine (k : UUID) (ch : ChannelState) : Prop where
  queue : ∀ item ∈ ch.queue.getD [], item.isPayload = true → ch.accepts k item.origin = true
  success : ∀ origin, ch.success = some origin → ch.accepts k origin = true

def Endpoint.Genuine (E : Endpoint) : Prop := ∀ k, (E k).Genuine k

theorem ChannelState.genuine_of_registered_none {k : UUID} {ch : ChannelState}
    (h : ch.registered = none) : ch.Genuine k where
  queue := fun _ _ _ => by simp only [accepts, h]
  success := fun _ _ => by simp only [accepts, h]

/-- What `ch` becomes when only payloads it accepts are added. -/
structure ChannelState.AddsAccepted (k : UUID) (ch ch' : ChannelState) : Prop where
  registered : ch'.registered = ch.registered
  queue : ∀ item ∈ ch'.queue.getD [], item.isPayload = true →
    item ∈ ch.queue.getD [] ∨ ch.accepts k item.origin = true
  success : ∀ origin, ch'.success = some origin →
    ch.success = some origin ∨ ch.accepts k origin = true

section Channel

variable {k : UUID} {ch ch' : ChannelState}

theorem ChannelState.accepts_congr (h : ch'.registered = ch.registered)
    (origin : Origin) : ch'.accepts k origin = ch.accepts k origin := by
  simp only [accepts, h]

theorem ChannelState.AddsAccepted.genuine (h : AddsAccepted k ch ch')
    (hch : ch.Genuine k) : ch'.Genuine k where
  queue := by
    intro item hitem hpayload
    rw [accepts_congr h.registered]
    exact (h.queue item hitem hpayload).elim (fun hold => hch.queue item hold hpayload) id
  success := by
    intro origin horigin
    rw [accepts_congr h.registered]
    exact (h.success origin horigin).elim (hch.success origin) id

/-- Changes of the other fields, and messages taken off the queue. -/
theorem ChannelState.AddsAccepted.of_subset (hregistered : ch'.registered = ch.registered)
    (hqueue : ch'.queue.getD [] ⊆ ch.queue.getD [])
    (hsuccess : ch'.success = ch.success ∨ ch'.success = none) : AddsAccepted k ch ch' where
  registered := hregistered
  queue := fun _ hitem _ => .inl (hqueue hitem)
  success := by
    intro origin horigin
    rcases hsuccess with h | h
    · exact .inl (h ▸ horigin)
    · rw [h] at horigin
      cases horigin

theorem ChannelState.Genuine.of_subset (hch : ch.Genuine k)
    (hregistered : ch'.registered = ch.registered) (hqueue : ch'.queue.getD [] ⊆ ch.queue.getD [])
    (hsuccess : ch'.success = ch.success ∨ ch'.success = none) : ch'.Genuine k :=
  (AddsAccepted.of_subset hregistered hqueue hsuccess).genuine hch

theorem ChannelState.AddsAccepted.of_eq (hregistered : ch'.registered = ch.registered)
    (hqueue : ch'.queue = ch.queue) (hsuccess : ch'.success = ch.success) : AddsAccepted k ch ch' :=
  .of_subset hregistered (hqueue ▸ List.Subset.refl _) (.inl hsuccess)

theorem ChannelState.addsAccepted_trySend {item : Item}
    (h : item.isPayload = true → ch.accepts k item.origin = true) :
    AddsAccepted k ch (ch.trySend item) := by
  cases hq : ch.queue with
  | none =>
    rw [trySend, hq]
    exact .of_eq rfl rfl rfl
  | some q =>
    simp only [trySend, hq]
    split
    · refine ⟨rfl, ?_, fun _ => .inl⟩
      intro x hx hpayload
      rcases mem_append.mp hx with hold | hnew
      · exact .inl (by simpa [hq] using hold)
      · obtain rfl := mem_singleton.mp hnew
        exact .inr (h hpayload)
    · exact .of_eq rfl rfl rfl

theorem ChannelState.addsAccepted_deliverData (m : DataMessage)
    {origin : Origin} (h : ch.accepts k origin = true) :
    AddsAccepted k ch (ch.deliverData m origin) := by
  have hsend : AddsAccepted k ch (ch.trySend ⟨.data m, origin⟩) := addsAccepted_trySend fun _ => h
  simp only [deliverData]
  split
  · split
    · exact hsend
    · exact .of_eq rfl rfl rfl
  · split
    · exact .of_eq rfl rfl rfl
    · split
      · split
        · exact ⟨hsend.registered, hsend.queue, hsend.success⟩
        · exact .of_eq rfl rfl rfl
      · exact .of_eq rfl rfl rfl

/-- All buffered data may go to the queue. -/
def ChannelState.orphansAccepted (ch : ChannelState) (k : UUID) : Bool :=
  (ch.orphans.getD []).all fun item => ch.accepts k item.origin

theorem ChannelState.addsAccepted_flush (h : ch.orphansAccepted k = true) :
    AddsAccepted k ch { ch with queue := some [] }.flushOrphanData := by
  cases ho : ch.orphans with
  | none => exact .of_subset rfl (nil_subset _) (.inl rfl)
  | some buffered =>
    refine ⟨rfl, ?_, fun _ => .inl⟩
    intro item hitem _
    rw [orphansAccepted, ho, List.all_eq_true] at h
    exact .inr (h item (mem_of_mem_take hitem))

theorem ChannelState.addsAccepted_secureConnect (dial : Dial)
    (h : ch.queue.isSome = true ∨ ch.orphansAccepted k = true) :
    AddsAccepted k ch (ch.secureConnect dial) := by
  cases hq : ch.queue with
  | some q =>
    simp only [secureConnect, hq]
    exact .of_eq rfl hq.symm rfl
  | none =>
    simp only [secureConnect, hq]
    have hflush := addsAccepted_flush (h.resolve_left (by simp [hq]))
    exact ⟨hflush.registered, hflush.queue, hflush.success⟩

theorem ChannelState.genuine_hubClose (h : ch.Genuine k) : ch.hubClose.Genuine k := by
  cases hr : ch.registered with
  | none =>
    rw [hubClose, hr]
    exact h
  | some n =>
    rw [hubClose, hr]
    exact genuine_of_registered_none rfl

theorem ChannelState.genuine_peerDisconnect (h : ch.Genuine k) : ch.peerDisconnect.Genuine k := by
  have hclose := genuine_hubClose h
  exact ⟨hclose.queue, hclose.success⟩

/-- No payload waits on the channel. -/
def ChannelState.payloadFree (ch : ChannelState) : Bool :=
  (ch.queue.getD []).all (!·.isPayload) && ch.success.isNone

theorem ChannelState.genuine_newSession (initiator : Bool)
    (accessCheck : Option (ConnectMessage → Except GoString Unit)) (h : ch.payloadFree = true) :
    (ch.newSession initiator accessCheck).Genuine k := by
  simp only [payloadFree, Bool.and_eq_true, List.all_eq_true,
    Bool.not_eq_true', Option.isNone_iff_eq_none] at h
  refine ⟨?_, ?_⟩
  · intro item hitem hpayload
    rw [h.1 item hitem] at hpayload
    cases hpayload
  · intro origin horigin
    rw [newSession, h.2] at horigin
    cases horigin

end Channel

/-! ## The runs in question -/

/-- A decrypted message only adds what the channel it acts on accepts. -/
def Endpoint.dispatchAccepted (E : Endpoint) (ref : SessionRef)
    (s : RecvSession) : BaseMessage → Bool
  | .data m =>
    let k := if s.initiator then ref.channel else m.channelID
    (E k).accepts k (.sealed ref)
  | .connectResponse m =>
    !s.initiator || !m.success || (E ref.channel).accepts ref.channel (.sealed ref)
  | .connect m =>
    s.initiator || (E m.channelID).queue.isSome || (E m.channelID).orphansAccepted m.channelID
  | _ => true

/-- The step is none of those by which the code lets a payload through that
the session of its channel has not decrypted. -/
def keepsIntegrity (env : EndpointEnv) (E : Endpoint) : EndpointAction → Bool
  | .frame (.data m) => (E m.channelID).registered.isNone
  | .frame (.connectResponse m) => !m.success || (E m.channelID).registered.isNone
  | .frame (.channelOpen m) =>
    (E m.channelID).registered.isSome || m.resume || (E m.channelID).payloadFree
  | .runSession ref =>
    match E.session ref with
    | none => true
    | some s =>
      match s.inbound with
      | [] => true
      | data :: _ =>
        match env.opened ref s.nonce data with
        | none => true
        | some msg => !s.established || E.dispatchAccepted ref s msg
  | .channel id .storeQueue => (E id).orphansAccepted id
  | .channel id .openSession => (E id).payloadFree
  | _ => true

/-! ## One step -/

section Step

variable {env : EndpointEnv} {E E' : Endpoint} {ref : SessionRef} {id : UUID}
variable {f : ChannelState → ChannelState} {s : RecvSession} {msg : BaseMessage}

theorem Endpoint.Genuine.modify (hE : E.Genuine)
    (h : (f (E id)).Genuine id) : (E.modify id f).Genuine := by
  intro k
  by_cases hk : k = id
  · subst hk
    rwa [modify_self]
  · rw [modify_of_ne E f hk]
    exact hE k

theorem Endpoint.Genuine.modify_adds (hE : E.Genuine)
    (h : ChannelState.AddsAccepted id (E id) (f (E id))) : (E.modify id f).Genuine :=
  hE.modify (h.genuine (hE id))

theorem Endpoint.Genuine.setSession (hE : E.Genuine) (ref : SessionRef)
    (s : RecvSession) : (E.setSession ref s).Genuine := hE.modify_adds (.of_eq rfl rfl rfl)

/-- The session itself is not among what the guard of a dispatch looks at. -/
theorem Endpoint.dispatchAccepted_setSession (ref : SessionRef)
    (s s' : RecvSession) (msg : BaseMessage) : (E.setSession ref s').dispatchAccepted ref s msg =
      E.dispatchAccepted ref s msg := by
  have hsame : ∀ k, (E.setSession ref s' k).registered = (E k).registered ∧
      (E.setSession ref s' k).queue = (E k).queue ∧
      (E.setSession ref s' k).orphans = (E k).orphans := by
    intro k
    by_cases hk : k = ref.channel
    · subst hk
      rw [Endpoint.setSession, modify_self]
      exact ⟨rfl, rfl, rfl⟩
    · rw [Endpoint.setSession, modify_of_ne E _ hk]
      exact ⟨rfl, rfl, rfl⟩
  cases msg <;>
    simp only [Endpoint.dispatchAccepted, ChannelState.orphansAccepted, ChannelState.accepts, hsame]

theorem Endpoint.genuine_deliverToQueue (hE : E.Genuine)
    (h : Item.isPayload ⟨msg, .sealed ref⟩ = true →
      (E ref.channel).accepts ref.channel (.sealed ref) = true)
    (hstep : E.deliverToQueue ref s msg = some E') : E'.Genuine := by
  rw [Endpoint.deliverToQueue] at hstep
  split at hstep
  · cases hstep
    exact hE
  · split at hstep
    · cases hstep
      exact hE.modify_adds (addsAccepted_trySend h)
    · split at hstep <;> cases hstep
      exact hE

theorem Endpoint.genuine_dispatch (hclient : env.isClient = true) (hE : E.Genuine)
    (haccepted : E.dispatchAccepted ref s msg = true)
    (hstep : E.dispatch env ref s msg = some E') : E'.Genuine := by
  revert haccepted hstep
  fun_cases Endpoint.dispatch env E ref s msg <;> intro haccepted hstep
  case case2 m hresponder _ =>
    cases hstep
    simp only [Endpoint.dispatchAccepted, hresponder, Bool.false_or, Bool.or_eq_true] at haccepted
    exact hE.modify_adds (addsAccepted_secureConnect _ haccepted)
  case case5 m hinitiator =>
    refine genuine_deliverToQueue hE (fun hsuccess => ?_) hstep
    simpa [Endpoint.dispatchAccepted, hinitiator,
      show m.success = true from hsuccess] using haccepted
  case case7 m hinitiator =>
    simp only [Endpoint.dispatchAccepted, hinitiator, if_true] at haccepted
    exact genuine_deliverToQueue hE (fun _ => haccepted) hstep
  case case8 m hresponder _ =>
    cases hstep
    simp only [Endpoint.dispatchAccepted, hresponder, if_false, Bool.false_eq_true] at haccepted
    exact hE.modify_adds (addsAccepted_deliverData m haccepted)
  case case10 m _ =>
    refine genuine_deliverToQueue hE (fun hpayload => ?_) hstep
    cases hpayload
  case case11 m _ _ =>
    cases hstep
    exact hE.modify (genuine_peerDisconnect (hE _))
  case case3 hserver _ _ | case4 hserver _ | case9 hserver | case12 hserver =>
    exact absurd hclient hserver
  all_goals
    cases hstep
    exact hE

theorem Endpoint.genuine_frame (hE : E.Genuine) {m : BaseMessage}
    (hguard : keepsIntegrity env E (.frame m) = true)
    (hstep : E.frame env m = some E') : E'.Genuine := by
  cases m with
  | data m =>
    cases hstep
    refine hE.modify_adds (addsAccepted_deliverData m ?_)
    rw [ChannelState.accepts, isNone_iff_eq_none.mp hguard]
  | connectResponse m =>
    cases hstep
    -- a failure is no payload, and a success meets a channel without session
    have haccepts : m.success = true → (E m.channelID).accepts m.channelID .plain = true := by
      intro hsuccess
      simp only [keepsIntegrity, hsuccess, Bool.not_true, Bool.false_or,
        isNone_iff_eq_none] at hguard
      rw [ChannelState.accepts, hguard]
    refine hE.modify_adds ?_
    rw [ChannelState.plainResponse]
    split
    · split
      · rename_i hsuccess
        refine ⟨rfl, fun _ hitem _ => .inl hitem, ?_⟩
        rintro _ ⟨⟩
        exact .inr (haccepts hsuccess)
      · exact .of_eq rfl rfl rfl
    · exact addsAccepted_trySend haccepts
  | disconnect m =>
    cases hstep
    exact hE.modify (genuine_peerDisconnect (hE _))
  | channelOpen m =>
    cases hstep
    refine hE.modify ?_
    rw [ChannelState.acceptChannel]
    split
    · exact hE _
    · rename_i hnew
      simp only [keepsIntegrity, hnew, Bool.false_or] at hguard
      exact genuine_newSession _ _ hguard
  | «sealed» m =>
    simp only [Endpoint.frame, Endpoint.hubDeliver] at hstep
    split at hstep
    · cases hstep
      exact hE
    · split at hstep
      · cases hstep
        exact hE
      · obtain ⟨s, -, rfl⟩ := map_eq_some_iff.mp hstep
        exact hE.setSession _ s
  | connectorResponse m =>
    cases hstep
    refine hE.modify_adds (addsAccepted_trySend ?_)
    intro hpayload
    cases hpayload
  | _ =>
    cases hstep
    exact hE

/-- A session hands on what has come through it. -/
theorem Endpoint.genuine_runSession (hclient : env.isClient = true)
    (hE : E.Genuine) (hguard : keepsIntegrity env E (.runSession ref) = true)
    (hstep : E.runSession env ref = some E') : E'.Genuine := by
  revert hguard hstep
  fun_cases Endpoint.runSession env E ref <;> intro hguard hstep
  case case10 s hs _ hestablished data rest hinbound msg hopened =>
    have haccepted : E.dispatchAccepted ref s msg = true := by
      simpa only [keepsIntegrity, hs, hinbound, hopened, hestablished, Bool.false_or] using hguard
    exact genuine_dispatch hclient (hE.setSession ref _)
      (by rwa [dispatchAccepted_setSession]) hstep
  all_goals cases hstep
  all_goals exact hE.setSession ref _

theorem Endpoint.genuine_channel (hE : E.Genuine) {event : ChannelEvent}
    (hguard : keepsIntegrity env E (.channel id event) = true) :
    (E.modify id (·.happen event)).Genuine := by
  refine hE.modify ?_
  have hch := hE id
  cases event with
  | storeQueue => exact (addsAccepted_flush hguard).genuine hch
  | openSession => exact genuine_newSession _ _ hguard
  | removeSession n =>
    rw [ChannelState.happen, ChannelState.removeSession]
    split
    · exact genuine_of_registered_none rfl
    · exact hch
  | receive =>
    refine hch.of_subset rfl ?_ (.inl rfl)
    cases hq : (E id).queue with
    | none => simp [ChannelState.happen, hq]
    | some q =>
      simp only [ChannelState.happen, hq, map_some, getD_some]
      exact (tail_sublist q).subset
  | putBack =>
    rw [ChannelState.happen, ChannelState.putBack]
    split
    · rename_i item items hq
      refine hch.of_subset rfl ?_ (.inl rfl)
      simp [hq]
    · exact hch
  | ensureQueue => exact hch.of_subset rfl (List.Subset.refl _) (.inl rfl)
  | handleNetworkConnection index =>
    rw [ChannelState.happen]
    split
    · rw [ChannelState.handleNetworkConnection]
      split <;> exact ⟨hch.queue, hch.success⟩
    · exact hch
  | cleanup part =>
    cases part with
    | queue => exact hch.of_subset rfl (nil_subset _) (.inl rfl)
    | session => exact genuine_hubClose hch
    | logical => exact ⟨hch.queue, hch.success⟩
    | success => exact hch.of_subset rfl (List.Subset.refl _) (.inr rfl)
  | fastOpenTimeout =>
    rw [ChannelState.happen, ChannelState.fastOpenTimeout]
    split
    · exact hch.of_subset rfl (List.Subset.refl _) (.inr rfl)
    · exact ⟨hch.queue, hch.success⟩
  | closeSession | registerLogicalChannel | disconnectChannel |
      expireOrphanData => exact ⟨hch.queue, hch.success⟩

/-- Every action that keeps the payloads genuine. -/
theorem Endpoint.genuine_step (hclient : env.isClient = true) {a : EndpointAction} (hE : E.Genuine)
    (hguard : keepsIntegrity env E a = true) (hstep : E.step env a = some E') : E'.Genuine := by
  cases a with
  | frame m => exact genuine_frame hE hguard hstep
  | runSession ref => exact genuine_runSession hclient hE hguard hstep
  | abortHandshake ref =>
    revert hstep
    change Endpoint.abortHandshake E ref = _ → _
    fun_cases Endpoint.abortHandshake E ref <;> intro hstep <;> cases hstep
    exact hE.setSession ref _
  | quitReceive ref =>
    revert hstep
    change Endpoint.quitReceive E ref = _ → _
    fun_cases Endpoint.quitReceive E ref <;> intro hstep <;> cases hstep
    exact hE.setSession ref _
  | channel id event =>
    cases hstep
    exact genuine_channel hE hguard

end Step

/-! ## Frames in the clear -/

/-- The channel of a request, a response or data. -/
def plainChannel : BaseMessage → Option UUID
  | .connect m => some m.channelID
  | .connectResponse m => some m.channelID
  | .data m => some m.channelID
  | _ => none

/-- The queue gets nothing, or the frame, which is then a refusal. -/
def AddsRefusalOnly (m : BaseMessage) (ch ch' : ChannelState) : Prop :=
  ch'.queue = ch.queue ∨ ∃ r q, m = .connectResponse r ∧ r.success = false ∧ ch.queue = some q ∧
      ch'.queue = some (q ++ [⟨.connectResponse r, .plain⟩])

theorem ChannelState.plainResponse_addsRefusalOnly {fastOpen : Bool}
    {m : ConnectResponseMessage} {ch : ChannelState} (hfailure : m.success = false) :
    AddsRefusalOnly (.connectResponse m) ch (ch.plainResponse fastOpen m) := by
  rw [plainResponse]
  split
  · rw [hfailure]
    exact .inl rfl
  · cases hq : ch.queue with
    | none =>
      refine .inl ?_
      simp only [trySend, hq]
    | some q =>
      simp only [trySend, hq]
      split
      · exact .inr ⟨m, q, rfl, hfailure, hq, rfl⟩
      · exact .inl rfl

theorem Endpoint.frame_addsRefusalOnly {env : EndpointEnv} {E E' : Endpoint}
    {m : BaseMessage} {k : UUID} (hk : plainChannel m = some k)
    (hregistered : (E k).registered.isSome = true) (hguard : keepsIntegrity env E (.frame m) = true)
    (hstep : E.frame env m = some E') : AddsRefusalOnly m (E k) (E' k) := by
  cases m with
  | connect m =>
    cases hstep
    exact .inl rfl
  | connectResponse m =>
    cases hk
    cases hstep
    have hfailure : m.success = false := by
      simpa [keepsIntegrity, ← not_isSome, hregistered] using hguard
    rw [modify_self]
    exact plainResponse_addsRefusalOnly hfailure
  | data m =>
    cases hk
    simp [keepsIntegrity, ← not_isSome, hregistered] at hguard
  | _ => cases hk

/-! ## Whole runs -/

/-- Along every run of a client that starts without sessions, in which none of
the slips happens, the payloads of a channel with a session were decrypted by
that session, and a request, response or data in the clear adds nothing to its
queue but a refusal. -/
theorem run_payloads_genuine {env : EndpointEnv} (hclient : env.isClient = true) {E E' : Endpoint}
    (hinit : ∀ k, (E k).registered = none) {actions : List EndpointAction}
    (hguard : Guarded (Endpoint.step env) (keepsIntegrity env · ·) E actions)
    (hrun : run (Endpoint.step env) E actions = some E') :
    (∀ k n, (E' k).registered = some n → (∀ item ∈ (E' k).queue.getD [], item.isPayload = true →
        item.origin = .sealed ⟨k, n⟩) ∧
      ∀ origin, (E' k).success = some origin → origin = .sealed ⟨k, n⟩) ∧
    ∀ k m E'', (E' k).registered.isSome = true → plainChannel m = some k →
      keepsIntegrity env E' (.frame m) = true → E'.frame env m = some E'' →
      AddsRefusalOnly m (E' k) (E'' k) := by
  have hgenuine : E'.Genuine := run_invariant (fun _ _ _ => genuine_step hclient)
      (fun k => genuine_of_registered_none (hinit k)) hguard hrun
  refine ⟨?_, ?_⟩
  · intro k n hn
    have haccepts : ∀ origin, (E' k).accepts k origin = true → origin = .sealed ⟨k, n⟩ := by
      simp [ChannelState.accepts, hn]
    exact ⟨fun item hitem hpayload => haccepts _ ((hgenuine k).queue item hitem hpayload),
      fun origin h => haccepts _ ((hgenuine k).success origin h)⟩
  · intro k m E'' hregistered hk hguard hframe
    exact frame_addsRefusalOnly hk hregistered hguard hframe

/-! ## One channel -/

def idleEndpoint : Endpoint := fun _ => emptyChannel

def openedID : UUID := uuidOf 9

def openRun : List EndpointAction :=
  [.channel openedID .storeQueue, .channel openedID .openSession,
    .frame (.sealed ⟨openedID, [0]⟩), .runSession ⟨openedID, 0⟩, .runSession ⟨openedID, 0⟩]

def successFrame : Bytes :=
  protocolVersionV2 :: binaryTypeConnectResponse :: boolToByte true :: openedID.bytes

/-- The peer's response comes sealed, and then a refusal in the clear. -/
def refusedRun : List EndpointAction :=
  openRun ++ [.frame (.sealed ⟨openedID, successFrame⟩), .runSession ⟨openedID, 0⟩,
      .frame (.connectResponse ⟨false, ascii "no", openedID⟩)]

/-- The session of the channel, and what waits on its queue: whether it is a
payload, and where it came from. -/
def waiting (actions : List EndpointAction) : Option (Option ℕ × List (Bool × Origin)) :=
  (run (Endpoint.step (plainEnv true)) idleEndpoint actions).map fun E =>
    ((E openedID).registered,
      ((E openedID).queue.getD []).map fun item => (item.isPayload, item.origin))

/-- The run meets the condition: the success was sealed, and the refusal is no
payload. -/
theorem refusedRun_payloads_genuine :
    (plainEnv true).isClient = true ∧ (∀ k, (idleEndpoint k).registered = none) ∧
    Guarded (Endpoint.step (plainEnv true)) (keepsIntegrity (plainEnv true) · ·)
      idleEndpoint refusedRun ∧
    waiting refusedRun = some (some 0, [(true, .sealed ⟨openedID, 0⟩), (false, .plain)]) ∧
    ∃ E', run (Endpoint.step (plainEnv true)) idleEndpoint refusedRun = some E' ∧
      ∀ item ∈ (E' openedID).queue.getD [], item.isPayload = true →
        item.origin = .sealed ⟨openedID, 0⟩ := by
  refine ⟨rfl, fun _ => rfl, ?guard, ?waiting, ?_⟩
  · decide +kernel
  · decide +kernel
  · obtain ⟨E', hrun, hE'⟩ := map_eq_some_iff.mp ?waiting
    have hgenuine := run_payloads_genuine rfl (fun _ => rfl) ?guard hrun
    exact ⟨E', hrun, (hgenuine.1 openedID 0 (congrArg Prod.fst hE')).1⟩

/-- A frame in the clear reaches the queue of the opened channel: a refusal,
as it should, and data, as it should not. -/
theorem plaintext_reaches_queue : waiting openRun = some (some 0, []) ∧ waiting (openRun ++
        [.frame (.connectResponse ⟨false, ascii "no", openedID⟩)]) =
      some (some 0, [(false, .plain)]) ∧
    waiting (openRun ++ [.frame (.data ⟨tcp, openedID, [1], 0, [], 0, [], 0, 0⟩)]) =
      some (some 0, [(true, .plain)]) := by
  refine ⟨?_, ?_, ?_⟩ <;> decide +kernel

end LinkSocks
