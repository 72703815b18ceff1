import LinkSocks.Dial.Access
import LinkSocks.Go.Tables
import LinkSocks.Secure.Frames
import LinkSocks.Tokens.Integrity

/-!
# The server as a dialer

The server dials for its forward clients: for a request in the clear, and for a sealed one
that a session of its own hub decrypts.  Neither way looks at the role of the client.  A
client counts as a forward client if it is registered at all, and only connectors have their
own dispatcher, so that the requests of reverse clients are dialed as well.
-/

namespace LinkSocks

open Go Endpoint List Option Function

/-! ## Starting a connection -/

inductive NetworkOutcome where
  | resumed
  | tcp (outcome : TCPOutcome)
  /-- A socket is opened, unless the address is refused. -/
  | udp (refusal : Option GoString)
  | unsupported (protocol : GoString)
  deriving DecidableEq

def handleNetworkConnection (E : DialEnv) (N : Dialer) (D : DialRules) (n : ℕ)
    (request : ConnectMessage) : NetworkOutcome :=
  if request.resume then .resumed
  else if request.protocol = tcp then .tcp (handleTCPConnection E N D n request)
  else if request.protocol = udp then
    .udp (if request.address = [] then none
      else (E.checkDialAccess D n request.address request.port).1)
  else .unsupported request.protocol

namespace TokenServer

/-- The rules of the token that the client belongs to. -/
def forwardRules (s : TokenServer) (clientID : UUID) : Option AccessControl :=
  (s.clientMeta.lookup clientID).bind s.forwardTokenAC.lookup

def blockedText : GoString := ascii "destination blocked by access control"

/-- The check that a session of the client makes, with the number of the query
that the resolver is asked. -/
def accessCheck (E : DialEnv) (s : TokenServer) (clientID : UUID) (n : ℕ) :
    Option (ConnectMessage → Except GoString Unit) :=
  if AccessControl.empty (s.forwardRules clientID) then none
  else some fun m =>
    if (E.allow (s.forwardRules clientID) n m.address m.port).1 then .ok ()
    else .error blockedText

end TokenServer

/-! ## The machine -/

structure GatewayEnv where
  tokens : TokenEnv
  dial : DialEnv
  hub : EndpointEnv
  isServer : hub.isClient = false

structure Gateway where
  tokens : TokenHub
  hub : Endpoint
  /-- The requests in the clear for which a handler was started. -/
  requests : List (UUID × ConnectMessage)
  refusals : List (UUID × ConnectResponseMessage)
  /-- History: what each client was authenticated as. -/
  auths : GoMap UUID WSClientAuth
  /-- History: the clients that have opened a session, moved it to their link, or
  sent frames to it. -/
  users : SessionRef → List UUID

inductive GatewayAction where
  | token (a : TokenAction)
  /-- The dispatcher of a client handles a message; `n` is the number of the query
  that the resolver may be asked. -/
  | message (clientID : UUID) (m : BaseMessage) (n : ℕ)
  | hub (a : EndpointAction)

def TokenAction.newClient : TokenAction → Option UUID
  | .connect clientID .. => some clientID
  | _ => none

namespace Gateway

variable (E : GatewayEnv)

def authsAfter (s : Gateway) : TokenAction → GoMap UUID WSClientAuth
  | .connect clientID _ credentials _ true =>
    (s.tokens.authenticate E.tokens credentials).toOption.elim s.auths (s.auths.insert clientID)
  | _ => s.auths

def addUser (s : Gateway) (ref : SessionRef) (clientID : UUID) : Gateway :=
  { s with users := Function.update s.users ref (clientID :: s.users ref) }

/-- A new session for the client, on a channel that has none. -/
def newSession (s : Gateway) (clientID : UUID) (n : ℕ) (channelID : UUID) : Gateway :=
  let check := s.tokens.server.accessCheck E.dial clientID n
  let ref : SessionRef := ⟨channelID, (s.hub channelID).sessions.length⟩
  { s with
    hub := s.hub.modify channelID (·.newSession false check)
    users := Function.update s.users ref [clientID] }

/-- `acceptChannel` on the server: a session that is there gets the new link, and
a resume of an unknown channel is answered by a disconnect. -/
def acceptChannel (s : Gateway) (clientID : UUID) (n : ℕ) (m : ChannelOpenMessage) : Gateway :=
  match (s.hub m.channelID).registered with
  | some k => s.addUser ⟨m.channelID, k⟩ clientID
  | none => if m.resume then s else s.newSession E clientID n m.channelID

/-- The messages of `messageDispatcher` that may lead to a dial.  A frame for a channel without
session goes to a connector; if the client is a forward client, it waits for a session first,
and is handled later. -/
def messageDispatcher (s : Gateway) (clientID : UUID) (n : ℕ) : BaseMessage → Option Gateway
  | .connect m =>
    if clientID ∈ s.tokens.server.clients then
      if (E.dial.allow (s.tokens.server.forwardRules clientID) n m.address m.port).1 then
        some { s with
          hub := s.hub.modify m.channelID fun ch => { ch with queue := some (ch.queue.getD []) }
          requests := s.requests ++ [(clientID, m)] }
      else
        some { s with refusals := s.refusals ++
          [(clientID, ⟨false, TokenServer.blockedText, m.channelID⟩)] }
    else some s
  | .channelOpen m =>
    if clientID ∈ s.tokens.server.clients then some (s.acceptChannel E clientID n m)
    else some s
  | .sealed m =>
    match (s.hub m.channelID).registered with
    | none => some s
    | some k => (s.hub.hubDeliver m).map fun hub =>
      { s with hub := hub }.addUser ⟨m.channelID, k⟩ clientID
  | _ => some s

/-- Identifiers of clients are new ones.  A connector has a dispatcher of its own,
which does not know the hub. -/
def step (s : Gateway) : GatewayAction → Option Gateway
  | .token a =>
    if ∀ id ∈ a.newClient, id ∉ s.auths then
      (s.tokens.step E.tokens a).map fun tokens =>
        { s with tokens := tokens, auths := s.authsAfter E a }
    else none
  | .message clientID m n =>
    if clientID ∈ s.tokens.handlers then
      (s.auths.lookup clientID).bind fun auth =>
        if auth.roles.connector then some s
        else s.messageDispatcher E clientID n m
    else none
  | .hub (.frame _) => none
  | .hub a => (s.hub.step E.hub a).map fun hub => { s with hub := hub }

def start (version : Link → UInt8) (pool : PortPool) : Gateway where
  tokens := .start version pool
  hub := fun _ => emptyChannel
  requests := []
  refusals := []
  auths := ∅
  users := fun _ => []

end Gateway

/-! ## Sessions that dial -/

/-- The session is one that dials. -/
def ChannelState.isResponder (ch : ChannelState) (n : ℕ) : Bool :=
  (ch.sessions[n]?).any fun s => !s.initiator

def Endpoint.isResponder (E : Endpoint) (ref : SessionRef) : Bool :=
  (E ref.channel).isResponder ref.index

/-- The later session is the earlier one: its side and its check never change. -/
structure RecvSession.Continues (s s' : RecvSession) : Prop where
  initiator : s'.initiator = s.initiator
  accessCheck : s'.accessCheck = s.accessCheck

namespace Gateway

/-- The client was authenticated in the forward role. -/
def IsForward (s : Gateway) (clientID : UUID) : Prop :=
  ∃ auth ∈ s.auths.lookup clientID, auth.roles.registered = .forward

/-- The server dials for forward clients only: those who have sent a request in the clear, and
those who have had to do with a session that dials. -/
structure OnlyForward (s : Gateway) : Prop where
  requests : ∀ r ∈ s.requests, s.IsForward r.1
  dials : ∀ id, ∀ d ∈ (s.hub id).dials,
    s.users d.writer ≠ [] ∧ ∀ clientID ∈ s.users d.writer, s.IsForward clientID

/-- The message asks the server to dial, or goes to a session that dials. -/
def asks (s : Gateway) : BaseMessage → Bool
  | .connect _ | .channelOpen _ => true
  | .sealed m => ((s.hub m.channelID).registered).any (s.hub m.channelID).isResponder
  | _ => false

/-- The condition on one action: nobody but forward clients and connectors asks. -/
def Asked (s : Gateway) : GatewayAction → Prop
  | .message clientID m _ => ∀ auth ∈ s.auths.lookup clientID,
      auth.roles.registered = .forward ∨ auth.roles.connector = true ∨ s.asks m = false
  | _ => True

instance (s : Gateway) : DecidablePred s.Asked := by
  intro action
  unfold Gateway.Asked
  split <;> infer_instance

end Gateway

/-! ## What the hub does by itself -/

namespace ChannelState

/-- Sessions go on, none is added that dials, and the dials of the channel are as
they were. -/
structure Quiet (ch ch' : ChannelState) : Prop where
  continues : ∀ (n : ℕ) (s : RecvSession), ch.sessions[n]? = some s →
    ∃ s', ch'.sessions[n]? = some s' ∧ s.Continues s'
  responders : ∀ n, ch'.isResponder n = true → ch.isResponder n = true
  dials : ch'.dials = ch.dials

variable {ch : ChannelState}

theorem Quiet.of_eq {ch' : ChannelState} (hsessions : ch'.sessions = ch.sessions)
    (hdials : ch'.dials = ch.dials) : ch.Quiet ch' where
  continues n s hs := ⟨s, hsessions ▸ hs, rfl, rfl⟩
  responders n hn := by rwa [isResponder, hsessions] at hn
  dials := hdials

theorem quiet_trySend (item : Item) : ch.Quiet (ch.trySend item) := by
  rw [trySend]
  split
  · split <;> exact .of_eq rfl rfl
  · exact .of_eq rfl rfl

theorem quiet_flushOrphanData : ch.Quiet ch.flushOrphanData := by
  rw [flushOrphanData]
  split <;> exact .of_eq rfl rfl

theorem quiet_putBack : ch.Quiet ch.putBack := by
  rw [putBack]
  split <;> exact .of_eq rfl rfl

theorem isResponder_iff {n : ℕ} :
    ch.isResponder n = true ↔ ∃ s, ch.sessions[n]? = some s ∧ s.initiator = false := by
  rw [isResponder]
  cases ch.sessions[n]? with
  | none => simp
  | some s => simp

theorem Quiet.of_getElem? {ch' : ChannelState} {f : ℕ → RecvSession → RecvSession}
    (hf : ∀ (n : ℕ) (s : RecvSession), ch.sessions[n]? = some s → s.Continues (f n s))
    (hsessions : ∀ n, ch'.sessions[n]? = (ch.sessions[n]?).map (f n))
    (hdials : ch'.dials = ch.dials) : ch.Quiet ch' where
  continues n s hs := ⟨f n s, by rw [hsessions, hs]; rfl, hf n s hs⟩
  responders n hn := by
    obtain ⟨s', hs', hside⟩ := isResponder_iff.mp hn
    rw [hsessions] at hs'
    obtain ⟨s, hs, rfl⟩ := map_eq_some_iff.mp hs'
    exact isResponder_iff.mpr ⟨s, hs, (hf n s hs).initiator.symm.trans hside⟩
  dials := hdials

theorem quiet_closeSession (k : ℕ) : ch.Quiet (ch.closeSession k) := by
  refine .of_getElem? (f := fun n s => if k = n then { s with closed := true } else s)
    (fun n s _ => ?_) (fun n => ?_) rfl
  · split <;> exact ⟨rfl, rfl⟩
  · exact getElem?_modify ..

theorem quiet_hubClose : ch.Quiet ch.hubClose := by
  rw [hubClose]
  split
  · exact .of_eq rfl rfl
  · rename_i k _
    have h : ch.Quiet (ch.closeSession k) := quiet_closeSession k
    exact ⟨h.continues, h.responders, rfl⟩

theorem quiet_removeSession (k : ℕ) : ch.Quiet (ch.removeSession k) := by
  rw [removeSession]
  split <;> exact .of_eq rfl rfl

theorem isResponder_newSession (initiator : Bool)
    (check : Option (ConnectMessage → Except GoString Unit)) (n : ℕ) :
    (ch.newSession initiator check).isResponder n =
      if n = ch.sessions.length then !initiator else ch.isResponder n := by
  simp only [isResponder, newSession]
  by_cases hn : n = ch.sessions.length
  · rw [if_pos hn, hn, getElem?_append_right (Nat.le_refl _), Nat.sub_self]
    rfl
  · rw [if_neg hn]
    rcases Nat.lt_or_gt_of_ne hn with hlt | hgt
    · rw [getElem?_append_left hlt]
    · have hnone : ch.sessions[n]? = none := getElem?_eq_none (Nat.le_of_lt hgt)
      rw [getElem?_append_right (Nat.le_of_lt hgt), hnone, getElem?_eq_none (Nat.sub_pos_of_lt hgt)]

theorem newSession_continues (initiator : Bool)
    (check : Option (ConnectMessage → Except GoString Unit)) {n : ℕ} {s : RecvSession}
    (hs : ch.sessions[n]? = some s) :
    ∃ s', (ch.newSession initiator check).sessions[n]? = some s' ∧ s.Continues s' := by
  exact ⟨s, getElem?_append_of_some hs _, rfl, rfl⟩

theorem quiet_newSession : ch.Quiet (ch.newSession true none) where
  continues _ _ := newSession_continues true none
  responders n hn := by
    rw [isResponder_newSession] at hn
    split at hn
    · contradiction
    · exact hn
  dials := rfl

theorem quiet_cleanup (part : CleanupPart) : ch.Quiet (ch.cleanup part) := by
  cases part with
  | session => exact quiet_hubClose
  | _ => exact .of_eq rfl rfl

theorem quiet_happen (event : ChannelEvent) : ch.Quiet (ch.happen event) := by
  cases event with
  | storeQueue =>
    have h : ({ ch with queue := some [] } : ChannelState).Quiet
        (ch.happen .storeQueue) := quiet_flushOrphanData
    exact ⟨h.continues, h.responders, h.dials⟩
  | openSession => exact quiet_newSession
  | closeSession n => exact quiet_closeSession n
  | removeSession n => exact quiet_removeSession n
  | putBack => exact quiet_putBack
  | handleNetworkConnection index =>
    rw [happen]
    split
    · rw [ChannelState.handleNetworkConnection]
      split <;> exact .of_eq rfl rfl
    · exact .of_eq rfl rfl
  | cleanup part => exact quiet_cleanup part
  | fastOpenTimeout =>
    rw [happen, fastOpenTimeout]
    split <;> exact .of_eq rfl rfl
  | _ => exact .of_eq rfl rfl

end ChannelState

namespace Endpoint

/-- Sessions go on, none is added that dials, and new dials are those of sessions
that do. -/
structure Advances (E E' : Endpoint) : Prop where
  continues : ∀ ref s, E.session ref = some s → ∃ s', E'.session ref = some s' ∧ s.Continues s'
  responders : ∀ ref, E'.isResponder ref = true → E.isResponder ref = true
  dials : ∀ id, ∀ d ∈ (E' id).dials, d ∈ (E id).dials ∨ E.isResponder d.writer = true

variable {E E' E'' : Endpoint} {ref : SessionRef} {env : EndpointEnv}
  {s : RecvSession}

theorem isResponder_iff :
    E.isResponder ref = true ↔ ∃ s, E.session ref = some s ∧ s.initiator = false :=
  ChannelState.isResponder_iff

theorem Advances.isResponder (h : E.Advances E')
    (href : E.isResponder ref = true) : E'.isResponder ref = true := by
  obtain ⟨s, hs, hside⟩ := isResponder_iff.mp href
  obtain ⟨s', hs', hcontinues⟩ := h.continues ref s hs
  exact isResponder_iff.mpr ⟨s', hs', hcontinues.initiator.trans hside⟩

theorem Advances.refl (E : Endpoint) : E.Advances E :=
  ⟨fun _ s hs => ⟨s, hs, rfl, rfl⟩, fun _ href => href, fun _ _ hd => .inl hd⟩

theorem Advances.trans (h : E.Advances E') (h' : E'.Advances E'') : E.Advances E'' where
  continues := by
    intro ref s hs
    obtain ⟨s', hs', hfirst⟩ := h.continues ref s hs
    obtain ⟨s'', hs'', hsecond⟩ := h'.continues ref s' hs'
    exact ⟨s'', hs'', hsecond.initiator.trans hfirst.initiator,
      hsecond.accessCheck.trans hfirst.accessCheck⟩
  responders ref href := h.responders ref (h'.responders ref href)
  dials := by
    intro id d hd
    rcases h'.dials id d hd with hold | hresponder
    · exact h.dials id d hold
    · exact .inr (h.responders d.writer hresponder)

theorem Advances.modify {id : UUID} {f : ChannelState → ChannelState}
    (hcontinues : ∀ (n : ℕ) (s : RecvSession), (E id).sessions[n]? = some s →
      ∃ s', (f (E id)).sessions[n]? = some s' ∧ s.Continues s')
    (hresponders : ∀ n, (f (E id)).isResponder n = true → (E id).isResponder n = true)
    (hdials : ∀ d ∈ (f (E id)).dials, d ∈ (E id).dials ∨ E.isResponder d.writer = true) :
    E.Advances (E.modify id f) where
  continues := by
    intro ref s hs
    by_cases href : ref.channel = id
    · rw [session, href] at hs ⊢
      rw [modify_self]
      exact hcontinues ref.index s hs
    · rw [session, modify_of_ne E f href]
      exact ⟨s, hs, rfl, rfl⟩
  responders := by
    intro ref hresponder
    rw [Endpoint.isResponder] at hresponder ⊢
    by_cases href : ref.channel = id
    · rw [href] at hresponder ⊢
      rw [modify_self] at hresponder
      exact hresponders ref.index hresponder
    · rwa [modify_of_ne E f href] at hresponder
  dials := by
    intro j d hd
    by_cases hj : j = id
    · subst hj
      rw [modify_self] at hd
      exact hdials d hd
    · rw [modify_of_ne E f hj] at hd
      exact .inl hd

theorem Advances.of_quiet {id : UUID} {f : ChannelState → ChannelState}
    (h : (E id).Quiet (f (E id))) : E.Advances (E.modify id f) :=
  .modify h.continues h.responders fun _ hd => .inl (h.dials ▸ hd)

theorem advances_setSession {s s' : RecvSession}
    (hs : E.session ref = some s) (hcontinues : s.Continues s') :
    E.Advances (E.setSession ref s') := by
  rw [session] at hs
  refine .of_quiet (.of_getElem?
    (f := fun n x => if n = ref.index then s' else x) (fun n x hx => ?_) (fun n => ?_) rfl)
  · split
    · rename_i hn
      obtain rfl : s = x := some.inj (hs.symm.trans (hn ▸ hx))
      exact hcontinues
    · exact ⟨rfl, rfl⟩
  · by_cases hn : n = ref.index
    · subst hn
      have hlt := (List.getElem?_eq_some_iff.mp hs).1
      simp [getElem?_set_self hlt, hs]
    · rw [getElem?_set_ne (Ne.symm hn)]
      cases (E ref.channel).sessions[n]? <;> simp [hn]

theorem advances_deliverToQueue {msg : BaseMessage}
    (h : E.deliverToQueue ref s msg = some E') : E.Advances E' := by
  rw [deliverToQueue] at h
  split at h
  · cases h
    exact .refl E
  · split_ifs at h
    · cases h
      exact .of_quiet (ChannelState.quiet_trySend _)
    · cases h
      exact .refl E

theorem advances_deliverToRelay {m : DataMessage}
    (h : E.deliverToRelay ref s m = some E') : E.Advances E' := by
  rw [deliverToRelay] at h
  split at h
  · cases h
    exact .refl E
  · split_ifs at h
    · cases h
      exact .of_quiet (ChannelState.quiet_trySend _)
    · cases h
      exact .refl E

/-- On the server, a dial is started by a session that is not an initiator. -/
theorem advances_dispatch (henv : env.isClient = false) {msg : BaseMessage}
    (hside : s.initiator = false → E.isResponder ref = true)
    (h : E.dispatch env ref s msg = some E') : E.Advances E' := by
  cases msg with
  | connect m =>
    simp only [dispatch, henv, Bool.false_eq_true, if_false] at h
    split_ifs at h with hinitiator
    · cases h
      exact .refl E
    · split at h
      · cases h
        exact .of_quiet (.of_eq rfl rfl)
      · cases h
        refine .modify (fun _ s hs => ⟨s, hs, rfl, rfl⟩) (fun _ h => h) fun d hd => ?_
        rcases mem_append.mp hd with hold | hnew
        · exact .inl hold
        · rw [mem_singleton.mp hnew]
          exact .inr (hside (Bool.eq_false_iff.mpr hinitiator))
  | connectResponse m =>
    simp only [dispatch] at h
    split_ifs at h
    · exact advances_deliverToQueue h
    · cases h
      exact .refl E
  | data m =>
    simp only [dispatch, henv, Bool.false_eq_true, if_false] at h
    split_ifs at h
    · exact advances_deliverToQueue h
    · exact advances_deliverToRelay h
  | disconnect m =>
    simp only [dispatch, henv, Bool.false_eq_true, if_false] at h
    split_ifs at h
    · exact advances_deliverToQueue h
    · cases h
      exact .refl E
  | _ =>
    cases h
    exact .refl E

theorem advances_runSession (henv : env.isClient = false)
    (h : E.runSession env ref = some E') : E.Advances E' := by
  revert h
  fun_cases runSession env E ref <;> intro h
  case case10 s hs _ _ data rest _ msg _ =>
    have hset : E.Advances (E.setSession ref { s with inbound := rest, nonce := s.nonce + 1 }) :=
      advances_setSession hs ⟨rfl, rfl⟩
    refine hset.trans (advances_dispatch henv (fun hside => ?_) h)
    exact hset.isResponder (isResponder_iff.mpr ⟨s, hs, hside⟩)
  all_goals cases h
  all_goals
    have hs := ‹E.session ref = some _›
    exact advances_setSession hs ⟨rfl, rfl⟩

/-- No action but a frame adds a session that dials. -/
theorem advances_step (henv : env.isClient = false)
    {a : EndpointAction} (hframe : ∀ m, a ≠ .frame m)
    (h : E.step env a = some E') : E.Advances E' := by
  cases a with
  | frame m => exact absurd rfl (hframe m)
  | runSession ref => exact advances_runSession henv h
  | abortHandshake ref =>
    rw [step] at h
    revert h
    fun_cases abortHandshake E ref <;> intro h <;> cases h
    have hs := ‹E.session ref = some _›
    exact advances_setSession hs ⟨rfl, rfl⟩
  | quitReceive ref =>
    rw [step] at h
    revert h
    fun_cases quitReceive E ref <;> intro h <;> cases h
    have hs := ‹E.session ref = some _›
    exact advances_setSession hs ⟨rfl, rfl⟩
  | channel id event =>
    cases h
    exact .of_quiet (ChannelState.quiet_happen event)

theorem advances_hubDeliver {m : SealedMessage} (h : E.hubDeliver m = some E') : E.Advances E' := by
  rw [hubDeliver] at h
  split at h
  · cases h
    exact .refl E
  · split at h
    · cases h
      exact .refl E
    · rename_i s hs
      obtain ⟨s', hdeliver, rfl⟩ := map_eq_some_iff.mp h
      refine advances_setSession hs ?_
      rw [RecvSession.deliver] at hdeliver
      split_ifs at hdeliver
      · cases hdeliver
        exact ⟨rfl, rfl⟩
      · cases hdeliver
        exact ⟨rfl, rfl⟩

end Endpoint

/-! ## Who is dialed for -/

namespace Gateway

variable {E : GatewayEnv} {s s' : Gateway} {clientID : UUID}

/-- Every session that dials has been used by forward clients only. -/
structure Proper (s : Gateway) : Prop where
  requests : ∀ r ∈ s.requests, s.IsForward r.1
  dials : ∀ id, ∀ d ∈ (s.hub id).dials, s.hub.isResponder d.writer = true
  sessions : ∀ ref, s.hub.isResponder ref = true →
    s.users ref ≠ [] ∧ ∀ clientID ∈ s.users ref, s.IsForward clientID

theorem Proper.onlyForward (h : s.Proper) : s.OnlyForward where
  requests := h.requests
  dials id d hd := h.sessions d.writer (h.dials id d hd)

theorem proper_start (version : Link → UInt8) (pool : PortPool) : (start version pool).Proper where
  requests := fun _ h => nomatch h
  dials := fun _ _ h => nomatch h
  sessions := fun _ h => nomatch h

theorem lookup_authsAfter {a : TokenAction} (hnew : ∀ id ∈ a.newClient, id ∉ s.auths)
    {auth : WSClientAuth} (h : s.auths.lookup clientID = some auth) :
    (s.authsAfter E a).lookup clientID = some auth := by
  cases a with
  | connect id conn credentials fresh written =>
    have hne : clientID ≠ id := by
      rintro rfl
      exact hnew clientID rfl (AList.lookup_isSome.mp (by rw [h]; rfl))
    cases written with
    | false => exact h
    | true =>
      rw [authsAfter]
      cases (s.tokens.authenticate E.tokens credentials).toOption with
      | none => exact h
      | some _ => exact (AList.lookup_insert_ne hne).trans h
  | _ => exact h

theorem IsForward.token {a : TokenAction} (hnew : ∀ id ∈ a.newClient, id ∉ s.auths)
    (h : s.IsForward clientID) {tokens : TokenHub} :
    IsForward { s with tokens := tokens, auths := s.authsAfter E a } clientID :=
  have ⟨auth, hauth, hrole⟩ := h
  ⟨auth, lookup_authsAfter hnew hauth, hrole⟩

theorem Proper.advance (h : s.Proper) {hub : Endpoint} (hhub : s.hub.Advances hub) :
    Proper { s with hub := hub } where
  requests := h.requests
  dials := by
    intro id d hd
    apply hhub.isResponder
    exact (hhub.dials id d hd).elim (h.dials id d) fun hresponder => hresponder
  sessions ref href := h.sessions ref (hhub.responders ref href)

theorem Proper.addUser (h : s.Proper) (ref : SessionRef)
    (hforward : s.hub.isResponder ref = true → s.IsForward clientID) :
    (s.addUser ref clientID).Proper where
  requests := h.requests
  dials := h.dials
  sessions := by
    intro ref' href
    by_cases heq : ref' = ref
    · subst heq
      have husers : (s.addUser ref' clientID).users ref' = clientID :: s.users ref' :=
        update_self ..
      rw [husers]
      refine ⟨cons_ne_nil _ _, fun user huser => ?_⟩
      rcases mem_cons.mp huser with rfl | hold
      · exact hforward href
      · exact (h.sessions ref' href).2 user hold
    · have husers : (s.addUser ref clientID).users ref' = s.users ref' := update_of_ne heq ..
      rw [husers]
      exact h.sessions ref' href

theorem isResponder_newSession {n : ℕ} {channelID : UUID}
    {ref : SessionRef} (href : ref ≠ ⟨channelID, (s.hub channelID).sessions.length⟩) :
    (s.newSession E clientID n channelID).hub.isResponder ref = s.hub.isResponder ref := by
  change ((s.hub.modify channelID _) ref.channel).isResponder ref.index =
    (s.hub ref.channel).isResponder ref.index
  by_cases hchannel : ref.channel = channelID
  · have hindex : ref.index ≠ (s.hub channelID).sessions.length := by
      rintro hindex
      exact href (by rw [← hindex, ← hchannel])
    rw [hchannel, modify_self, ChannelState.isResponder_newSession, if_neg hindex]
  · rw [modify_of_ne _ _ hchannel]

theorem isResponder_newSession_self (clientID : UUID) (n : ℕ) (channelID : UUID) :
    (s.newSession E clientID n channelID).hub.isResponder
      ⟨channelID, (s.hub channelID).sessions.length⟩ = true := by
  change ((s.hub.modify channelID _) channelID).isResponder _ = true
  rw [modify_self, ChannelState.isResponder_newSession, if_pos rfl]
  rfl

theorem newSession_dials (clientID : UUID) (n : ℕ) (channelID id : UUID) :
    ((s.newSession E clientID n channelID).hub id).dials = (s.hub id).dials := by
  change ((s.hub.modify channelID _) id).dials = _
  by_cases hid : id = channelID
  · rw [hid, modify_self]
    rfl
  · rw [modify_of_ne _ _ hid]

theorem Proper.newSession (h : s.Proper) (hforward : s.IsForward clientID)
    (n : ℕ) (channelID : UUID) : (s.newSession E clientID n channelID).Proper where
  requests := h.requests
  dials := by
    intro id d hd
    rw [newSession_dials] at hd
    by_cases hwriter : d.writer = ⟨channelID, (s.hub channelID).sessions.length⟩
    · rw [hwriter]
      exact isResponder_newSession_self clientID n channelID
    · rw [isResponder_newSession hwriter]
      exact h.dials id d hd
  sessions := by
    intro ref href
    by_cases hnew : ref = ⟨channelID, (s.hub channelID).sessions.length⟩
    · have husers : (s.newSession E clientID n channelID).users ref = [clientID] := by
        rw [hnew]
        exact update_self ..
      rw [husers]
      refine ⟨cons_ne_nil _ _, fun user huser => ?_⟩
      rw [mem_singleton.mp huser]
      exact hforward
    · have husers : (s.newSession E clientID n channelID).users ref = s.users ref :=
        update_of_ne hnew ..
      rw [husers]
      exact h.sessions ref (isResponder_newSession hnew ▸ href)

theorem Proper.messageDispatcher (h : s.Proper) {n : ℕ}
    {m : BaseMessage} (hforward : s.asks m = true → s.IsForward clientID)
    (hstep : s.messageDispatcher E clientID n m = some s') : s'.Proper := by
  cases m with
  | connect m =>
    rw [Gateway.messageDispatcher] at hstep
    split_ifs at hstep
    · cases hstep
      have hadvances : s.hub.Advances (s.hub.modify m.channelID fun ch =>
          { ch with queue := some (ch.queue.getD []) }) := .of_quiet (.of_eq rfl rfl)
      have hhub := h.advance hadvances
      refine ⟨fun r hr => ?_, hhub.dials, hhub.sessions⟩
      rcases mem_append.mp hr with hold | hnew
      · exact h.requests r hold
      · rw [mem_singleton.mp hnew]
        exact hforward rfl
    · cases hstep
      exact ⟨h.requests, h.dials, h.sessions⟩
    · cases hstep
      exact h
  | channelOpen m =>
    rw [Gateway.messageDispatcher] at hstep
    split_ifs at hstep
    · cases hstep
      rw [acceptChannel]
      split
      · exact h.addUser _ fun _ => hforward rfl
      · split_ifs
        · exact h
        · exact h.newSession (hforward rfl) n m.channelID
    · cases hstep
      exact h
  | sealed m =>
    simp only [Gateway.messageDispatcher] at hstep
    split at hstep
    · cases hstep
      exact h
    · rename_i k hk
      obtain ⟨hub, hhub, rfl⟩ := map_eq_some_iff.mp hstep
      have hadvances := advances_hubDeliver hhub
      refine (h.advance hadvances).addUser _ fun hresponder => hforward ?_
      rw [asks, hk]
      exact hadvances.responders ⟨m.channelID, k⟩ hresponder
  | _ =>
    cases hstep
    exact h

/-- The hub takes no frames but those of clients. -/
theorem step_hub {a : EndpointAction} (h : s.step E (.hub a) = some s') : (∀ m, a ≠ .frame m) ∧
      ∃ hub, s.hub.step E.hub a = some hub ∧ { s with hub := hub } = s' := by
  cases a with
  | frame m => contradiction
  | _ => exact ⟨fun _ heq => (nomatch heq), map_eq_some_iff.mp h⟩

/-- Every action in which only forward clients ask for dials. -/
theorem Proper.step (h : s.Proper) {a : GatewayAction} (hasked : s.Asked a)
    (hstep : s.step E a = some s') : s'.Proper := by
  cases a with
  | token a =>
    rw [Gateway.step] at hstep
    split_ifs at hstep with hnew
    obtain ⟨tokens, -, rfl⟩ := map_eq_some_iff.mp hstep
    exact ⟨fun r hr => (h.requests r hr).token hnew, h.dials, fun ref href =>
      ⟨(h.sessions ref href).1, fun clientID hid =>
        ((h.sessions ref href).2 clientID hid).token hnew⟩⟩
  | message clientID m n =>
    rw [Gateway.step] at hstep
    split_ifs at hstep
    obtain ⟨auth, hauth, hdispatch⟩ := bind_eq_some_iff.mp hstep
    split_ifs at hdispatch with hconnector
    · cases hdispatch
      exact h
    · refine h.messageDispatcher (fun hasks => ?_) hdispatch
      rcases hasked auth hauth with hrole | hconnects | hquiet
      · exact ⟨auth, hauth, hrole⟩
      · exact absurd hconnects hconnector
      · rw [hquiet] at hasks
        contradiction
  | hub a =>
    obtain ⟨hframe, hub, hhub, rfl⟩ := step_hub hstep
    exact h.advance (advances_step E.isServer hframe hhub)

/-- In every run in which nobody but forward clients and connectors asks for it,
the server dials for forward clients only. -/
theorem dials_for_forward_clients {version : Link → UInt8} {pool : PortPool}
    {actions : List GatewayAction} {t : Gateway}
    (hasked : Guarded (step E) Asked (start version pool) actions)
    (hrun : run (step E) (start version pool) actions = some t) : t.OnlyForward :=
  (run_invariant (I := Proper) (fun _ _ _ h => h.step)
    (proper_start version pool) hasked hrun).onlyForward

end Gateway

/-! ## A reverse client that asks -/

def literalEnv : DialEnv where
  parseIP := fun _ => some (ipLast 1)
  resolve := fun _ _ => none
  upstreamProxy := none

def gatewayEnv : GatewayEnv where
  tokens := tokenEnv
  dial := literalEnv
  hub := plainEnv false
  isServer := rfl

def gateway : Gateway := .start (fun _ => protocolVersionV1) ⟨[1080], []⟩

/-- Client 1 is a forward client, client 2 a reverse client. -/
def joinBoth : List GatewayAction :=
  [.token (.call (.addForwardToken (ascii "f") [] none)),
    .token (.call (.addReverseToken ⟨ascii "r", 0, false⟩ [] 0)),
    .token (.connect (uuidOf 1) 1 (.frame (helloFrame (ascii "f") false 7)) UUID.nil true),
    .token (.connect (uuidOf 2) 2 (.frame (helloFrame (ascii "r") true 8)) UUID.nil true)]

def askPlain (clientID : UUID) : List GatewayAction := [.message clientID (.connect nameRequest) 0]

/-- A client opens a channel, and requests the connection under seal. -/
def askSealed (clientID : UUID) : List GatewayAction :=
  [.message clientID (.channelOpen ⟨uuidOf 9, false⟩) 0,
    .message clientID (.sealed ⟨uuidOf 9, []⟩) 0, .message clientID (.sealed ⟨uuidOf 9, []⟩) 0,
    .message clientID (.sealed ⟨uuidOf 9, connectFrame⟩) 0, .hub (.runSession ⟨uuidOf 9, 0⟩),
    .hub (.runSession ⟨uuidOf 9, 0⟩), .hub (.runSession ⟨uuidOf 9, 0⟩),
    .hub (.runSession ⟨uuidOf 9, 0⟩)]

/-- The requests of the forward client are dialed. -/
theorem forwardClient_dialed_for : ∃ t, run (Gateway.step gatewayEnv) gateway
        (joinBoth ++ askPlain (uuidOf 1) ++ askSealed (uuidOf 1)) = some t ∧
      t.requests = [(uuidOf 1, nameRequest)] ∧
      (t.hub (uuidOf 9)).dials.map Dial.request = [nameRequest] ∧ t.OnlyForward := by
  have hguard : Guarded (Gateway.step gatewayEnv) Gateway.Asked gateway
      (joinBoth ++ askPlain (uuidOf 1) ++ askSealed (uuidOf 1)) := by
    decide +kernel
  have hrun : ∃ t ∈ run (Gateway.step gatewayEnv) gateway
      (joinBoth ++ askPlain (uuidOf 1) ++ askSealed (uuidOf 1)),
      t.requests = [(uuidOf 1, nameRequest)] ∧
        (t.hub (uuidOf 9)).dials.map Dial.request = [nameRequest] := by
    decide +kernel
  obtain ⟨t, ht, hrequests, hdials⟩ := hrun
  exact ⟨t, ht, hrequests, hdials, Gateway.dials_for_forward_clients hguard ht⟩

/-- The same requests of the reverse client are dialed as well: a handler is
started for each, and connects. -/
theorem reverseClient_dialed_for : (∃ t ∈ run (Gateway.step gatewayEnv) gateway
        (joinBoth ++ askPlain (uuidOf 2) ++ askSealed (uuidOf 2)),
      t.requests = [(uuidOf 2, nameRequest)] ∧
      (t.hub (uuidOf 9)).dials.map Dial.request = [nameRequest] ∧
      (t.hub (uuidOf 9)).dials.map Dial.writer = [⟨uuidOf 9, 0⟩] ∧
      t.users ⟨uuidOf 9, 0⟩ = List.replicate 4 (uuidOf 2) ∧
      ((t.auths.lookup (uuidOf 2)).map fun auth => auth.roles.registered) = some .reverse) ∧
    handleNetworkConnection literalEnv (.only (ipLast 1)) ⟨none, none⟩ 0 nameRequest =
      .tcp (.dialed (some (.direct (ipLast 1) 80))) := by
  decide +kernel

end LinkSocks
