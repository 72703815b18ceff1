import LinkSocks.Relay.ReturnPath

/-!
# Connectors and each other's channels

Several connectors, with tokens of their own, may use the providers of one
reverse token.  The channels of all of them are filed under the reverse token,
and a connector that comes back takes over every channel there whose link is
gone or silent, its own or not; a link that has not been pinged yet counts as
silent.  A resuming request takes a channel over without any question.
-/

namespace LinkSocks

open Go Relay Pump List Option AList

/-! ## What an action does to the way back -/

section Connectors

variable {E : RelayEnv} {s s' : Server} {r r' : Relay} {a : RelayAction}
  {id : UUID} {l : Link} {p : Pump}

theorem Pump.publish_unowned (provider : Link)
    (hnone : s.channelIDToConnector.lookup p.request.channelID = none) :
    (p.publish s provider).1.channelIDToConnector =
      s.channelIDToConnector.insert p.request.channelID p.ws := by
  simp only [Pump.publish, hnone, if_true]
  split <;> rfl

theorem Pump.publish_owned {cur : Link} (provider : Link)
    (hcur : s.channelIDToConnector.lookup p.request.channelID = some cur) :
    (p.publish s provider).1.channelIDToConnector =
      if cur = p.ws then s.channelIDToConnector.insert p.request.channelID p.ws
      else s.channelIDToConnector := by
  simp only [Pump.publish, hcur, decide_eq_true_eq]
  split <;> rfl

/-- A pump puts itself on the way back where nobody is. -/
theorem Pump.publish_connector {provider : Link}
    (hl : (p.publish s provider).1.channelIDToConnector.lookup id = some l) :
    s.channelIDToConnector.lookup id = some l ∨ (id = p.request.channelID ∧ l = p.ws ∧
        s.channelIDToConnector.lookup id = none) := by
  cases hcur : s.channelIDToConnector.lookup p.request.channelID with
  | none =>
    rw [publish_unowned provider hcur] at hl
    obtain ⟨rfl, hws⟩ | ⟨-, hold⟩ := lookup_insert_cases hl
    · exact .inr ⟨rfl, hws, hcur⟩
    · exact .inl hold
  | some cur =>
    left
    rw [publish_owned provider hcur] at hl
    split_ifs at hl with hown
    · obtain ⟨rfl, rfl⟩ | ⟨-, hold⟩ := lookup_insert_cases hl
      · rwa [hown] at hcur
      · exact hold
    · exact hl

/-- A pump files its own link, and only for a channel without one. -/
theorem Pump.step_connector {label : PumpLabel} {m : PumpMove} (h : p.step E s label = some m)
    (hl : m.server.channelIDToConnector.lookup id = some l) :
    s.channelIDToConnector.lookup id = some l ∨
      (p.pc = .publish ∧ label = .next ∧ id = p.request.channelID ∧ l = p.ws ∧
        s.channelIDToConnector.lookup id = none) := by
  cases step_moves h with
  | idle _ hsame =>
    rw [hsame.connector] at hl
    exact .inl hl
  | publish provider hpublish =>
    obtain hold | ⟨hid, hws, hfree⟩ := publish_connector hl
    · exact .inl hold
    · exact .inr ⟨hpublish, rfl, hid, hws, hfree⟩
  | cleanup => exact .inl ((s.cleanupConnectorChannel_unmaps _).connector.lookup hl)
  | _ => exact .inl hl

section

variable (h : r.step E a = some r')
include h

/-- A link gets on the way back of a channel by its pump, where nobody is, or
by a resuming request that the pump absorbs. -/
theorem Relay.step_connector (hbind : ∀ id client connector, a ≠ .bindChannel id client connector)
    (hl : r'.server.channelIDToConnector.lookup id = some l) :
    r.server.channelIDToConnector.lookup id = some l ∨
      ∃ (n : ℕ) (p : Pump), a = .pump n .next ∧ r.pumps[n]? = some p ∧
        p.request.channelID = id ∧ p.ws = l ∧
        ((p.pc = .start ∧ p.request.resume = true ∧ (r.pumpActive.lookup id).isSome) ∨
          (p.pc = .publish ∧ r.server.channelIDToConnector.lookup id = none)) := by
  cases a with
  | bindChannel id client connector => exact absurd rfl (hbind id client connector)
  | authenticate | register | disconnect | updateTokens =>
    obtain ⟨server, sessions, rfl, hsame⟩ := step_registers h rfl
    exact .inl (hsame.connector ▸ hl)
  | receive clientID data handled =>
    exact .inl ((receive_sameMapping h).connector ▸ hl)
  | removeToken token =>
    cases h
    exact .inl ((r.server.removeToken_forgets token).connector.lookup hl)
  | expireOrphanData channelID =>
    cases h
    exact .inl ((r.server.expireOrphanData_sameMapping channelID).connector ▸ hl)
  | cleanupConnectorChannel channelID =>
    cases h
    exact .inl ((r.server.cleanupConnectorChannel_unmaps channelID).connector.lookup hl)
  | pump n label =>
    obtain ⟨p, hp, hcase⟩ := stepPump_spec h
    obtain ⟨hpc, rfl, rfl⟩ | ⟨-, -, rfl⟩ | ⟨m, hm, rfl⟩ := hcase
    · rw [Relay.startPump] at hl
      split at hl
      · exact .inl hl
      · rename_i owner howner
        split_ifs at hl with hresume
        · obtain ⟨rfl, hws⟩ | ⟨-, hold⟩ := lookup_insert_cases hl
          · refine .inr ⟨n, p, rfl, hp, rfl, hws.symm, .inl ?_⟩
            exact ⟨hpc, hresume, by rw [howner]; rfl⟩
          · exact .inl hold
        · exact .inl hl
    · exact .inl hl
    · obtain hold | ⟨hpc, rfl, hid, hws, hfree⟩ := step_connector hm hl
      · exact .inl hold
      · exact .inr ⟨n, p, rfl, hp, hid.symm, hws.symm, .inr ⟨hpc, hfree⟩⟩

theorem Relay.step_sessions {clientID : UUID}
    {session' : Session} (hsession : r'.sessions.lookup clientID = some session') :
    (∃ session, r.sessions.lookup clientID = some session ∧ session'.link = session.link) ∨
      ∃ credentials internalToken,
        a = .authenticate session'.link clientID credentials internalToken := by
  have hsame : r'.sessions = r.sessions → ∃ session,
      r.sessions.lookup clientID = some session ∧ session'.link = session.link :=
    fun heq => ⟨session', heq ▸ hsession, rfl⟩
  cases a with
  | authenticate link client credentials internalToken =>
    obtain ⟨session, server, rfl, -, rfl⟩ := authenticate_spec h
    obtain ⟨rfl, rfl⟩ | ⟨-, hold⟩ := lookup_insert_cases hsession
    · exact .inr ⟨credentials, internalToken, rfl⟩
    · exact .inl ⟨session', hold, rfl⟩
  | register client =>
    obtain ⟨session, hregistered, rfl⟩ := map_eq_some_iff.mp h
    left
    obtain ⟨rfl, rfl⟩ | ⟨-, hold⟩ := lookup_insert_cases hsession
    · exact ⟨session, hregistered, rfl⟩
    · exact ⟨session', hold, rfl⟩
  | disconnect client =>
    obtain ⟨session, -, rfl⟩ := map_eq_some_iff.mp h
    exact .inl ⟨session', lookup_of_erase clientID session' hsession, rfl⟩
  | receive client data handled => exact .inl (hsame (receive_sessions h))
  | pump n label =>
    refine .inl (hsame ?_)
    obtain ⟨p, hp, hcase⟩ := stepPump_spec h
    obtain ⟨hpc, rfl, rfl⟩ | ⟨-, -, rfl⟩ | ⟨m, hm, rfl⟩ := hcase
    · rw [Relay.startPump]
      split <;> rfl
    · rfl
    · rfl
  | _ =>
    cases h
    exact .inl (hsame rfl)

theorem Relay.step_ws {q : Pump} (hq : q ∈ r'.pumps) :
    (∃ p ∈ r.pumps, q.ws = p.ws) ∨ ∃ clientID session, r.sessions.lookup clientID = some session ∧
        q.ws = session.link := by
  obtain ⟨m, hm⟩ := mem_iff_getElem?.mp hq
  cases step_origin h hm with
  | kept hp => exact .inl ⟨q, mem_of_getElem? hp, rfl⟩
  | arrived session clientID _ hsession => exact .inr ⟨clientID, session, hsession, rfl⟩
  | entered p _ hp | joined p _ _ hp | left p _ hp => exact .inl ⟨p, mem_of_getElem? hp, rfl⟩
  | absorbed _ _ o _ _ _ _ ho => exact .inl ⟨o, mem_of_getElem? ho, rfl⟩
  | moved p _ _ _ hp hmove => exact .inl ⟨p, mem_of_getElem? hp, (step_spec hmove).ws⟩

end

end Connectors

/-! ## Own links -/

namespace ReturnPath

/-- The link has authenticated with the token that the channel was opened
through. -/
def Own (f : ReturnPath) (id : UUID) (l : Link) : Prop :=
  ∃ token ∈ f.openers.lookup id, f.tokens.lookup l = some token

/-- The link has answered a ping, or one was sent to it so long ago that an
answer could have come. -/
def HadChance (patience : ℕ) (f : ReturnPath) (l : Link) : Prop :=
  f.lastPong l ≠ 0 ∨ ∃ ping ∈ f.pinged, ping.1 = l ∧ ping.2 + patience ≤ f.now

/-- The link may take the channel over: it is an own link, and the one that it
takes it from has had the chance to answer a ping, or is gone from the relay. -/
def MayTake (patience : ℕ) (f : ReturnPath) (id : UUID) (ws : Link) : Prop :=
  f.Own id ws ∧
    ∀ cur ∈ f.connector id, cur ∈ f.relay.online → f.HadChance patience cur ∨ cur = ws

/-- A request that begins is for a new channel or for one of the same token, or
joins a pump: then it may take the channel over, if it resumes. -/
def MayBegin (patience : ℕ) (f : ReturnPath) (p : Pump) : Prop :=
  if (f.relay.pumpActive.lookup p.request.channelID).isSome then
    p.request.resume = true → f.MayTake patience p.request.channelID p.ws
  else ∀ token ∈ f.openers.lookup p.request.channelID, f.tokens.lookup p.ws = some token

/-- A goroutine that rebinds and finds a channel without a live link may take
it over. -/
def MayRebind (patience : ℕ) (f : ReturnPath) (rebind : Rebind) : Prop :=
  ∀ id ∈ rebind.ids.head?, ∀ cur ∈ f.connector id, f.gone rebind cur = true →
    f.MayTake patience id rebind.ws

/-- Requests and rebinds keep to the channels of their own token. -/
def Isolates (patience : ℕ) (f : ReturnPath) : ReturnAction → Prop
  | .relay (.pump n .next) => ∀ p ∈ f.relay.pumps[n]?, p.pc = .start → f.MayBegin patience p
  | .rebind k => ∀ rebind ∈ f.rebinds[k]?, rebind.pc = .loop → f.MayRebind patience rebind
  | _ => True

/-- Whatever is on the way back is on its way to an own link. -/
structure Isolated (f : ReturnPath) : Prop where
  sessions : ∀ clientID session, f.relay.sessions.lookup clientID = some session →
    (f.tokens.lookup session.link).isSome
  pumps : ∀ p ∈ f.relay.pumps, (f.tokens.lookup p.ws).isSome
  working : ∀ (n : ℕ) (p : Pump), f.relay.pumps[n]? = some p →
    p.pc.working = true → f.Own p.request.channelID p.ws
  mapped : ∀ id l, f.connector id = some l → f.Own id l
  drainTargets : ∀ n id l, f.drainTargets.lookup n = some (id, l) → f.Own id l
  dispatching : ∀ clientID id msg target,
    f.dispatching.lookup clientID = some (.write id msg target) → f.Own id target
  replays : ∀ d replay, f.replays.lookup d = some replay → f.Own replay.channelID replay.target
  writes : ∀ w ∈ f.writes, f.Own w.channelID w.target

section Steps

variable {f f' : ReturnPath} {E : RelayEnv} {a : RelayAction} {r' : Relay}
  {id : UUID} {l : Link} {token : GoString} {p : Pump} {n patience : ℕ}

/-! ## What is known stays known -/

theorem tokens_follow (hfree : f.blocks a = false) (h : f.tokens.lookup l = some token) :
    (f.follow a r').tokens.lookup l = some token := by
  rw [follow]
  cases a with
  | authenticate link clientID credentials internalToken =>
    have hnew : f.tokens.lookup link = none := isNone_iff_eq_none.mp (isSome_eq_false_iff.mp hfree)
    have hne : l ≠ link := by
      rintro rfl
      rw [hnew] at h
      contradiction
    simp only [tokensAfter]
    cases r'.sessions.lookup clientID with
    | none => exact h
    | some session => rwa [lookup_insert_ne hne]
  | _ => exact h

theorem openers_follow (h : f.openers.lookup id = some token) :
    (f.follow a r').openers.lookup id = some token := by
  simp only [follow, openersAfter]
  cases f.relay.moving a with
  | none => exact h
  | some moving =>
    obtain ⟨n, p, label⟩ := moving
    dsimp only
    split_ifs with hfirst
    · have hne : id ≠ p.request.channelID := by
        rintro rfl
        rw [h] at hfirst
        exact Bool.false_ne_true hfirst.2.2
      cases f.tokens.lookup p.ws with
      | none => exact h
      | some token' => exact (lookup_insert_ne hne).trans h
    · exact h

theorem Own.follow (h : f.Own id l) (hfree : f.blocks a = false) : (f.follow a r').Own id l := by
  obtain ⟨token, hopener, htoken⟩ := h
  exact ⟨token, openers_follow hopener, tokens_follow hfree htoken⟩

/-- A pump that begins serves a channel of its own token. -/
theorem own_begin (hfree : f.blocks (.pump n .next) = false)
    (hp : f.relay.pumps[n]? = some p) (hpc : p.pc = .start)
    (hactive : f.relay.pumpActive.lookup p.request.channelID = none)
    (hmay : f.MayBegin patience p) (hknown : (f.tokens.lookup p.ws).isSome) :
    (f.follow (.pump n .next) r').Own p.request.channelID p.ws := by
  obtain ⟨token, htoken⟩ := isSome_iff_exists.mp hknown
  refine ⟨token, ?_, tokens_follow hfree htoken⟩
  rw [MayBegin, hactive] at hmay
  cases hopener : f.openers.lookup p.request.channelID with
  | some opener =>
    have hsame := hmay opener hopener
    rw [htoken] at hsame
    cases hsame
    exact openers_follow hopener
  | none =>
    have hmoving : f.relay.moving (.pump n .next) = some (n, p, .next) := by
      rw [Relay.moving, hp]
      rfl
    simp only [follow, openersAfter, hmoving]
    rw [if_pos ⟨hpc, by rw [hactive]; rfl, by rw [hopener]; rfl⟩, htoken]
    exact lookup_insert _

/-! ## Steps of the relay -/

theorem connector_follow (hfree : f.blocks a = false)
    (hguard : f.Isolates patience (.relay a)) (hstep : f.relay.step E a = some r')
    (hl : (f.follow a r').connector id = some l) :
    f.connector id = some l ∨ f.MayTake patience id l ∨
      (f.connector id = none ∧ ∃ (n : ℕ) (p : Pump), f.relay.pumps[n]? = some p ∧
        p.pc = .publish ∧ p.request.channelID = id ∧ p.ws = l) := by
  obtain hold | ⟨n, p, rfl, hp, rfl, rfl, hcase⟩ :=
    step_connector hstep (by rintro _ _ _ rfl; contradiction) hl
  · exact .inl hold
  · obtain ⟨hpc, hresume, hactive⟩ | ⟨hpc, hnone⟩ := hcase
    · have hmay := hguard p hp hpc
      rw [MayBegin, if_pos hactive] at hmay
      exact .inr (.inl (hmay hresume))
    · exact .inr (.inr ⟨hnone, n, p, hp, hpc, rfl, rfl⟩)

section

variable (h : f.Isolated) (hfree : f.blocks a = false)
include h hfree

theorem Isolated.connector_follow
    (hguard : f.Isolates patience (.relay a)) (hstep : f.relay.step E a = some r')
    (hl : (f.follow a r').connector id = some l) : (f.follow a r').Own id l := by
  obtain hold | hmay | ⟨-, n, p, hp, hpc, rfl, rfl⟩ :=
    ReturnPath.connector_follow hfree hguard hstep hl
  · exact (h.mapped id l hold).follow hfree
  · exact hmay.1.follow hfree
  · refine (h.working n p hp ?_).follow hfree
    rw [hpc]
    rfl

theorem Isolated.drainTargets_follow
    (hmapped : ∀ id l, (f.follow a r').connector id = some l → (f.follow a r').Own id l)
    (hn : (f.follow a r').drainTargets.lookup n = some (id, l)) : (f.follow a r').Own id l := by
  simp only [ReturnPath.follow, drainTargetsAfter] at hn
  cases hmoving : f.relay.moving a with
  | none =>
    rw [hmoving] at hn
    exact (h.drainTargets n id l hn).follow hfree
  | some moving =>
    obtain ⟨m, p, label⟩ := moving
    rw [hmoving] at hn
    dsimp only at hn
    split_ifs at hn
    · cases htarget : r'.server.channelIDToConnector.lookup p.request.channelID with
      | none =>
        rw [htarget] at hn
        exact (h.drainTargets n id l hn).follow hfree
      | some target =>
        rw [htarget] at hn
        obtain ⟨-, hnew⟩ | ⟨-, hold⟩ := lookup_insert_cases hn
        · obtain ⟨rfl, rfl⟩ := Prod.mk.inj hnew
          exact hmapped _ _ htarget
        · exact (h.drainTargets n id l hold).follow hfree
    · exact (h.drainTargets n id l hn).follow hfree

theorem Isolated.replays_follow
    {d : Drainer} {replay : Replay} (hd : (f.follow a r').replays.lookup d = some replay) :
    (f.follow a r').Own replay.channelID replay.target := by
  change (f.replaysAfter a).lookup d = some replay at hd
  obtain hsame | ⟨n, id, target, htarget, -, hstart⟩ := replaysAfter_cases hfree
  · rw [hsame] at hd
    exact (h.replays d replay hd).follow hfree
  · rw [hstart] at hd
    obtain ⟨-, rfl⟩ | ⟨-, hold⟩ := lookup_insert_cases hd
    · exact (h.drainTargets n id target htarget).follow hfree
    · exact (h.replays d replay hold).follow hfree

theorem Isolated.sessions_follow
    (hstep : f.relay.step E a = some r') {clientID : UUID} {session : Session}
    (hsession : r'.sessions.lookup clientID = some session) :
    ((f.follow a r').tokens.lookup session.link).isSome := by
  obtain ⟨old, hold, hlink⟩ | ⟨credentials, internalToken, rfl⟩ := step_sessions hstep hsession
  · obtain ⟨token, htoken⟩ := isSome_iff_exists.mp (h.sessions clientID old hold)
    rw [hlink, tokens_follow hfree htoken]
    rfl
  · simp only [ReturnPath.follow, tokensAfter, hsession, lookup_insert]
    rfl

theorem Isolated.pumps_follow (hstep : f.relay.step E a = some r') (hp : p ∈ r'.pumps) :
    ((f.follow a r').tokens.lookup p.ws).isSome := by
  have hknown : (f.tokens.lookup p.ws).isSome := by
    obtain ⟨q, hq, hws⟩ | ⟨clientID, session, hsession, hws⟩ := step_ws hstep hp
    · rw [hws]
      exact h.pumps q hq
    · rw [hws]
      exact h.sessions clientID session hsession
  obtain ⟨token, htoken⟩ := isSome_iff_exists.mp hknown
  rw [tokens_follow hfree htoken]
  rfl

theorem Isolated.working_follow (hguard : f.Isolates patience (.relay a))
    (hstep : f.relay.step E a = some r') (hp : r'.pumps[n]? = some p)
    (hworking : p.pc.working = true) : (f.follow a r').Own p.request.channelID p.ws := by
  obtain ⟨q, hq, hws, hrequest, hcase⟩ :=
    step_live hstep hp (PumpPC.live_of_working hworking)
  rw [hws, hrequest]
  obtain ⟨-, hbefore⟩ | ⟨rfl, hpc, hactive⟩ := hcase
  · exact (h.working n q hq (hbefore hworking)).follow hfree
  · exact own_begin hfree hq hpc hactive (hguard q hq hpc) (h.pumps q (mem_of_getElem? hq))

theorem Isolated.follow (hguard : f.Isolates patience (.relay a))
    (hstep : f.relay.step E a = some r') :
    (f.follow a r').Isolated where
  sessions := fun _ _ hsession => h.sessions_follow hfree hstep hsession
  pumps := fun _ hp => h.pumps_follow hfree hstep hp
  working := fun _ _ hp hworking => h.working_follow hfree hguard hstep hp hworking
  mapped := fun _ _ hl => h.connector_follow hfree hguard hstep hl
  drainTargets := fun _ _ _ hn =>
    h.drainTargets_follow hfree (fun _ _ => h.connector_follow hfree hguard hstep) hn
  dispatching := fun clientID id msg target hd =>
    (h.dispatching clientID id msg target hd).follow hfree
  replays := fun _ _ hd => h.replays_follow hfree hd
  writes := fun w hw => (h.writes w hw).follow hfree

end

/-! ## Dispatchers, replays and rebinds -/

theorem Isolated.elsewhere (h : f.Isolated) (hrelay : f'.relay = f.relay)
    (htokens : f'.tokens = f.tokens) (hopeners : f'.openers = f.openers)
    (htargets : f'.drainTargets = f.drainTargets) (hdispatching : ∀ clientID id msg target,
      f'.dispatching.lookup clientID = some (.write id msg target) → f.Own id target)
    (hreplays : ∀ d replay, f'.replays.lookup d = some replay →
      f.Own replay.channelID replay.target)
    (hwrites : ∀ w ∈ f'.writes, f.Own w.channelID w.target) : f'.Isolated := by
  have hown : ∀ {id l}, f.Own id l → f'.Own id l := by
    rintro id l ⟨token, hopener, htoken⟩
    exact ⟨token, hopeners ▸ hopener, htokens ▸ htoken⟩
  constructor
  · rw [hrelay, htokens]
    exact h.sessions
  · rw [hrelay, htokens]
    exact h.pumps
  · rw [hrelay]
    exact fun n p hp hworking => hown (h.working n p hp hworking)
  · intro id l hl
    rw [connector, hrelay] at hl
    exact hown (h.mapped id l hl)
  · rw [htargets]
    exact fun n id l hn => hown (h.drainTargets n id l hn)
  · exact fun clientID id msg target hd => hown (hdispatching clientID id msg target hd)
  · exact fun d replay hd => hown (hreplays d replay hd)
  · exact fun w hw => hown (hwrites w hw)

variable {msg : BaseMessage} {ok : Bool} {clientID : UUID} {a : ReturnAction}

theorem Isolated.log_writes (h : f.Isolated) (hown : f.Own id l) :
    ∀ w ∈ (f.log id msg l ok).writes, f.Own w.channelID w.target := by
  intro w hw
  obtain hold | hnew := mem_append.mp hw
  · exact h.writes w hold
  · obtain rfl := mem_singleton.mp hnew
    exact hown

theorem Isolated.dispatch {d : Dispatch}
    (h : f.Isolated) (hd : f.dispatching.lookup clientID = some d) :
    (f.dispatch clientID ok d).Isolated := by
  have herase : ∀ client id msg target,
      (f.dispatching.erase clientID).lookup client = some (.write id msg target) →
        f.Own id target := by
    intro client id msg target hclient
    exact h.dispatching client id msg target (lookup_of_erase client _ hclient)
  cases d with
  | buffer channelID msg =>
    exact h.elsewhere rfl rfl rfl rfl herase h.replays h.writes
  | write channelID msg target =>
    have hown := h.dispatching clientID channelID msg target hd
    refine h.elsewhere rfl rfl rfl rfl ?_ h.replays (h.log_writes hown)
    intro client id msg' target' hclient
    rw [ReturnPath.dispatch] at hclient
    split_ifs at hclient
    · exact herase client id msg' target' hclient
    · obtain ⟨-, hbuffer⟩ | ⟨-, hold⟩ := lookup_insert_cases hclient
      · contradiction
      · exact h.dispatching client id msg' target' hold

theorem Isolated.payload {channelID : UUID}
    {sent : List (UUID × BaseMessage)} (h : f.Isolated) : Isolated { f with
      sent := sent
      dispatching := f.dispatching.insert clientID (f.lookUp channelID msg) } := by
  refine h.elsewhere rfl rfl rfl rfl ?_ h.replays h.writes
  intro client id msg' target hclient
  obtain ⟨-, hnew⟩ | ⟨-, hold⟩ := lookup_insert_cases hclient
  · rw [lookUp] at hnew
    cases hconnector : f.connector channelID with
    | none =>
      rw [hconnector] at hnew
      contradiction
    | some cur =>
      rw [hconnector] at hnew
      obtain ⟨rfl, -, rfl⟩ := Dispatch.write.inj hnew
      exact h.mapped _ _ hconnector
  · exact h.dispatching client id msg' target hold

section Replays

variable {d : Drainer} {replay : Replay} {ok : Bool}

theorem Isolated.insert_replays (h : f.Isolated)
    (hown : f.Own replay.channelID replay.target) (d' : Drainer) (replay' : Replay)
    (hd' : (f.replays.insert d replay).lookup d' = some replay') :
    f.Own replay'.channelID replay'.target := by
  obtain ⟨-, rfl⟩ | ⟨-, hold⟩ := lookup_insert_cases hd'
  · exact hown
  · exact h.replays d' replay' hold

theorem Isolated.erase_replays (h : f.Isolated) (d' : Drainer) (replay' : Replay)
    (hd' : (f.replays.erase d).lookup d' = some replay') : f.Own replay'.channelID replay'.target :=
  h.replays d' replay' (lookup_of_erase d' replay' hd')

theorem Isolated.stepReplay (h : f.Isolated) (hd : f.replays.lookup d = some replay) :
    (f.stepReplay d ok replay).Isolated := by
  have hown := h.replays d replay hd
  rcases hpc : replay.pc with _ | (_ | ⟨msg, rest⟩) | pending
  · rw [ReturnPath.stepReplay, hpc]
    dsimp only
    split
    · exact h.elsewhere rfl rfl rfl rfl h.dispatching h.erase_replays h.writes
    · exact h.elsewhere rfl rfl rfl rfl h.dispatching (h.insert_replays hown) h.writes
  · rw [ReturnPath.stepReplay, hpc]
    exact h.elsewhere rfl rfl rfl rfl h.dispatching h.erase_replays h.writes
  · rw [ReturnPath.stepReplay, hpc]
    exact h.elsewhere rfl rfl rfl rfl h.dispatching (h.insert_replays hown) (h.log_writes hown)
  · rw [ReturnPath.stepReplay, hpc]
    exact h.elsewhere rfl rfl rfl rfl h.dispatching h.erase_replays h.writes

end Replays

theorem connector_setConnector (f : ReturnPath) (channelID : UUID) (ws : Link) (id : UUID) :
    (f.setConnector channelID ws).connector id =
      if id = channelID then some ws else f.connector id := by
  split_ifs with hid
  · subst hid
    exact lookup_insert _
  · exact lookup_insert_ne hid

/-- A rebind takes only what it may take. -/
theorem Isolated.rebind {k : ℕ} {rebind : Rebind} (h : f.Isolated)
    (hguard : rebind.pc = .loop → f.MayRebind patience rebind)
    (hstep : f.stepRebind k rebind = some f') : f'.Isolated := by
  obtain ⟨rebind', rfl⟩ | ⟨channelID, rest, cur, rebind', hpc, hids, -, hcur, hgone, rfl⟩ :=
    stepRebind_cases hstep
  · exact h.elsewhere rfl rfl rfl rfl h.dispatching h.replays h.writes
  · have hown : f.Own channelID rebind.ws := by
      refine (hguard hpc channelID ?_ cur hcur hgone).1
      rw [hids]
      rfl
    refine ⟨h.sessions, h.pumps, h.working, ?_, h.drainTargets, h.dispatching, ?_, h.writes⟩
    · intro id l hl
      have hset := f.connector_setConnector channelID rebind.ws id
      change (f.setConnector channelID rebind.ws).connector id = some l at hl
      rw [hset] at hl
      split_ifs at hl with hid
      · cases hl
        exact hid ▸ hown
      · exact h.mapped id l hl
    · exact h.insert_replays hown

/-! ## Runs -/

/-- Every action that keeps to the channels of its token. -/
theorem Isolated.step (h : f.Isolated)
    (hguard : f.Isolates patience a) (hstep : f.step E a = some f') : f'.Isolated := by
  cases a with
  | relay a =>
    obtain ⟨hfree, r', hr', rfl⟩ := step_relay hstep
    exact h.follow hfree hguard hr'
  | payload clientID msg =>
    obtain ⟨payload, -, -, rfl⟩ := step_payload hstep
    exact h.payload
  | dispatch clientID ok =>
    obtain ⟨d, hd, rfl⟩ := map_eq_some_iff.mp hstep
    exact h.dispatch hd
  | startRebind clientID =>
    obtain ⟨rebind, rfl⟩ := step_startRebind hstep
    exact h.elsewhere rfl rfl rfl rfl h.dispatching h.replays h.writes
  | rebind k =>
    obtain ⟨rebind, hrebind, hloop⟩ := bind_eq_some_iff.mp hstep
    exact h.rebind (hguard rebind hrebind) hloop
  | replay d ok =>
    obtain ⟨replay, hreplay, rfl⟩ := map_eq_some_iff.mp hstep
    exact h.stepReplay hreplay
  | expireConnectorReturn channelID | tick millis | ping link | pong link =>
    cases hstep
    exact h.elsewhere rfl rfl rfl rfl h.dispatching h.replays h.writes

/-- Other goroutines than pumps and rebinds leave the relay alone. -/
theorem step_same_relay (hrelay : ∀ b, a ≠ .relay b)
    (hrebind : ∀ k, a ≠ .rebind k) (hstep : f.step E a = some f') : f'.relay = f.relay := by
  cases a with
  | relay b => exact absurd rfl (hrelay b)
  | rebind k => exact absurd rfl (hrebind k)
  | payload clientID msg =>
    obtain ⟨payload, -, -, rfl⟩ := step_payload hstep
    rfl
  | dispatch clientID ok =>
    obtain ⟨d, -, rfl⟩ := map_eq_some_iff.mp hstep
    cases d <;> rfl
  | startRebind clientID =>
    obtain ⟨rebind, rfl⟩ := step_startRebind hstep
    rfl
  | replay d ok =>
    obtain ⟨replay, -, rfl⟩ := map_eq_some_iff.mp hstep
    rw [stepReplay]
    split
    · split <;> rfl
    · rfl
    · rfl
    · rfl
  | _ =>
    cases hstep
    rfl

/-- A guarded step takes a channel from no link that is registered and has not
had the chance to answer a ping. -/
theorem step_keeps_unanswered {cur : Link} (hguard : f.Isolates patience a)
    (hstep : f.step E a = some f') (hcur : f.connector id = some cur)
    (honline : cur ∈ f.relay.online) (hchance : ¬ f.HadChance patience cur)
    (hl : f'.connector id = some l) : l = cur := by
  have htake : ∀ {ws}, f.MayTake patience id ws → ws = cur := by
    intro ws hmay
    exact ((hmay.2 cur hcur honline).resolve_left hchance).symm
  have hsame : f.connector id = some l → l = cur := by
    intro hold
    exact some.inj (hold.symm.trans hcur)
  by_cases hrelay : ∃ b, a = .relay b
  · obtain ⟨b, rfl⟩ := hrelay
    obtain ⟨hfree, r', hr', rfl⟩ := step_relay hstep
    obtain hold | hmay | ⟨hnone, -⟩ := connector_follow hfree hguard hr' hl
    · exact hsame hold
    · exact htake hmay
    · rw [hnone] at hcur
      contradiction
  by_cases hrebind : ∃ k, a = .rebind k
  · obtain ⟨k, rfl⟩ := hrebind
    obtain ⟨rebind, hk, hloop⟩ := bind_eq_some_iff.mp hstep
    obtain ⟨rebind', rfl⟩ | ⟨channelID, rest, cur', rebind', hpc, hids, -, hcur', hgone, rfl⟩ :=
      stepRebind_cases hloop
    · exact hsame hl
    · change (f.setConnector channelID rebind.ws).connector id = some l at hl
      rw [connector_setConnector] at hl
      split_ifs at hl with hid
      · subst hid
        cases hl
        refine htake (hguard rebind hk hpc id ?_ cur' hcur' hgone)
        rw [hids]
        rfl
      · exact hsame hl
  · have hsteady := step_same_relay (fun b heq => hrelay ⟨b, heq⟩)
      (fun k heq => hrebind ⟨k, heq⟩) hstep
    rw [connector, hsteady] at hl
    exact hsame hl

theorem returnPathOf_isolated {r : Relay} (h : r.Unused) (now : ℕ) :
    (returnPathOf r now).Isolated := by
  constructor
  · intro clientID session hsession
    change r.sessions.lookup clientID = some session at hsession
    rw [h.sessions] at hsession
    contradiction
  · intro p hp
    change p ∈ r.pumps at hp
    rw [h.pumps] at hp
    contradiction
  · intro n p hp
    change r.pumps[n]? = some p at hp
    rw [h.pumps] at hp
    contradiction
  · intro id l hl
    change r.server.channelIDToConnector.lookup id = some l at hl
    rw [h.connectors] at hl
    contradiction
  · intro n id l hn
    contradiction
  · intro clientID id msg target hd
    contradiction
  · intro d replay hd
    contradiction
  · intro w hw
    contradiction

end Steps

end ReturnPath

/-- Let requests and rebinds keep to the channels of their own token, and take
none from a link that is registered and has not had the chance to answer a ping,
however long an answer may take.  Then every channel is mapped to a link that has
authenticated with the token the channel was opened through, its payloads are
written to such links only, and no further step of this kind takes a channel from
a registered link that has not had the chance to answer. -/
theorem channels_stay_with_their_token (E : RelayEnv) (patience : ℕ) {r : Relay} {now : ℕ}
    {f : ReturnPath} {actions : List ReturnAction} (hunused : r.Unused)
    (hguard : Guarded (ReturnPath.step E) (ReturnPath.Isolates patience) (returnPathOf r now)
      actions)
    (hrun : run (ReturnPath.step E) (returnPathOf r now) actions = some f) :
    (∀ id l, f.connector id = some l → f.Own id l) ∧ (∀ w ∈ f.writes, f.Own w.channelID w.target) ∧
      ∀ a f', f.Isolates patience a → f.step E a = some f' →
        ∀ id cur l, f.connector id = some cur → cur ∈ f.relay.online →
          ¬ f.HadChance patience cur → f'.connector id = some l → l = cur := by
  have hisolated : f.Isolated := run_invariant (fun _ _ _ h => h.step)
      (ReturnPath.returnPathOf_isolated hunused now) hguard hrun
  refine ⟨hisolated.mapped, hisolated.writes, ?_⟩
  intro a f' hguard hstep id cur l hcur honline hchance hl
  exact ReturnPath.step_keeps_unanswered hguard hstep hcur honline hchance hl

/-! ## Connectors of one reverse token -/

section Instances

variable (patience : ℕ) (f : ReturnPath) (id : UUID) (l : Link)

instance : Decidable (f.Own id l) :=
  inferInstanceAs (Decidable (∃ token ∈ f.openers.lookup id, _))

instance : Decidable (f.HadChance patience l) :=
  inferInstanceAs (Decidable (_ ∨ ∃ ping ∈ f.pinged, _))

instance : Decidable (f.MayTake patience id l) :=
  inferInstanceAs (Decidable (_ ∧ ∀ cur ∈ f.connector id, cur ∈ f.relay.online → _ ∨ _))

instance (p : Pump) : Decidable (f.MayBegin patience p) :=
  inferInstanceAs (Decidable (ite _ _ (∀ token ∈ f.openers.lookup _, _)))

instance (rebind : Rebind) : Decidable (f.MayRebind patience rebind) :=
  inferInstanceAs (Decidable (∀ id ∈ rebind.ids.head?, ∀ cur ∈ f.connector id, _))

instance (a : ReturnAction) : Decidable (f.Isolates patience a) := by
  unfold ReturnPath.Isolates
  split <;> infer_instance

end Instances

def twoTokens : Registry :=
  { pairRegistry with
    connectorTokens := AList.insert (ascii "d") (ascii "r")
      pairRegistry.connectorTokens }

/-- The link of a channel, the token it has authenticated with, the token that
the channel was opened through, and the targets of its payloads. -/
structure WayBack where
  link : Option Link
  token : Option GoString
  opener : Option GoString
  targets : List (Link × Bool)
  deriving DecidableEq

def wayBack (actions : List ReturnAction) : Option WayBack :=
  (run (ReturnPath.step graceEnv)
    (returnPathOf (idleRelay twoTokens protocolVersionV2) 1700000000000)
    actions).map fun f =>
      { link := f.connector UUID.nil
        token := (f.connector UUID.nil).bind f.tokens.lookup
        opener := f.openers.lookup UUID.nil
        targets := f.writes.map fun w => (w.target, w.ok) }

/-- The connector `c` is back on link 4 and takes its channel over. -/
theorem takenOverRun_stays_with_token :
    Guarded (ReturnPath.step graceEnv) (ReturnPath.Isolates connStaleAfter)
      (returnPathOf (idleRelay twoTokens protocolVersionV2) 1700000000000) takenOverRun ∧
    ∃ f, run (ReturnPath.step graceEnv)
        (returnPathOf (idleRelay twoTokens protocolVersionV2) 1700000000000) takenOverRun = some f ∧
      f.connector UUID.nil = some 4 ∧ f.Own UUID.nil 4 ∧
      ∀ w ∈ f.writes, f.Own w.channelID w.target := by
  refine ⟨?guard, exists_run_and_of ?_ fun f hrun hlink =>
    (channels_stay_with_their_token graceEnv connStaleAfter ⟨idleRelay_initial .., rfl, rfl⟩
      ?guard hrun).imp (· UUID.nil 4 hlink) And.left⟩
  all_goals decide +kernel

/-- The link of the connector `c` drops, and the connector `d` comes on
link 4.  The provider sends a payload. -/
def foreignRun : List ReturnAction :=
  openedRun ++ [.relay (.disconnect (uuidOf 2)), .relay (.authenticate 4 (uuidOf 4)
      (.frame (authFrame protocolVersionV2 (ascii "d") false)) (ascii "d")),
    .relay (.register (uuidOf 4)), .startRebind (uuidOf 4), .rebind 0, .rebind 0,
    .rebind 0, .payload (uuidOf 1) (sealedPayload 1), .dispatch (uuidOf 1) true]

/-- The link of the connector `c` is there, and has not been pinged yet.  A
second client of the connector comes on link 4. -/
def secondClientRun : List ReturnAction :=
  openedRun ++ (joinConnector 4 (uuidOf 4)).map .relay ++
    [.startRebind (uuidOf 4), .rebind 0, .rebind 0]

/-- In the first run a connector gets the channel of another one, and what is
sent on it.  In the second a link that is registered and has not been pinged
loses its channel. -/
theorem foreignRun_crosses_tokens : wayBack foreignRun =
      some ⟨some 4, some (ascii "d"), some (ascii "c"), [(4, true)]⟩ ∧
    (run (ReturnPath.step graceEnv)
        (returnPathOf (idleRelay twoTokens protocolVersionV2) 1700000000000)
        secondClientRun).map (fun f => (f.connector UUID.nil, f.relay.online, f.pinged)) =
      some (some 2, [4, 2, 1], []) ∧ wayBack (secondClientRun ++ [.rebind 0]) =
      some ⟨some 4, some (ascii "c"), some (ascii "c"), []⟩ := by
  refine ⟨?_, ?_, ?_⟩ <;> decide +kernel

end LinkSocks
