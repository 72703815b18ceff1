import LinkSocks.Go.Tables
import LinkSocks.Relay.Server

/-!
# Connector pumps

A channel request of a connector starts a pump: a goroutine that checks the
request, waits for a provider, binds the channel to it and forwards the
channel's payloads, binding again whenever the provider's link drops.  The
relay is a machine whose actions are the steps of pumps, frames of clients,
clients and tokens that come and go, and timers; a run is one interleaving of
them.
-/

namespace LinkSocks

open Go List Option

/-- What a connector may ask for, and the pump keeps asking providers for. -/
inductive ChannelRequest where
  | connect (m : ConnectMessage)
  | channelOpen (m : ChannelOpenMessage)

def ChannelRequest.channelID : ChannelRequest → UUID
  | .connect m => m.channelID
  | .channelOpen m => m.channelID

def ChannelRequest.resume : ChannelRequest → Bool
  | .connect m => m.resume
  | .channelOpen m => m.resume

/-- The message of a first bind and of every bind after it. -/
def ChannelRequest.bindMessage : ChannelRequest → Bool → BaseMessage
  | .connect m, resume => .connect { m with resume := resume }
  | .channelOpen m, resume => .channelOpen ⟨m.channelID, resume⟩

/-- Where a pump is.  Steps between two points happen under one lock, or touch
nothing that is shared. -/
inductive PumpPC where
  | start
  | access
  | loop
  | readVersion
  | wait (major : UInt8)
  | blocked (major : UInt8)
  | failed
  | publish
  | bind
  | drain
  | send (msg : BaseMessage)
  | leave
  | cleanup
  | done

structure Pump where
  request : ChannelRequest
  ws : Link
  reverseToken : GoString
  clientID : UUID
  pc : PumpPC
  boundBefore : Bool
  reverseWS : Option Link
  pending : Option BaseMessage
  queue : ℕ
  /-- History: the rules of the client's token when it authenticated. -/
  rules : Option AccessControl
  /-- History: the resolver's answer at the access check. -/
  resolved : Option (List Bytes)
  /-- History: links whose requests for the channel this pump has absorbed. -/
  joined : List Link

inductive PumpLabel where
  | next
  | resolved (ips : Option (List Bytes))
  | written (ok : Bool)
  | woken
  | timedOut
  | cancelled
  | shutdown

/-- Settings of the relay and the library calls it makes. -/
structure RelayEnv where
  w : IntSize
  lib : Lib
  versions : VersionLib
  /-- `net.ParseIP`, in the 16-byte form. -/
  parseIP : GoString → Option Bytes
  transportGrace : Int
  connectorWait : Int

/-- The addresses that `Allow` tries: a literal address is not resolved. -/
def RelayEnv.addresses (E : RelayEnv) (host : GoString)
    (lookup : Option (List Bytes)) : Option (List Bytes) :=
  match E.parseIP host with
  | some ip => some [ip]
  | none => lookup

inductive WriteKind where
  | bind
  | payload
  deriving DecidableEq

/-- A write of a pump to a provider, with the pump and the versions of all
links at that moment.  Writes that fail are recorded as well. -/
structure ProviderWrite where
  kind : WriteKind
  message : BaseMessage
  provider : Link
  pump : Pump
  version : Link → UInt8

/-! ## Steps of a pump -/

/-- `checkAccess`: the rules are found through the registration of the client,
and there is no check at all for a sealed request. -/
def Pump.checkAccess (E : RelayEnv) (s : Server) (p : Pump) (lookup : Option (List Bytes)) : Bool :=
  match p.request with
  | .channelOpen _ => true
  | .connect m =>
    let connAC := (s.clientMeta.lookup p.clientID).bind s.registry.connectorTokenAC.lookup
    AccessControl.empty connAC || AccessControl.allow connAC (E.addresses m.address lookup) m.port

/-- The mapping that is published before a bind, and the buffer to drain. -/
def Pump.publish (s : Server) (p : Pump) (provider : Link) : Server × ℕ :=
  let id := p.request.channelID
  let owned : Bool :=
    match s.channelIDToConnector.lookup id with
    | none => true
    | some cur => cur = p.ws
  let ids := (s.tokenCache.lookup p.reverseToken).getD []
  let s := { s with
    channelIDToConnector :=
      if owned then s.channelIDToConnector.insert id p.ws
      else s.channelIDToConnector
    channelIDToClient := s.channelIDToClient.insert id provider
    tokenCache :=
      if id ∈ ids then s.tokenCache
      else s.tokenCache.insert p.reverseToken (ids ++ [id]) }
  match s.orphanQueues.lookup id with
  | some q => (s, q)
  | none => (s.newOrphanQueue id, s.queues.length)

/-- A payload whose write failed is kept for the next provider. -/
def retained : BaseMessage → Option BaseMessage
  | .data m => some (.data m)
  | .sealed m => some (.sealed m)
  | _ => none

/-- The outcome of one step: the shared state, the pump, and what it wrote to
its provider. -/
structure PumpMove where
  server : Server
  pump : Pump
  wrote : Option (WriteKind × BaseMessage × Link)

/-- One step of a pump that does not touch `pumpActive`. -/
def Pump.step (E : RelayEnv) (s : Server) (p : Pump) : PumpLabel → Option PumpMove
  | .resolved ips =>
    match p.pc with
    | .access =>
      if p.checkAccess E s ips then some ⟨s, { p with pc := .loop, resolved := ips }, none⟩
      else some ⟨s, { p with pc := .leave, resolved := ips }, none⟩
    | _ => none
  | .next =>
    match p.pc with
    | .loop =>
      if !s.pumpQueueAlive p.request.channelID then some ⟨s, { p with pc := .leave }, none⟩
      else if p.reverseWS.isNone then some ⟨s, { p with pc := .readVersion }, none⟩
      else some ⟨s, { p with pc := .publish }, none⟩
    | .readVersion => some ⟨s, { p with pc := .wait (s.majorOf p.ws) }, none⟩
    | .wait major =>
      match s.getNextWebSocketLocked p.reverseToken major with
      | (.ok conn, s') => some ⟨s', { p with pc := .publish, reverseWS := some conn }, none⟩
      | (.error _, s') =>
        if E.connectorWait ≤ 0 then some ⟨s', { p with pc := .failed }, none⟩
        else some ⟨s', { p with pc := .blocked major }, none⟩
    | .failed =>
      -- without an earlier bind the request is refused
      if !s.pumpQueueAlive p.request.channelID || !p.boundBefore then
        some ⟨s, { p with pc := .leave }, none⟩
      else some ⟨s, { p with pc := .loop }, none⟩
    | .publish =>
      p.reverseWS.map fun provider =>
        let published := p.publish s provider
        ⟨published.1, { p with pc := .bind, queue := published.2 }, none⟩
    | .drain =>
      match p.pending with
      | some msg => some ⟨s, { p with pc := .send msg, pending := none }, none⟩
      | none =>
        match s.queues[p.queue]? with
        | none => none
        | some ⟨msg :: items, closed⟩ =>
          some ⟨{ s with queues := s.queues.set p.queue ⟨items, closed⟩ },
            { p with pc := .send msg }, none⟩
        | some ⟨[], true⟩ => some ⟨s, { p with pc := .leave }, none⟩
        -- an open queue that is empty blocks
        | some ⟨[], false⟩ => none
    | .cleanup => some ⟨s.cleanupConnectorChannel p.request.channelID, { p with pc := .done }, none⟩
    | _ => none
  | .written ok =>
    match p.pc, p.reverseWS with
    | .bind, some provider =>
      let wrote := some (.bind, p.request.bindMessage p.boundBefore, provider)
      if ok then some ⟨s, { p with pc := .drain, boundBefore := true }, wrote⟩
      else
        some ⟨s, { p with pc := .loop, boundBefore := true, reverseWS := none }, wrote⟩
    | .send msg, some provider =>
      let wrote := some (.payload, msg, provider)
      if ok then some ⟨s, { p with pc := .drain }, wrote⟩
      else
        some ⟨s, { p with pc := .loop, pending := retained msg, reverseWS := none }, wrote⟩
    | _, _ => none
  | .woken =>
    match p.pc with
    | .blocked major => some ⟨s, { p with pc := .wait major }, none⟩
    | _ => none
  | .timedOut =>
    match p.pc with
    | .blocked _ => some ⟨s, { p with pc := .failed }, none⟩
    | _ => none
  | .cancelled =>
    -- with a grace window the pump runs on a context nobody cancels
    if 0 < E.transportGrace then none
    else
      match p.pc, p.pending with
      | .blocked _, _ => some ⟨s, { p with pc := .leave }, none⟩
      | .failed, _ => some ⟨s, { p with pc := .leave }, none⟩
      | .drain, none => some ⟨s, { p with pc := .leave }, none⟩
      | _, _ => none
  | .shutdown =>
    match p.pc, p.pending with
    | .drain, none => some ⟨s, { p with pc := .leave }, none⟩
    | _, _ => none

/-! ## The relay -/

/-- An authenticated link, from its authentication to the end of its
dispatcher. -/
structure Session where
  link : Link
  auth : WSClientAuth
  internalToken : GoString
  registered : Bool
  /-- History: the rules of the token when the client authenticated. -/
  rules : Option AccessControl

/-- The relay with its goroutines and the log of writes to providers.
`pumpActive` is a set of channels in the source; the pump that owns a channel
is recorded with it. -/
structure Relay where
  server : Server
  sessions : GoMap UUID Session
  pumpActive : GoMap UUID ℕ
  pumps : List Pump
  writes : List ProviderWrite

inductive RelayAction where
  | authenticate (link : Link) (clientID : UUID) (credentials : Credentials)
      (internalToken : GoString)
  | register (clientID : UUID)
  /-- A frame is read; it is not handled when a version warning that is due
  cannot be written. -/
  | receive (clientID : UUID) (data : Bytes) (handled : Bool)
  | disconnect (clientID : UUID)
  | removeToken (token : GoString)
  /-- The operator adds tokens, or gives rules to one. -/
  | updateTokens (registry : Registry)
  /-- A channel is bound outside of its pump: `bindDirectChannel`,
  `bindChannelPeer`, `rebindConnectorChannels`. -/
  | bindChannel (channelID : UUID) (client connector : Option Link)
  | expireOrphanData (channelID : UUID)
  /-- A disconnect, or the end of a grace window. -/
  | cleanupConnectorChannel (channelID : UUID)
  | pump (n : ℕ) (label : PumpLabel)

def Session.pump (session : Session) (clientID : UUID) (request : ChannelRequest) : Pump where
  request := request
  ws := session.link
  reverseToken := session.auth.reverseToken
  clientID := clientID
  pc := .start
  boundBefore := request.resume
  reverseWS := none
  pending := none
  queue := 0
  rules := session.rules
  resolved := none
  joined := []

/-- The request is given a buffer before its pump starts. -/
def Relay.request (r : Relay) (session : Session) (clientID : UUID)
    (request : ChannelRequest) : Relay :=
  { r with
    server := r.server.reserveOrphanQueue request.channelID
    pumps := r.pumps ++ [session.pump clientID request] }

/-- `connectorMessageDispatcher`, for the messages that reach a pump. -/
def Relay.connectorMessage (r : Relay) (session : Session) (clientID : UUID) : BaseMessage → Relay
  | .connect m => r.request session clientID (.connect m)
  | .channelOpen m => r.request session clientID (.channelOpen m)
  | .data m => { r with server := r.server.routeConnectorPayload m.channelID (.data m) }
  | .sealed m => { r with server := r.server.routeConnectorPayload m.channelID (.sealed m) }
  | _ => r

def Server.authenticated (s : Server) (auth : WSClientAuth)
    (internalToken : GoString) : Option Server :=
  if auth.roles.reverse ∧ (s.manages.lookup auth.token).isSome then
    some (s.addInternalToken auth.token internalToken)
  else if internalToken = auth.token then some s
  else none

def Relay.authenticate (E : RelayEnv) (r : Relay) (link : Link)
    (clientID : UUID) (credentials : Credentials) (internalToken : GoString) : Option Relay :=
  match authenticateWebSocketClient E.w E.lib E.versions r.server.registry
      credentials with
  | .error _ => none
  | .ok auth =>
    -- `uuid.New` gives an identifier that is not in use
    if r.server.version link = auth.version ∧ (r.sessions.lookup clientID).isNone ∧
        (r.server.clientMeta.lookup clientID).isNone then
      (r.server.authenticated auth internalToken).map fun server =>
        { r with
          server := server
          sessions := r.sessions.insert clientID
            { link := link, auth := auth, internalToken := internalToken,
              registered := false,
              rules := r.server.registry.connectorTokenAC.lookup auth.token } }
    else none

def Relay.register (r : Relay) (clientID : UUID) : Option Relay :=
  (r.sessions.lookup clientID).map fun session =>
    { r with
      server := r.server.registerWebSocketClient clientID session.link session.internalToken
      sessions := r.sessions.insert clientID { session with registered := true } }

def Relay.receive (E : RelayEnv) (r : Relay) (clientID : UUID) (data : Bytes)
    (handled : Bool) : Option Relay :=
  match r.sessions.lookup clientID, parseMessageWithVersion E.w E.lib data with
  | some session, (.ok msg, version) =>
    if session.registered then
      let r := { r with server := r.server.setProtocolVersion session.link version }
      if handled && session.auth.roles.connector then some (r.connectorMessage session clientID msg)
      else some r
    else none
  | _, _ => none

def Relay.disconnect (r : Relay) (clientID : UUID) : Option Relay :=
  (r.sessions.lookup clientID).map fun session =>
    { r with
      server := r.server.cleanupConnection clientID session.internalToken
      sessions := r.sessions.erase clientID }

/-- A channel has one pump at a time; a request that finds one is absorbed by
it, and a resuming one takes over the way back. -/
def Relay.startPump (r : Relay) (n : ℕ) (p : Pump) : Relay :=
  let id := p.request.channelID
  match r.pumpActive.lookup id with
  | none =>
    { r with
      pumpActive := r.pumpActive.insert id n
      pumps := r.pumps.set n { p with pc := .access } }
  | some owner =>
    { r with
      server := { r.server with
        channelIDToConnector :=
          if p.request.resume then r.server.channelIDToConnector.insert id p.ws
          else r.server.channelIDToConnector }
      pumps := (r.pumps.set n { p with pc := .done }).modify owner fun q =>
        { q with joined := p.ws :: q.joined } }

def Relay.leavePump (r : Relay) (n : ℕ) (p : Pump) : Relay :=
  { r with
    pumpActive := r.pumpActive.erase p.request.channelID
    pumps := r.pumps.set n { p with pc := .cleanup } }

def Relay.movePump (r : Relay) (n : ℕ) (p : Pump) (m : PumpMove) : Relay :=
  { r with
    server := m.server
    pumps := r.pumps.set n m.pump
    writes := r.writes ++ m.wrote.toList.map fun wrote =>
      { kind := wrote.1, message := wrote.2.1, provider := wrote.2.2,
        pump := p, version := r.server.version } }

def Relay.stepPump (E : RelayEnv) (r : Relay) (n : ℕ) (label : PumpLabel) : Option Relay :=
  match r.pumps[n]? with
  | none => none
  | some p =>
    match p.pc, label with
    | .start, .next => some (r.startPump n p)
    | .leave, .next => some (r.leavePump n p)
    | _, _ => (p.step E r.server label).map (r.movePump n p)

def Server.bindChannel (s : Server) (channelID : UUID) (client connector : Option Link) : Server :=
  { s with
    channelIDToClient := client.elim s.channelIDToClient (s.channelIDToClient.insert channelID)
    channelIDToConnector :=
      connector.elim s.channelIDToConnector (s.channelIDToConnector.insert channelID) }

def Relay.step (E : RelayEnv) (r : Relay) : RelayAction → Option Relay
  | .authenticate link clientID credentials internalToken =>
    r.authenticate E link clientID credentials internalToken
  | .register clientID => r.register clientID
  | .receive clientID data handled => r.receive E clientID data handled
  | .disconnect clientID => r.disconnect clientID
  | .removeToken token => some { r with server := r.server.removeToken token }
  | .updateTokens registry => some { r with server := { r.server with registry := registry } }
  | .bindChannel channelID client connector =>
    some { r with server := r.server.bindChannel channelID client connector }
  | .expireOrphanData channelID => some { r with server := r.server.expireOrphanData channelID }
  | .cleanupConnectorChannel channelID =>
    some { r with server := r.server.cleanupConnectorChannel channelID }
  | .pump n label => r.stepPump E n label

/-- No pump has been started; the registries, the clients and the buffers are
arbitrary. -/
structure Relay.Initial (r : Relay) : Prop where
  pumpActive : r.pumpActive = ∅
  pumps : r.pumps = []
  writes : r.writes = []

/-! ## What a step can do -/

/-- The access check of the pump has been passed. -/
def PumpPC.granted : PumpPC → Bool
  | .start | .access | .leave | .cleanup | .done => false
  | _ => true

@[simp] theorem Pump.publish_version (s : Server) (p : Pump) (provider : Link) :
    (p.publish s provider).1.version = s.version := by
  rw [Pump.publish]
  split <;> rfl

/-- Everything that later arguments use about one step of a pump. -/
structure Pump.StepSpec (E : RelayEnv) (s : Server) (p : Pump) (m : PumpMove) : Prop where
  version : m.server.version = s.version
  request : m.pump.request = p.request
  ws : m.pump.ws = p.ws
  rules : m.pump.rules = p.rules
  clientID : m.pump.clientID = p.clientID
  joined : m.pump.joined = p.joined
  /-- A provider is kept, dropped, or chosen by a lookup for the generation
  that the pump waits for. -/
  reverseWS : ∀ l, m.pump.reverseWS = some l → p.reverseWS = some l ∨ ∃ major, p.pc = .wait major ∧
      (s.getNextWebSocketLocked p.reverseToken major).1 = .ok l
  /-- The generation to wait for is read once, before the wait. -/
  wait : ∀ major, m.pump.pc = .wait major → p.pc = .blocked major ∨ major = s.majorOf p.ws
  blocked : ∀ major, m.pump.pc = .blocked major → p.pc = .wait major
  granted : m.pump.pc.granted = true → (p.pc.granted = true ∧ m.pump.resolved = p.resolved) ∨
      (p.pc = .access ∧ p.checkAccess E s m.pump.resolved = true)
  wrote : ∀ kind msg l, m.wrote = some (kind, msg, l) → p.reverseWS = some l ∧ p.pc.granted = true
  boundBy : ∀ msg l, m.wrote = some (.bind, msg, l) → msg = p.request.bindMessage p.boundBefore

variable {E : RelayEnv}

theorem Pump.StepSpec.of_pc {s s' : Server} {p : Pump} {pc : PumpPC}
    {pending : Option BaseMessage} {queue : ℕ} (hversion : s'.version = s.version)
    (hgranted : pc.granted = true → p.pc.granted = true)
    (hwait : ∀ major, pc = .wait major → p.pc = .blocked major ∨ major = s.majorOf p.ws)
    (hblocked : ∀ major, pc = .blocked major → p.pc = .wait major) :
    Pump.StepSpec E s p ⟨s', { p with pc := pc, pending := pending, queue := queue }, none⟩ where
  version := hversion
  request := rfl
  ws := rfl
  rules := rfl
  clientID := rfl
  joined := rfl
  reverseWS := fun _ h => .inl h
  wait := hwait
  blocked := hblocked
  granted := fun h => .inl ⟨hgranted h, rfl⟩
  wrote := fun _ _ _ h => nomatch h
  boundBy := fun _ _ h => nomatch h

theorem Pump.StepSpec.of_write {s : Server} {p q : Pump} {kind : WriteKind}
    {msg : BaseMessage} {provider : Link}
    (hprovider : p.reverseWS = some provider) (hpc : p.pc.granted = true) (hq : q = { p with
      pc := q.pc, boundBefore := q.boundBefore, reverseWS := q.reverseWS,
      pending := q.pending }) (hkept : q.reverseWS = none ∨ q.reverseWS = p.reverseWS)
    (hnext : q.pc = .drain ∨ q.pc = .loop)
    (hbind : kind = .bind → msg = p.request.bindMessage p.boundBefore) :
    Pump.StepSpec E s p ⟨s, q, some (kind, msg, provider)⟩ where
  version := rfl
  request := by rw [hq]
  ws := by rw [hq]
  rules := by rw [hq]
  clientID := by rw [hq]
  joined := by rw [hq]
  reverseWS := by
    intro l hl
    rcases hkept with hnone | hsame
    · rw [hnone] at hl
      cases hl
    · exact .inl (hsame ▸ hl)
  wait := by
    intro major h
    rcases hnext with hdrain | hloop
    · exact nomatch hdrain.symm.trans h
    · exact nomatch hloop.symm.trans h
  blocked := by
    intro major h
    rcases hnext with hdrain | hloop
    · exact nomatch hdrain.symm.trans h
    · exact nomatch hloop.symm.trans h
  granted := fun _ => .inl ⟨hpc, by rw [hq]⟩
  wrote := by
    rintro _ _ l h
    cases h
    exact ⟨hprovider, hpc⟩
  boundBy := by
    rintro _ l h
    cases h
    exact hbind rfl

/-- What a step of a pump can change. -/
theorem Pump.step_spec {s : Server} {p : Pump} {label : PumpLabel} {m : PumpMove}
    (h : p.step E s label = some m) : Pump.StepSpec E s p m := by
  have hversion := fun major => (s.getNextWebSocketLocked_same p.reverseToken major).version
  revert h
  fun_cases Pump.step E s p label <;> intro h
  -- the access check decides whether the pump goes on
  case case1 | case2 =>
    cases h
    refine ⟨rfl, rfl, rfl, rfl, rfl, rfl, fun _ => .inl, ?_, ?_, ?_, ?_, ?_⟩ <;>
      simp [*, PumpPC.granted]
  -- a lookup gives the pump a provider, or leaves it waiting
  case case8 major hpc conn s' hnext =>
    cases h
    have hversion := hversion major
    rw [hnext] at hversion
    refine ⟨hversion, rfl, rfl, rfl, rfl, rfl, ?_, ?_, ?_, ?_, ?_, ?_⟩
    · intro l hl
      cases hl
      exact .inr ⟨major, hpc, by rw [hnext]⟩
    all_goals simp [hpc, PumpPC.granted]
  case case9 major _ _ _ hnext _ | case10 major _ _ _ hnext _ =>
    cases h
    have hversion := hversion major
    rw [hnext] at hversion
    exact .of_pc hversion (by simp [*, PumpPC.granted]) (by simp) (by simp [*])
  case case13 =>
    obtain ⟨provider, -, rfl⟩ := map_eq_some_iff.mp h
    exact .of_pc (p.publish_version s provider) (by simp [*, PumpPC.granted]) (by simp) (by simp)
  case case19 =>
    cases h
    exact .of_pc (s.cleanupConnectorChannel_version _) (by simp [PumpPC.granted])
      (by simp) (by simp)
  case case21 | case23 =>
    cases h
    exact .of_write ‹_› (by simp [*, PumpPC.granted]) rfl (.inr rfl) (.inl rfl) (by simp)
  case case22 | case24 =>
    cases h
    exact .of_write ‹_› (by simp [*, PumpPC.granted]) rfl (.inl rfl) (.inr rfl) (by simp)
  -- the other steps only move on
  all_goals cases h
  all_goals exact .of_pc rfl (by simp [*, PumpPC.granted]) (by simp [*]) (by simp)

/-! ## What an action can do -/

def requestOf : BaseMessage → Option ChannelRequest
  | .connect m => some (.connect m)
  | .channelOpen m => some (.channelOpen m)
  | _ => none

def Relay.arriving (E : RelayEnv) (r : Relay) : RelayAction → Option ChannelRequest
  | .receive clientID data handled =>
    match r.sessions.lookup clientID, parseMessageWithVersion E.w E.lib data with
    | some session, (.ok msg, _) =>
      if session.registered && handled && session.auth.roles.connector then requestOf msg
      else none
    | _, _ => none
  | _ => none

/-- Where a pump comes from in a step: it was there, and has perhaps absorbed a
request or moved, or its request has arrived. -/
inductive Relay.PumpOrigin (E : RelayEnv) (r : Relay) (a : RelayAction) (m : ℕ) : Pump → Prop where
  | kept {q : Pump} (pump : r.pumps[m]? = some q) (still : ∀ label, a ≠ .pump m label) :
      PumpOrigin E r a m q
  | arrived (session : Session) (clientID : UUID) (request : ChannelRequest)
      (client : r.sessions.lookup clientID = some session)
      (arrives : r.arriving E a = some request) (last : m = r.pumps.length) :
      PumpOrigin E r a m (session.pump clientID request)
  | entered (p : Pump) (action : a = .pump m .next) (pump : r.pumps[m]? = some p)
      (pc : p.pc = .start) (free : r.pumpActive.lookup p.request.channelID = none) :
      PumpOrigin E r a m { p with pc := .access }
  | joined (p : Pump) (links : List Link) (action : a = .pump m .next)
      (pump : r.pumps[m]? = some p) (pc : p.pc = .start)
      (own : links = p.joined ∨ links = p.ws :: p.joined) :
      PumpOrigin E r a m { p with pc := .done, joined := links }
  | absorbed (n : ℕ) (p o : Pump) (action : a = .pump n .next) (pump : r.pumps[n]? = some p)
      (pc : p.pc = .start) (owned : r.pumpActive.lookup p.request.channelID = some m)
      (owner : r.pumps[m]? = some o) : PumpOrigin E r a m { o with joined := p.ws :: o.joined }
  | left (p : Pump) (action : a = .pump m .next) (pump : r.pumps[m]? = some p)
      (pc : p.pc = .leave) : PumpOrigin E r a m { p with pc := .cleanup }
  | moved (p : Pump) (label : PumpLabel) (move : PumpMove) (action : a = .pump m label)
      (pump : r.pumps[m]? = some p) (step : p.step E r.server label = some move) :
      PumpOrigin E r a m move.pump

section Actions

variable {E : RelayEnv} {r r' : Relay}

@[simp] theorem Relay.request_version (session : Session) (clientID : UUID)
    (request : ChannelRequest) : (r.request session clientID request).server.version =
      r.server.version := r.server.reserveOrphanQueue_version _

/-- A message of a connector adds a pump if it is a request. -/
theorem Relay.connectorMessage_spec (session : Session) (clientID : UUID) (msg : BaseMessage) :
    let after := r.connectorMessage session clientID msg
    after.server.version = r.server.version ∧ after.writes = r.writes ∧
      after.pumpActive = r.pumpActive ∧ ((after.pumps = r.pumps ∧ requestOf msg = none) ∨
        ∃ request, requestOf msg = some request ∧
          after.pumps = r.pumps ++ [session.pump clientID request]) := by
  cases msg with
  | connect m | channelOpen m =>
    exact ⟨Relay.request_version .., rfl, rfl, .inr ⟨_, rfl, rfl⟩⟩
  | data m | «sealed» m =>
    exact ⟨r.server.routeConnectorPayload_version _ _, rfl, rfl, .inl ⟨rfl, rfl⟩⟩
  | _ => exact ⟨rfl, rfl, rfl, .inl ⟨rfl, rfl⟩⟩

/-- A frame sets the version of its link, and adds a pump if it is a request. -/
theorem Relay.receive_spec {clientID : UUID} {data : Bytes} {handled : Bool}
    (h : r.receive E clientID data handled = some r') :
    ∃ session msg version, r.sessions.lookup clientID = some session ∧
      parseMessageWithVersion E.w E.lib data = (.ok msg, version) ∧
      r'.server.version = Function.update r.server.version session.link version ∧
      r'.writes = r.writes ∧ r'.pumpActive = r.pumpActive ∧
      ((r'.pumps = r.pumps ∧ r.arriving E (.receive clientID data handled) = none) ∨
        ∃ request, r.arriving E (.receive clientID data handled) = some request ∧
          r'.pumps = r.pumps ++ [session.pump clientID request]) := by
  revert h
  fun_cases Relay.receive E r clientID data handled <;> intro h
  case case1 session msg version hparse hsession hregistered after hhandled =>
    cases h
    have harriving : r.arriving E (.receive clientID data handled) = requestOf msg := by
      simp only [Relay.arriving, hsession, hparse, hregistered, Bool.true_and, hhandled, if_true]
    rw [harriving]
    exact ⟨session, msg, version, hsession, hparse,
      after.connectorMessage_spec session clientID msg⟩
  case case2 session msg version hparse hsession _ _ hhandled =>
    obtain rfl := some.inj h
    refine ⟨session, msg, version, hsession, hparse, rfl, rfl, rfl, .inl ⟨rfl, ?_⟩⟩
    simp only [Relay.arriving, hsession, hparse, Bool.and_assoc, hhandled, Bool.and_false,
      Bool.false_eq_true, if_false]
  all_goals contradiction

/-- A pump enters, leaves or moves. -/
theorem Relay.stepPump_spec {n : ℕ} {label : PumpLabel} (h : r.stepPump E n label = some r') :
    ∃ p, r.pumps[n]? = some p ∧ ((p.pc = .start ∧ label = .next ∧ r' = r.startPump n p) ∨
        (p.pc = .leave ∧ label = .next ∧ r' = r.leavePump n p) ∨
        ∃ m, p.step E r.server label = some m ∧ r' = r.movePump n p m) := by
  rw [Relay.stepPump] at h
  split at h
  · cases h
  · rename_i p hp
    refine ⟨p, hp, ?_⟩
    split at h
    · rename_i hpc
      cases h
      exact .inl ⟨hpc, rfl, rfl⟩
    · rename_i hpc
      cases h
      exact .inr (.inl ⟨hpc, rfl, rfl⟩)
    · obtain ⟨m, hm, rfl⟩ := map_eq_some_iff.mp h
      exact .inr (.inr ⟨m, hm, rfl⟩)

theorem Relay.authenticate_spec {link : Link} {clientID : UUID}
    {credentials : Credentials} {internalToken : GoString}
    (h : r.authenticate E link clientID credentials internalToken = some r') :
    ∃ session server, session.link = link ∧ r.server.SameChannels server ∧ r' = { r with
        server := server
        sessions := r.sessions.insert clientID session } := by
  rw [Relay.authenticate] at h
  split at h
  · contradiction
  · split_ifs at h
    obtain ⟨server, hserver, rfl⟩ := map_eq_some_iff.mp h
    refine ⟨_, server, rfl, ?_, rfl⟩
    rw [Server.authenticated] at hserver
    split_ifs at hserver
    · cases hserver
      exact ⟨⟨rfl, rfl, rfl⟩, rfl, rfl, rfl⟩
    · cases hserver
      exact ⟨⟨rfl, rfl, rfl⟩, rfl, rfl, rfl⟩

/-- The action is about clients and tokens, and finds no channels. -/
def RelayAction.registers : RelayAction → Bool
  | .authenticate .. | .register _ | .disconnect _ | .updateTokens _ => true
  | _ => false

/-- Actions that register or forget clients leave the channels alone. -/
theorem Relay.step_registers {a : RelayAction} (h : r.step E a = some r')
    (ha : a.registers = true) : ∃ server sessions,
      r' = { r with server := server, sessions := sessions } ∧ r.server.SameChannels server := by
  cases a with
  | authenticate link clientID credentials internalToken =>
    obtain ⟨session, server, -, hsame, rfl⟩ := Relay.authenticate_spec h
    exact ⟨server, _, rfl, hsame⟩
  | register clientID =>
    obtain ⟨session, -, rfl⟩ := map_eq_some_iff.mp h
    exact ⟨_, _, rfl, ⟨rfl, rfl, rfl⟩, rfl, rfl, rfl⟩
  | disconnect clientID =>
    obtain ⟨session, -, rfl⟩ := map_eq_some_iff.mp h
    exact ⟨_, _, rfl, r.server.cleanupConnection_same _ _⟩
  | updateTokens registry =>
    cases h
    exact ⟨_, _, rfl, ⟨rfl, rfl, rfl⟩, rfl, rfl, rfl⟩
  | _ => contradiction

theorem Relay.step_other {a : RelayAction} (h : r.step E a = some r')
    (hreceive : ∀ clientID data handled, a ≠ .receive clientID data handled)
    (hpump : ∀ n label, a ≠ .pump n label) :
    r'.server.version = r.server.version ∧ r'.pumps = r.pumps ∧ r'.writes = r.writes := by
  cases a with
  | receive clientID data handled => exact absurd rfl (hreceive _ _ _)
  | pump n label => exact absurd rfl (hpump _ _)
  | authenticate | register | disconnect | updateTokens =>
    obtain ⟨server, sessions, rfl, hsame⟩ := Relay.step_registers h rfl
    exact ⟨hsame.version, rfl, rfl⟩
  | removeToken | expireOrphanData | cleanupConnectorChannel | bindChannel =>
    cases h
    exact ⟨by simp [Server.bindChannel], rfl, rfl⟩

@[simp] theorem Relay.startPump_version (n : ℕ) (p : Pump) :
    (r.startPump n p).server.version = r.server.version := by
  rw [Relay.startPump]
  split <;> rfl

@[simp] theorem Relay.startPump_writes (n : ℕ) (p : Pump) :
    (r.startPump n p).writes = r.writes := by
  rw [Relay.startPump]
  split <;> rfl

/-- Where each pump has come from. -/
theorem Relay.step_origin {a : RelayAction} (h : r.step E a = some r') {m : ℕ} {q : Pump}
    (hq : r'.pumps[m]? = some q) : r.PumpOrigin E a m q := by
  cases a with
  | receive clientID data handled =>
    obtain ⟨session, -, -, hsession, -, -, -, -, hpumps⟩ := receive_spec h
    rcases hpumps with ⟨hsame, -⟩ | ⟨request, harrives, hadded⟩
    · exact .kept (hsame ▸ hq) nofun
    · rcases getElem?_concat_cases (hadded ▸ hq) with hold | ⟨hlast, rfl⟩
      · exact .kept hold nofun
      · exact .arrived session clientID request hsession harrives hlast
  | pump n label =>
    have hother : ∀ {q : Pump}, m ≠ n → r.pumps[m]? = some q →
        r.PumpOrigin E (.pump n label) m q := by
      intro q hm hold
      refine .kept hold fun label' heq => hm ?_
      cases heq
      rfl
    obtain ⟨p, hp, ⟨hpc, rfl, rfl⟩ | ⟨hpc, rfl, rfl⟩ | ⟨move, hmove, rfl⟩⟩ := stepPump_spec h
    · rw [Relay.startPump] at hq
      split at hq
      · rcases getElem?_set_cases hq with ⟨rfl, rfl⟩ | ⟨hm, hold⟩
        · exact .entered p rfl hp hpc ‹_›
        · exact hother hm hold
      · rw [getElem?_modify] at hq
        obtain ⟨o, ho, rfl⟩ := map_eq_some_iff.mp hq
        rcases getElem?_set_cases ho with ⟨rfl, rfl⟩ | ⟨hm, hold⟩
        · split
          · exact .joined p _ rfl hp hpc (.inr rfl)
          · exact .joined p _ rfl hp hpc (.inl rfl)
        · split
          · subst m
            exact .absorbed n p o rfl hp hpc ‹_› hold
          · exact hother hm hold
    · rcases getElem?_set_cases hq with ⟨rfl, rfl⟩ | ⟨hm, hold⟩
      · exact .left p rfl hp hpc
      · exact hother hm hold
    · rcases getElem?_set_cases hq with ⟨rfl, rfl⟩ | ⟨hm, hold⟩
      · exact .moved p label move rfl hp hmove
      · exact hother hm hold
  | _ => exact .kept ((step_other h nofun nofun).2.1 ▸ hq) nofun

/-- A new write is that of a pump. -/
theorem Relay.mem_writes {a : RelayAction} (h : r.step E a = some r') {w : ProviderWrite}
    (hw : w ∈ r'.writes) : w ∈ r.writes ∨ ∃ (n : ℕ) (p : Pump) (label : PumpLabel)
        (move : PumpMove) (kind : WriteKind) (msg : BaseMessage) (provider : Link),
      r.pumps[n]? = some p ∧ p.step E r.server label = some move ∧
        move.wrote = some (kind, msg, provider) ∧
        w = ⟨kind, msg, provider, p, r.server.version⟩ := by
  cases a with
  | receive clientID data handled =>
    obtain ⟨-, -, -, -, -, -, hwrites, -⟩ := receive_spec h
    exact .inl (hwrites ▸ hw)
  | pump n label =>
    obtain ⟨p, hp, ⟨-, -, rfl⟩ | ⟨-, -, rfl⟩ | ⟨move, hmove, rfl⟩⟩ := stepPump_spec h
    · exact .inl (startPump_writes n p ▸ hw)
    · exact .inl hw
    · rcases mem_append.mp hw with hold | hnew
      · exact .inl hold
      · obtain ⟨⟨kind, msg, provider⟩, hwrote, rfl⟩ := mem_map.mp hnew
        exact .inr ⟨n, p, label, move, kind, msg, provider, hp, hmove,
          mem_toList.mp hwrote, rfl⟩
  | _ => exact .inl ((step_other h nofun nofun).2.2 ▸ hw)

end Actions

/-! ## What leaves the mappings alone -/

section Mapping

variable {E : RelayEnv} {r r' : Relay} {clientID : UUID} {data : Bytes} {handled : Bool}

theorem Relay.receive_sessions
    (h : r.receive E clientID data handled = some r') : r'.sessions = r.sessions := by
  rw [Relay.receive] at h
  split at h
  · rename_i msg _ _ _
    split_ifs at h <;> cases h
    · cases msg <;> rfl
    · rfl
  · contradiction

theorem Relay.connectorMessage_sameMapping (r : Relay) (session : Session)
    (clientID : UUID) (msg : BaseMessage) :
    r.server.SameMapping (r.connectorMessage session clientID msg).server := by
  cases msg with
  | connect m | channelOpen m =>
    exact r.server.reserveOrphanQueue_sameMapping m.channelID
  | data m | sealed m =>
    exact r.server.routeConnectorPayload_sameMapping m.channelID _
  | _ => exact ⟨rfl, rfl, rfl⟩

theorem Relay.receive_sameMapping
    (h : r.receive E clientID data handled = some r') : r.server.SameMapping r'.server := by
  rw [Relay.receive] at h
  split at h
  · split_ifs at h <;> cases h
    · exact { Relay.connectorMessage_sameMapping .. with }
    · exact ⟨rfl, rfl, rfl⟩
  · contradiction

end Mapping

end LinkSocks
