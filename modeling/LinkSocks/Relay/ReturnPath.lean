import LinkSocks.Go.Holders
import LinkSocks.Relay.Handover

/-!
# The way back to the connector

What a provider sends for a channel is written to the link that the channel is
mapped to, or put into the channel's return queue when there is none or the
write fails.  A connector that comes back on a fresh link takes over channels
from links that are gone or have been silent for too long, and replays their
return queues; a pump replays the queue of its channel after each bind.

The relay of `LinkSocks.Relay.Pump` is one part of the state here.  The
dispatchers of providers, the goroutines that rebind channels and those that
replay queues are the others; none of them keeps a lock while it writes.
-/

namespace LinkSocks

open Go Option

/-- `3 * defaultPingInterval`, in milliseconds. -/
def connStaleAfter : ℕ := 90000

/-- A payload in the hands of a provider's dispatcher. -/
inductive Dispatch where
  /-- The target has been looked up. -/
  | write (channelID : UUID) (msg : BaseMessage) (target : Link)
  /-- There is none, or the write has failed. -/
  | buffer (channelID : UUID) (msg : BaseMessage)

inductive ReplayPC where
  | take
  | write (pending : List BaseMessage)
  | requeue (pending : List BaseMessage)

structure Replay where
  channelID : UUID
  target : Link
  pc : ReplayPC

/-- Who replays: a pump, or a goroutine that rebinds channels. -/
inductive Drainer where
  | pump (n : ℕ)
  | rebind (k : ℕ)
  deriving DecidableEq

inductive RebindPC where
  | channels
  | online
  | loop
  deriving DecidableEq

structure Rebind where
  ws : Link
  reverseToken : GoString
  ids : List UUID
  online : List Link
  pc : RebindPC

structure ReturnWrite where
  channelID : UUID
  message : BaseMessage
  target : Link
  ok : Bool
  deriving DecidableEq

structure ReturnPath where
  relay : Relay
  returnQueues : GoMap UUID (List BaseMessage)
  /-- By the client whose dispatcher it is. -/
  dispatching : GoMap UUID Dispatch
  rebinds : List Rebind
  replays : GoMap Drainer Replay
  /-- `drainTarget` of each pump, with its channel. -/
  drainTargets : GoMap ℕ (UUID × Link)
  /-- The time, in milliseconds. -/
  now : ℕ
  /-- `lastPongMillis`; zero means never. -/
  lastPong : Link → ℕ
  /-- History: the links that a ping was sent to, with the time. -/
  pinged : List (Link × ℕ)
  /-- History: the token with which a link authenticated. -/
  tokens : GoMap Link GoString
  /-- History: the token through which a channel was opened. -/
  openers : GoMap UUID GoString
  /-- History: the payloads that providers have sent, with their channels. -/
  sent : List (UUID × BaseMessage)
  /-- History. -/
  writes : List ReturnWrite

inductive ReturnAction where
  | relay (a : RelayAction)
  /-- The dispatcher of a provider takes up a payload. -/
  | payload (clientID : UUID) (msg : BaseMessage)
  /-- It goes on; `ok` is the outcome of its write. -/
  | dispatch (clientID : UUID) (ok : Bool)
  /-- A connector that has registered starts to rebind channels. -/
  | startRebind (clientID : UUID)
  | rebind (k : ℕ)
  | replay (d : Drainer) (ok : Bool)
  | expireConnectorReturn (channelID : UUID)
  | tick (millis : ℕ)
  | ping (link : Link)
  | pong (link : Link)

/-- The links of `s.clients`. -/
def Relay.online (r : Relay) : List Link :=
  r.sessions.entries.filterMap fun e => if e.2.registered then some e.2.link else none

/-- The pump that an action moves. -/
def Relay.moving (r : Relay) : RelayAction → Option (ℕ × Pump × PumpLabel)
  | .pump n label => (r.pumps[n]?).map fun p => (n, p, label)
  | _ => none

namespace ReturnPath

def connector (f : ReturnPath) (channelID : UUID) : Option Link :=
  f.relay.server.channelIDToConnector.lookup channelID

/-- A link that has never answered a ping counts as silent since 1970. -/
def isStale (f : ReturnPath) (l : Link) : Bool := connStaleAfter < f.now - f.lastPong l

/-! ## Dispatchers -/

/-- The lookup in `messageDispatcher`, for a payload. -/
def lookUp (f : ReturnPath) (channelID : UUID) (msg : BaseMessage) : Dispatch :=
  match f.connector channelID with
  | some target => .write channelID msg target
  | none => .buffer channelID msg

def queued (f : ReturnPath) (channelID : UUID) : List BaseMessage :=
  (f.returnQueues.lookup channelID).getD []

def bufferConnectorReturn (f : ReturnPath) (channelID : UUID) (msg : BaseMessage) : ReturnPath :=
  let queue := f.queued channelID
  { f with
    returnQueues := f.returnQueues.insert channelID
      (if queue.length < orphanDataQueueSize then queue ++ [msg] else queue) }

def log (f : ReturnPath) (channelID : UUID) (msg : BaseMessage) (target : Link)
    (ok : Bool) : ReturnPath := { f with writes := f.writes ++ [⟨channelID, msg, target, ok⟩] }

def dispatch (f : ReturnPath) (clientID : UUID) (ok : Bool) : Dispatch → ReturnPath
  | .write channelID msg target =>
    { f.log channelID msg target ok with
      dispatching :=
        if ok then f.dispatching.erase clientID
        else f.dispatching.insert clientID (.buffer channelID msg) }
  | .buffer channelID msg =>
    { f.bufferConnectorReturn channelID msg with dispatching := f.dispatching.erase clientID }

/-! ## Replays -/

/-- The queue stays in the map, empty, when it is taken.  A failed write puts
what is left in front of what has come in since. -/
def stepReplay (f : ReturnPath) (d : Drainer) (ok : Bool) (replay : Replay) : ReturnPath :=
  match replay.pc with
  | .take =>
    match f.returnQueues.lookup replay.channelID with
    | none => { f with replays := f.replays.erase d }
    | some queue =>
      { f with
        returnQueues := f.returnQueues.insert replay.channelID []
        replays := f.replays.insert d { replay with pc := .write queue } }
  | .write [] => { f with replays := f.replays.erase d }
  | .write (msg :: rest) =>
    { f.log replay.channelID msg replay.target ok with
      replays := f.replays.insert d
        { replay with pc := if ok then .write rest else .requeue (msg :: rest) } }
  | .requeue pending =>
    { f with
      replays := f.replays.erase d
      returnQueues :=
        match f.returnQueues.lookup replay.channelID with
        | none => f.returnQueues
        | some queue => f.returnQueues.insert replay.channelID
            ((pending ++ queue).take orphanDataQueueSize) }

/-! ## Rebinds -/

/-- The link is not in the snapshot of the goroutine, or silent for too
long. -/
def gone (f : ReturnPath) (rebind : Rebind) (cur : Link) : Bool :=
  cur ∉ rebind.online || f.isStale cur

def setConnector (f : ReturnPath) (channelID : UUID) (ws : Link) : ReturnPath :=
  { f with
    relay.server.channelIDToConnector := f.relay.server.channelIDToConnector.insert channelID ws }

/-- One iteration of the loop, up to the replay. -/
def rebindChannel (f : ReturnPath) (k : ℕ) (rebind : Rebind) (channelID : UUID) : ReturnPath :=
  match f.connector channelID with
  | none => f
  | some cur =>
    if f.gone rebind cur then
      { f.setConnector channelID rebind.ws with
        replays := f.replays.insert (.rebind k) ⟨channelID, rebind.ws, .take⟩ }
    else f

def setRebind (f : ReturnPath) (k : ℕ) (rebind : Rebind) : ReturnPath :=
  { f with rebinds := f.rebinds.set k rebind }

def stepRebind (f : ReturnPath) (k : ℕ) (rebind : Rebind) : Option ReturnPath :=
  match rebind.pc with
  | .channels =>
    some (f.setRebind k { rebind with
      ids := (f.relay.server.tokenCache.lookup rebind.reverseToken).getD []
      pc := .online })
  | .online => some (f.setRebind k { rebind with online := f.relay.online, pc := .loop })
  | .loop =>
    -- the replay of the channel before comes first
    if (f.replays.lookup (.rebind k)).isSome then none
    else
      match rebind.ids with
      | [] => none
      | id :: rest =>
        some ((f.rebindChannel k rebind id).setRebind k
          { rebind with ids := rest })

/-! ## Actions of the relay -/

/-- A link authenticates once, a pump waits for its replay, and channels are
rebound by the goroutines above. -/
def blocks (f : ReturnPath) : RelayAction → Bool
  | .bindChannel .. => true
  | .authenticate link .. => (f.tokens.lookup link).isSome
  | .pump n _ => (f.replays.lookup (.pump n)).isSome
  | _ => false

def tokensAfter (f : ReturnPath) (r' : Relay) : RelayAction → GoMap Link GoString
  | .authenticate link clientID _ _ =>
    match r'.sessions.lookup clientID with
    | some session => f.tokens.insert link session.auth.token
    | none => f.tokens
  | _ => f.tokens

/-- A channel is opened when a pump begins with it for the first time. -/
def openersAfter (f : ReturnPath) (a : RelayAction) : GoMap UUID GoString :=
  match f.relay.moving a with
  | none => f.openers
  | some (_, p, _) =>
    let id := p.request.channelID
    if p.pc = .start ∧ (f.relay.pumpActive.lookup id).isNone ∧ (f.openers.lookup id).isNone then
      ((f.tokens.lookup p.ws).map (f.openers.insert id)).getD f.openers
    else f.openers

def drainTargetsAfter (f : ReturnPath) (r' : Relay) (a : RelayAction) : GoMap ℕ (UUID × Link) :=
  match f.relay.moving a with
  | none => f.drainTargets
  | some (n, p, _) =>
    let id := p.request.channelID
    if p.pc = .publish then
      ((r'.server.channelIDToConnector.lookup id).map fun target =>
        f.drainTargets.insert n (id, target)).getD f.drainTargets
    else f.drainTargets

/-- A pump replays after a bind that succeeds. -/
def replaysAfter (f : ReturnPath) (a : RelayAction) : GoMap Drainer Replay :=
  match f.relay.moving a with
  | none => f.replays
  | some (n, p, label) =>
    if p.pc = .bind ∧ label.delivers then
      ((f.drainTargets.lookup n).map fun target =>
        f.replays.insert (.pump n) ⟨target.1, target.2, .take⟩).getD f.replays
    else f.replays

/-- The channel whose return queue goes with an action. -/
def cleaned (f : ReturnPath) : RelayAction → Option UUID
  | .cleanupConnectorChannel channelID => some channelID
  | .pump n _ =>
    (f.relay.pumps[n]?).bind fun p => if p.pc = .cleanup then some p.request.channelID else none
  | _ => none

def follow (f : ReturnPath) (a : RelayAction) (r' : Relay) : ReturnPath :=
  { f with
    relay := r'
    returnQueues := ((f.cleaned a).map fun id => f.returnQueues.erase id).getD f.returnQueues
    replays := f.replaysAfter a
    drainTargets := f.drainTargetsAfter r' a
    tokens := f.tokensAfter r' a
    openers := f.openersAfter a }

/-! ## The machine -/

def payload (f : ReturnPath) (clientID : UUID) (session : Session)
    (msg : BaseMessage) : Option ReturnPath :=
  (payloadOf msg).bind fun payload =>
    if session.registered && !session.auth.roles.connector &&
        (f.dispatching.lookup clientID).isNone then
      some { f with
        sent := f.sent ++ [payload]
        dispatching := f.dispatching.insert clientID (f.lookUp payload.1 payload.2) }
    else none

def startRebind (f : ReturnPath) (session : Session) : Option ReturnPath :=
  if session.registered && session.auth.roles.connector then
    some { f with
      rebinds := f.rebinds ++ [⟨session.link, session.auth.reverseToken, [], [], .channels⟩] }
  else none

def step (E : RelayEnv) (f : ReturnPath) : ReturnAction → Option ReturnPath
  | .relay a => if f.blocks a then none else (f.relay.step E a).map (f.follow a)
  | .payload clientID msg =>
    (f.relay.sessions.lookup clientID).bind fun session => f.payload clientID session msg
  | .dispatch clientID ok => (f.dispatching.lookup clientID).map (f.dispatch clientID ok)
  | .startRebind clientID => (f.relay.sessions.lookup clientID).bind f.startRebind
  | .rebind k => (f.rebinds[k]?).bind (f.stepRebind k)
  | .replay d ok => (f.replays.lookup d).map (f.stepReplay d ok)
  | .expireConnectorReturn channelID =>
    some { f with
      returnQueues :=
        if (f.connector channelID).isSome then f.returnQueues
        else f.returnQueues.erase channelID }
  | .tick millis => some { f with now := f.now + millis }
  | .ping link => some { f with pinged := (link, f.now) :: f.pinged }
  | .pong link => some { f with lastPong := Function.update f.lastPong link f.now }

/-! ## What a step can do -/

section Steps

variable {f f' : ReturnPath} {E : RelayEnv} {a : RelayAction}

theorem step_relay (h : f.step E (.relay a) = some f') :
    f.blocks a = false ∧ ∃ r', f.relay.step E a = some r' ∧ f' = f.follow a r' := by
  rw [step] at h
  split_ifs at h with hblocks
  obtain ⟨r', hr', rfl⟩ := map_eq_some_iff.mp h
  exact ⟨Bool.eq_false_iff.mpr hblocks, r', hr', rfl⟩

theorem step_payload {clientID : UUID} {msg : BaseMessage}
    (h : f.step E (.payload clientID msg) = some f') :
    ∃ payload, payloadOf msg = some payload ∧ f.dispatching.lookup clientID = none ∧ f' = { f with
        sent := f.sent ++ [payload]
        dispatching := f.dispatching.insert clientID (f.lookUp payload.1 payload.2) } := by
  obtain ⟨session, -, hpayload⟩ := bind_eq_some_iff.mp h
  obtain ⟨payload, hmsg, hsome⟩ := bind_eq_some_iff.mp hpayload
  split_ifs at hsome with hready
  simp only [Bool.and_eq_true, isNone_iff_eq_none] at hready
  exact ⟨payload, hmsg, hready.2, (some.inj hsome).symm⟩

theorem step_startRebind {clientID : UUID} (h : f.step E (.startRebind clientID) = some f') :
    ∃ rebind, f' = { f with rebinds := f.rebinds ++ [rebind] } := by
  obtain ⟨session, -, hstart⟩ := bind_eq_some_iff.mp h
  rw [startRebind] at hstart
  split_ifs at hstart
  exact ⟨_, (some.inj hstart).symm⟩

theorem moving_eq_some {n : ℕ} {p : Pump} {label : PumpLabel}
    (h : f.relay.moving a = some (n, p, label)) :
    a = .pump n label ∧ f.relay.pumps[n]? = some p := by
  cases a with
  | pump m label' =>
    obtain ⟨q, hq, heq⟩ := map_eq_some_iff.mp h
    obtain ⟨rfl, rfl, rfl⟩ := heq
    exact ⟨rfl, hq⟩
  | _ => contradiction

theorem replaysAfter_cases (hfree : f.blocks a = false) : f.replaysAfter a = f.replays ∨
      ∃ n id target, f.drainTargets.lookup n = some (id, target) ∧
        f.replays.lookup (.pump n) = none ∧
        f.replaysAfter a = f.replays.insert (.pump n) ⟨id, target, .take⟩ := by
  rw [replaysAfter]
  cases hmoving : f.relay.moving a with
  | none => exact .inl rfl
  | some moving =>
    obtain ⟨n, p, label⟩ := moving
    obtain ⟨rfl, -⟩ := moving_eq_some hmoving
    dsimp only
    split_ifs
    · cases htarget : f.drainTargets.lookup n with
      | none => exact .inl rfl
      | some target =>
        have hidle : f.replays.lookup (.pump n) = none :=
          isNone_iff_eq_none.mp (isSome_eq_false_iff.mp hfree)
        exact .inr ⟨n, target.1, target.2, htarget, hidle, rfl⟩
    · exact .inl rfl

/-- A goroutine that rebinds reads something, passes a channel by, or takes one
over and starts to replay its queue. -/
theorem stepRebind_cases {k : ℕ} {rebind : Rebind} (h : f.stepRebind k rebind = some f') :
    (∃ rebind', f' = f.setRebind k rebind') ∨
      ∃ id rest cur rebind', rebind.pc = .loop ∧ rebind.ids = id :: rest ∧
        f.replays.lookup (.rebind k) = none ∧ f.connector id = some cur ∧ f.gone rebind cur = true ∧
        f' = { f.setConnector id rebind.ws with
          replays := f.replays.insert (.rebind k) ⟨id, rebind.ws, .take⟩
          rebinds := f.rebinds.set k rebind' } := by
  rw [stepRebind] at h
  cases hpc : rebind.pc with
  | channels | online =>
    rw [hpc] at h
    exact .inl ⟨_, (some.inj h).symm⟩
  | loop =>
    rw [hpc] at h
    split_ifs at h with hbusy
    cases hids : rebind.ids with
    | nil =>
      rw [hids] at h
      contradiction
    | cons id rest =>
      rw [hids] at h
      cases h
      rw [rebindChannel]
      cases hcur : f.connector id with
      | none => exact .inl ⟨_, rfl⟩
      | some cur =>
        dsimp only
        split_ifs with hgone
        · refine .inr ⟨id, rest, cur, _, rfl, rfl, ?_, hcur, hgone, rfl⟩
          exact not_isSome_iff_eq_none.mp hbusy
        · exact .inl ⟨_, rfl⟩

end Steps

end ReturnPath

/-- A relay that nobody has connected to yet. -/
structure Relay.Unused (r : Relay) : Prop extends r.Initial where
  sessions : r.sessions = ∅
  connectors : r.server.channelIDToConnector = ∅

def returnPathOf (r : Relay) (now : ℕ) : ReturnPath where
  relay := r
  returnQueues := ∅
  dispatching := ∅
  rebinds := []
  replays := ∅
  drainTargets := ∅
  now := now
  lastPong := fun _ => 0
  pinged := []
  tokens := ∅
  openers := ∅
  sent := []
  writes := []

/-! ## A channel that is open -/

/-- A relay that keeps the channels of lost links for a while. -/
def graceEnv : RelayEnv := { relayEnv with transportGrace := 60 }

/-- The provider is on link 1, and the connector on link 2 opens a channel. -/
def openActions : List RelayAction :=
  joinProvider 1 (uuidOf 1) ++ joinConnector 2 (uuidOf 2) ++
    [.receive (uuidOf 2) openFrame true] ++ bindActions 0

def openedRun : List ReturnAction := openActions.map .relay ++ [.replay (.pump 0) true]

/-- The link of the connector drops.  A payload of the provider cannot be
written, and is queued.  The connector comes back on link 4, and takes the
channel over. -/
def takenOverRun : List ReturnAction :=
  openedRun ++ [.relay (.disconnect (uuidOf 2)), .payload (uuidOf 1) (sealedPayload 1),
      .dispatch (uuidOf 1) false, .dispatch (uuidOf 1) false] ++
    (joinConnector 4 (uuidOf 4)).map .relay ++
    [.startRebind (uuidOf 4), .rebind 0, .rebind 0, .rebind 0]

end LinkSocks
