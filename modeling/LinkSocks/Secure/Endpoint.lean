import LinkSocks.Relay.Server

/-!
# An endpoint of secure channels

A client, or the relay where it dials itself, keeps for each channel a message
queue, a buffer for early data, the logical channel and the secure sessions.
Messages reach a channel in the clear from the link, and decrypted from a
session.  The maps of the source that are keyed by channel are one map here,
from a channel to all that is kept for it.
-/

namespace LinkSocks

open Go

/-- A session object: its channel, and which of the channel's sessions. -/
structure SessionRef where
  channel : UUID
  index : ℕ
  deriving DecidableEq

/-- History: how a message came in. -/
inductive Origin where
  | plain
  | sealed (session : SessionRef)
  deriving DecidableEq

structure Item where
  msg : BaseMessage
  origin : Origin

structure RecvSession where
  initiator : Bool
  /-- Vets the request on a relay that dials itself. -/
  accessCheck : Option (ConnectMessage → Except GoString Unit)
  inbound : List Bytes
  /-- Handshake frames read so far. -/
  reads : ℕ
  established : Bool
  /-- Frames decrypted so far. -/
  nonce : ℕ
  closed : Bool
  ended : Bool

/-- The receiving side of a logical channel, with the session that writes for
it. -/
structure ChannelRecord where
  received : UInt64
  writer : SessionRef
  deriving DecidableEq

structure Dial where
  writer : SessionRef
  request : ConnectMessage

/-- All that an endpoint keeps for one channel.  `cleanups` counts its entries
in the cleanup queue. -/
structure ChannelState where
  queue : Option (List Item)
  orphans : Option (List Item)
  logical : Option ChannelRecord
  sessions : List RecvSession
  registered : Option ℕ
  success : Option Origin
  cleanups : ℕ
  dials : List Dial
  responses : List (SessionRef × ConnectResponseMessage)

def emptyChannel : ChannelState := ⟨none, none, none, [], none, none, 0, [], []⟩

abbrev Endpoint := UUID → ChannelState

/-- Role and settings of an endpoint.  The Noise library decides which
handshake frames are accepted and what a frame decrypts to. -/
structure EndpointEnv where
  w : IntSize
  lib : Lib
  isClient : Bool
  fastOpen : Bool
  handshakeRead : SessionRef → ℕ → Bytes → Bool
  decrypt : SessionRef → ℕ → Bytes → Option Bytes

/-- An endpoint whose cipher lets everything through unchanged. -/
def plainEnv (isClient : Bool) : EndpointEnv where
  w := .bits64
  lib := plainLib
  isClient := isClient
  fastOpen := false
  handshakeRead := fun _ _ _ => true
  decrypt := fun _ _ data => some data

def messageQueueSize : ℕ := 1000

def secureInboundQueue : ℕ := 512

/-- Change what is kept for one channel. -/
def Endpoint.modify (E : Endpoint) (id : UUID) (f : ChannelState → ChannelState) : Endpoint :=
  Function.update E id (f (E id))

@[simp] theorem Endpoint.modify_self (E : Endpoint) (id : UUID)
    (f : ChannelState → ChannelState) : E.modify id f id = f (E id) := Function.update_self ..

@[simp] theorem Endpoint.modify_of_ne (E : Endpoint) {id j : UUID}
    (f : ChannelState → ChannelState) (h : j ≠ id) : E.modify id f j = E j :=
  Function.update_of_ne h ..

/-! ## Operations on one channel -/

def ChannelState.trySend (ch : ChannelState) (item : Item) : ChannelState :=
  match ch.queue with
  | some q =>
    if q.length < messageQueueSize then { ch with queue := some (q ++ [item]) }
    else ch
  | none => ch

/-- `acceptData` and, when it accepts, the record after it. -/
def ChannelRecord.acceptData (r : ChannelRecord) (sequence : UInt64) : Option ChannelRecord :=
  if sequence = 0 then some r
  else if sequence ≤ r.received then none
  else if sequence ≠ r.received + 1 then none
  else some { r with received := sequence }

def ChannelRecord.rejectData (r : ChannelRecord) (sequence : UInt64) : ChannelRecord :=
  if sequence ≠ 0 ∧ r.received = sequence then { r with received := sequence - 1 }
  else r

def ChannelState.bufferOrphanData (ch : ChannelState) (item : Item) : ChannelState :=
  let buffered := ch.orphans.getD []
  { ch with orphans :=
      if buffered.length < orphanDataQueueSize then some (buffered ++ [item])
      else some buffered }

/-- Buffered data moves to the queue, as far as there is room. -/
def ChannelState.flushOrphanData (ch : ChannelState) : ChannelState :=
  match ch.orphans, ch.queue with
  | some buffered, some q =>
    { ch with
      orphans := none
      queue := some (q ++ buffered.take (messageQueueSize - q.length)) }
  | _, _ => ch

/-- `deliverDataMessage`, for data of this channel. -/
def ChannelState.deliverData (ch : ChannelState) (m : DataMessage)
    (origin : Origin) : ChannelState :=
  let item : Item := ⟨.data m, origin⟩
  match ch.logical with
  | none =>
    match ch.queue with
    | some _ => ch.trySend item
    | none => ch.bufferOrphanData item
  | some record =>
    match record.acceptData m.sequence with
    | none => ch
    | some accepted =>
      match ch.queue with
      | some q =>
        if q.length < messageQueueSize then { ch.trySend item with logical := some accepted }
        else { ch with logical := some (accepted.rejectData m.sequence) }
      | none => { ch with logical := some (accepted.rejectData m.sequence) }

def ChannelState.closeSession (ch : ChannelState) (n : ℕ) : ChannelState :=
  { ch with sessions := ch.sessions.modify n fun s => { s with closed := true } }

def ChannelState.hubClose (ch : ChannelState) : ChannelState :=
  match ch.registered with
  | none => ch
  | some n => { ch.closeSession n with registered := none }

def ChannelState.peerDisconnect (ch : ChannelState) : ChannelState :=
  { ch.hubClose with cleanups := ch.cleanups + 1 }

/-- `handleSecureConnect`: early data goes to a queue that is new. -/
def ChannelState.secureConnect (ch : ChannelState) (dial : Dial) : ChannelState :=
  let ch :=
    match ch.queue with
    | some _ => ch
    | none => { ch with queue := some [] }.flushOrphanData
  { ch with dials := ch.dials ++ [dial] }

/-- The same on a relay that dials itself, which keeps early data nowhere. -/
def ChannelState.relayConnect (ch : ChannelState) (dial : Dial) : ChannelState :=
  { ch with
    queue := some (ch.queue.getD [])
    dials := ch.dials ++ [dial] }

def ChannelState.newSession (ch : ChannelState) (initiator : Bool)
    (accessCheck : Option (ConnectMessage → Except GoString Unit)) : ChannelState :=
  { ch with
    sessions := ch.sessions ++ [⟨initiator, accessCheck, [], 0, false, 0, false, false⟩]
    registered := some ch.sessions.length }

/-! ## Dispatch of a decrypted message -/

/-- A message for the initiator's pump.  It waits for room, unless the session
is over. -/
def Endpoint.deliverToQueue (E : Endpoint) (ref : SessionRef)
    (s : RecvSession) (msg : BaseMessage) : Option Endpoint :=
  match (E ref.channel).queue with
  | none => some E
  | some q =>
    if q.length < messageQueueSize then some (E.modify ref.channel (·.trySend ⟨msg, .sealed ref⟩))
    else if s.closed then some E
    else none

/-- Data for the pump of a relay that dials itself, likewise. -/
def Endpoint.deliverToRelay (E : Endpoint) (ref : SessionRef)
    (s : RecvSession) (m : DataMessage) : Option Endpoint :=
  match (E m.channelID).queue with
  | none => some E
  | some q =>
    if q.length < messageQueueSize then
      some (E.modify m.channelID (·.trySend ⟨.data m, .sealed ref⟩))
    else if s.closed then some E
    else none

/-- The refusal of a request by the rules of the relay. -/
def RecvSession.refusal (s : RecvSession) (m : ConnectMessage) : Option GoString :=
  match s.accessCheck with
  | none => none
  | some check =>
    match check m with
    | .ok () => none
    | .error text => some text

/-- `secureSession.dispatch`: what a responder does is decided by the channel
named inside the message.  No result means that the session is blocked. -/
def Endpoint.dispatch (env : EndpointEnv) (E : Endpoint) (ref : SessionRef)
    (s : RecvSession) : BaseMessage → Option Endpoint
  | .connect m =>
    if s.initiator then some E
    else if env.isClient then some (E.modify m.channelID (·.secureConnect ⟨ref, m⟩))
    else
      match s.refusal m with
      | some text =>
        some (E.modify m.channelID fun ch =>
          { ch with responses := ch.responses ++ [(ref, ⟨false, text, m.channelID⟩)] })
      | none => some (E.modify m.channelID (·.relayConnect ⟨ref, m⟩))
  | .connectResponse m =>
    if s.initiator then E.deliverToQueue ref s (.connectResponse m)
    else some E
  | .data m =>
    if s.initiator then E.deliverToQueue ref s (.data m)
    else if env.isClient then some (E.modify m.channelID (·.deliverData m (.sealed ref)))
    else E.deliverToRelay ref s m
  | .disconnect m =>
    if s.initiator then E.deliverToQueue ref s (.disconnect m)
    else if env.isClient then some (E.modify m.channelID ChannelState.peerDisconnect)
    else some E
  | _ => some E

/-- The start of `HandleNetworkConnection`: a resuming request switches the
writer of its channel, any other registers the channel if it is new. -/
def ChannelState.handleNetworkConnection (ch : ChannelState) (dial : Dial) : ChannelState :=
  if dial.request.resume then
    { ch with logical := ch.logical.map fun r => { r with writer := dial.writer } }
  else { ch with logical := some (ch.logical.getD ⟨0, dial.writer⟩) }

end LinkSocks
