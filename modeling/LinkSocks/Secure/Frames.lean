import LinkSocks.Secure.Endpoint

/-!
# A client of generation 2 as a machine

The relay sends any frames in any order.  Between them the sessions of the
client run, local requests open channels, dialed connections start, and
cleanups take channels down.  Data that comes over a direct connection to the
peer is not part of the machine.
-/

namespace LinkSocks

open Go

/-! ## Frames of the relay -/

/-- `secureSession.deliver`.  No result means that the link waits for room. -/
def RecvSession.deliver (s : RecvSession) (data : Bytes) : Option RecvSession :=
  if s.inbound.length < secureInboundQueue then some { s with inbound := s.inbound ++ [data] }
  else if s.closed then some s
  else none

def Endpoint.session (E : Endpoint) (ref : SessionRef) : Option RecvSession :=
  (E ref.channel).sessions[ref.index]?

def Endpoint.setSession (E : Endpoint) (ref : SessionRef) (s : RecvSession) : Endpoint :=
  E.modify ref.channel fun ch => { ch with sessions := ch.sessions.set ref.index s }

/-- `hub.deliver`: a frame for a channel without session is dropped. -/
def Endpoint.hubDeliver (E : Endpoint) (m : SealedMessage) : Option Endpoint :=
  match (E m.channelID).registered with
  | none => some E
  | some n =>
    match E.session ⟨m.channelID, n⟩ with
    | none => some E
    | some s => (s.deliver m.data).map (E.setSession ⟨m.channelID, n⟩)

def ChannelState.plainResponse (fastOpen : Bool) (m : ConnectResponseMessage)
    (ch : ChannelState) : ChannelState :=
  if fastOpen then
    if m.success then { ch with success := some .plain }
    else { ch with cleanups := ch.cleanups + 1 }
  else ch.trySend ⟨.connectResponse m, .plain⟩

/-- `acceptChannel`: a session that is there gets the new link, and a resume
of an unknown channel is answered by a disconnect. -/
def ChannelState.acceptChannel (m : ChannelOpenMessage) (ch : ChannelState) : ChannelState :=
  if ch.registered.isSome || m.resume then ch else ch.newSession false none

/-- The cases of `messageDispatcher` that touch channels.  A `Connect` in the
clear is refused by a provider and ignored by any other client. -/
def Endpoint.frame (env : EndpointEnv) (E : Endpoint) : BaseMessage → Option Endpoint
  | .data m => some (E.modify m.channelID (·.deliverData m .plain))
  | .connectResponse m => some (E.modify m.channelID (·.plainResponse env.fastOpen m))
  | .disconnect m => some (E.modify m.channelID ChannelState.peerDisconnect)
  | .channelOpen m => some (E.modify m.channelID (·.acceptChannel m))
  | .sealed m => E.hubDeliver m
  | .connectorResponse m => some (E.modify m.channelID (·.trySend ⟨.connectorResponse m, .plain⟩))
  | _ => some E

/-! ## The loop of a session -/

/-- An initiator reads one handshake frame, a responder two. -/
def RecvSession.handshakeFrames (s : RecvSession) : ℕ := if s.initiator then 1 else 2

def RecvSession.failed (s : RecvSession) : RecvSession := { s with closed := true, ended := true }

/-- The message in a frame of an established session. -/
def EndpointEnv.opened (env : EndpointEnv) (ref : SessionRef) (nonce : ℕ)
    (data : Bytes) : Option BaseMessage :=
  match env.decrypt ref nonce data with
  | none => none
  | some plain =>
    match (parseMessageWithVersion env.w env.lib plain).1 with
    | .ok msg => some msg
    | .error _ => none

def Endpoint.runSession (env : EndpointEnv) (E : Endpoint) (ref : SessionRef) : Option Endpoint :=
  match E.session ref with
  | none => none
  | some s =>
    if s.ended then none
    else if !s.established then
      if s.reads = s.handshakeFrames then some (E.setSession ref { s with established := true })
      else
        match s.inbound with
        | [] => none
        | data :: rest =>
          if env.handshakeRead ref s.reads data then
            some (E.setSession ref
              { s with inbound := rest, reads := s.reads + 1 })
          else some (E.setSession ref s.failed)
    else
      match s.inbound with
      | [] =>
        if s.closed then some (E.setSession ref { s with ended := true })
        else none
      | data :: rest =>
        match env.opened ref s.nonce data with
        | none => some (E.setSession ref s.failed)
        | some msg =>
          (E.setSession ref
            { s with inbound := rest, nonce := s.nonce + 1 }).dispatch env ref s msg

/-- A handshake that times out, cannot write, or sees the session closed. -/
def Endpoint.abortHandshake (E : Endpoint) (ref : SessionRef) : Option Endpoint :=
  match E.session ref with
  | none => none
  | some s =>
    if s.ended || s.established then none
    else some (E.setSession ref s.failed)

/-- The loop of a closed session may return from the second `select` of
`receive` although a frame has come since the first. -/
def Endpoint.quitReceive (E : Endpoint) (ref : SessionRef) : Option Endpoint :=
  match E.session ref with
  | none => none
  | some s =>
    if s.ended || !s.established || !s.closed then none
    else some (E.setSession ref { s with ended := true })

/-! ## What the client does by itself -/

/-- The maps that `doCleanup` takes a channel out of, one after another. -/
inductive CleanupPart where
  | queue
  | session
  | logical
  | success

/-- Things that happen to one channel, apart from frames and sessions. -/
inductive ChannelEvent where
  /-- A local request stores its queue. -/
  | storeQueue
  /-- `openChannel` registers its session. -/
  | openSession
  | closeSession (n : ℕ)
  /-- A loop that has returned removes its session from the hub. -/
  | removeSession (n : ℕ)
  | registerLogicalChannel (writer : SessionRef)
  /-- A forwarding loop makes its queue, unless there is one. -/
  | ensureQueue
  | receive
  /-- `openChannel` takes a message and puts it back. -/
  | putBack
  | handleNetworkConnection (index : ℕ)
  | disconnectChannel
  | cleanup (part : CleanupPart)
  /-- The timer of a fast-open request takes the success record. -/
  | fastOpenTimeout
  | expireOrphanData

/-- Whether the loop of a session has returned. -/
def ChannelState.loopEnded (ch : ChannelState) (n : ℕ) : Bool :=
  match ch.sessions[n]? with
  | some s => s.ended
  | none => false

/-- `remove`: a newer session that took the place stays. -/
def ChannelState.removeSession (ch : ChannelState) (n : ℕ) : ChannelState :=
  if ch.loopEnded n ∧ ch.registered = some n then { ch with registered := none }
  else ch

def ChannelState.putBack (ch : ChannelState) : ChannelState :=
  match ch.queue with
  | some (item :: items) => { ch with queue := some (items ++ [item]) }
  | _ => ch

/-- Parts go one by one, so that other goroutines come in between; other
callers than `doCleanup` take the same parts down. -/
def ChannelState.cleanup (ch : ChannelState) : CleanupPart → ChannelState
  | .queue => { ch with queue := none }
  | .session => ch.hubClose
  | .logical => { ch with logical := none }
  | .success => { ch with success := none }

def ChannelState.fastOpenTimeout (ch : ChannelState) : ChannelState :=
  match ch.success with
  | some _ => { ch with success := none }
  | none => { ch with cleanups := ch.cleanups + 1 }

def ChannelState.happen (ch : ChannelState) : ChannelEvent → ChannelState
  | .storeQueue => { ch with queue := some [] }.flushOrphanData
  | .openSession => ch.newSession true none
  | .closeSession n => ch.closeSession n
  | .removeSession n => ch.removeSession n
  | .registerLogicalChannel writer => { ch with logical := some ⟨0, writer⟩ }
  | .ensureQueue => { ch with queue := some (ch.queue.getD []) }
  | .receive => { ch with queue := ch.queue.map List.tail }
  | .putBack => ch.putBack
  | .handleNetworkConnection index =>
    match ch.dials[index]? with
    | some started => ch.handleNetworkConnection started
    | none => ch
  | .disconnectChannel => { ch with cleanups := ch.cleanups + 1 }
  | .cleanup part => ch.cleanup part
  | .fastOpenTimeout => ch.fastOpenTimeout
  | .expireOrphanData => { ch with orphans := none }

inductive EndpointAction where
  | frame (m : BaseMessage)
  | runSession (ref : SessionRef)
  | abortHandshake (ref : SessionRef)
  | quitReceive (ref : SessionRef)
  | channel (id : UUID) (event : ChannelEvent)

def Endpoint.step (env : EndpointEnv) (E : Endpoint) : EndpointAction → Option Endpoint
  | .frame m => E.frame env m
  | .runSession ref => E.runSession env ref
  | .abortHandshake ref => E.abortHandshake ref
  | .quitReceive ref => E.quitReceive ref
  | .channel id event => some (E.modify id (·.happen event))

end LinkSocks
