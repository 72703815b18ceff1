import LinkSocks.Channel.Agreement
import LinkSocks.Go.Maps
import LinkSocks.Go.Tables

/-!
# Direct-only mode

A client in direct-only mode looks at its direct connection once, when a local request comes
in.  The channel that it opens then is like any other: its writer opens a direct stream, and
behind it stands the relay writer.  The channel falls back to it when a write fails, when
the read loop of the stream fails and when the peer migrates the channel, and a new relay
link resumes every channel that is not on the direct path.  As long as none of this happens,
nothing of a local channel is handed to a relay link.  A call is split at every critical
section and at every write.  What is handed to a relay link is logged even if the write
fails.
-/

namespace LinkSocks

open Go Option Function

/-! ## State -/

/-- What `newClientRelayWriter` returns; the writers of direct streams are the
numbers above. -/
def relayWriter : Writer := 0

/-- A channel object with what its callers share. -/
structure ChannelObject where
  state : LogicalChannelState
  writeMu : Option ℕ
  /-- `suspendSince` is set. -/
  suspended : Bool
  /-- The handler of the request has begun to forward data. -/
  forwarding : Bool

/-- A running `WriteMessage` of a channel, with the data that
`writeWithTransportGrace` tries again. -/
structure ChannelWrite where
  channel : ℕ
  msg : BaseMessage
  migration : Bool
  retry : Option DataMessage

/-- What a goroutine goes on with when a writer returns. -/
inductive AfterWrite where
  | nothing
  /-- The next channel of `resumeLogicalChannels`. -/
  | resumeNext
  | write (call : ChannelWrite)
  /-- `WriteMessage` waits for `switchToFallback`. -/
  | switchToFallback (call : ChannelWrite)
  | writeAgain (call : ChannelWrite)
  /-- The ChannelMigrate of `switchToFallback`. -/
  | migrate (j : ℕ) (k : AfterWrite)
  /-- The loop of `replayPending`. -/
  | replay (w : Writer) (rest : List DataMessage) (k : AfterWrite)

/-- Where a goroutine is.  `j` is the channel object it works on. -/
inductive OnlyPC where
  | idle
  /-- `handleSocksRequest`, with the data plane it has read. -/
  | awaitReady (plane : Bool)
  | handleRequest (w : Writer)
  | forward (id : UUID)
  /-- `WriteMessage` of a channel, before `writeMu` and before `mu`. -/
  | lock (j : ℕ) (msg : BaseMessage) (retry : Option DataMessage)
  | assign (j : ℕ) (msg : BaseMessage) (retry : Option DataMessage)
  /-- `WriteMessage` of a writer. -/
  | send (w : Writer) (msg : BaseMessage) (k : AfterWrite)
  /-- The writer of a stream with a Connect, which has `opened` the stream. -/
  | logicalChannel (w : Writer) (request : ConnectMessage) (opened : Bool)
      (k : AfterWrite)
  | switchToDirect (w : Writer) (j : ℕ) (request : ConnectMessage)
      (opened : Bool) (k : AfterWrite)
  | bind (w : Writer) (j : ℕ) (request : ConnectMessage) (opened : Bool)
      (k : AfterWrite)
  | stream (w : Writer) (msg : BaseMessage) (k : AfterWrite)
  | switchToFallback (j : ℕ) (reason : GoString) (k : AfterWrite)
  | replayPending (j : ℕ) (k : AfterWrite)
  | pendingMessages (j : ℕ) (w : Writer) (k : AfterWrite)
  | currentWriter (call : ChannelWrite)
  /-- `writeWithTransportGrace` after a failed attempt. -/
  | suspend (j : ℕ) (data : DataMessage)
  | wait (j : ℕ) (data : DataMessage)
  /-- `handleDirectChannelFailure`. -/
  | path (j : ℕ) (reason : GoString)
  | switchToRelay (j : ℕ)
  | switchRelay (j : ℕ) (w : Writer) (migration : Bool)
  /-- `resumeRelayChannels` and `resumeLogicalChannels`. -/
  | resume (target : ChannelPath)
  | resumePath (target : ChannelPath) (j : ℕ)
  | resumeRelay (j : ℕ)
  | resumeDirect (j : ℕ)

inductive OnlyLabel where
  | next
  /-- `readyCh` is closed; whether the direct connection is usable and active. -/
  | ready (usable : Bool)
  | tick
  | timeout
  /-- What was read from the local connection, under a new identifier. -/
  | request (request : ConnectMessage)
  /-- The outcome of opening a stream or of writing to it. -/
  | written (ok : Bool)
  /-- Whether there is a relay link, and the outcomes of a Connect that comes
  first and of the write itself. -/
  | relay (link rebound ok : Bool)
  /-- The next channel of a loop over all of them. -/
  | visit (id : UUID)
  /-- The grace of the transport. -/
  | grace (within : Bool)
  | giveUp

/-- The client; only local requests open channels. -/
structure DirectOnlyClient where
  directRefuseSocks : Bool
  /-- `directQUICPlane` is not nil. -/
  directQUICPlane : Bool
  directRemoteProtocolVersion : UInt8
  directRemoteSessionID : UUID
  channels : List ChannelObject
  logicalChannels : GoMap UUID ℕ
  /-- How many writers of direct streams there are, and which have opened
  theirs. -/
  writers : ℕ
  streams : Writer → Bool
  threads : ℕ → OnlyPC
  /-- History: the messages handed to relay links. -/
  relayed : List BaseMessage

namespace DirectOnlyClient

def setThread (s : DirectOnlyClient) (i : ℕ) (pc : OnlyPC) : DirectOnlyClient :=
  { s with threads := Function.update s.threads i pc }

def put (s : DirectOnlyClient) (j : ℕ) (c : ChannelObject) : DirectOnlyClient :=
  { s with channels := s.channels.set j c }

def store (s : DirectOnlyClient) (id : UUID) (state : LogicalChannelState) : DirectOnlyClient :=
  { s with
    channels := s.channels ++ [⟨state, none, false, false⟩]
    logicalChannels := s.logicalChannels.insert id s.channels.length }

def channel (s : DirectOnlyClient) (id : UUID) : Option (ℕ × ChannelObject) :=
  (s.logicalChannels.lookup id).bind fun j => (s.channels[j]?).map ((j, ·))

def log (s : DirectOnlyClient) (msg : BaseMessage) : DirectOnlyClient :=
  { s with relayed := s.relayed ++ [msg] }

/-! ## Writers -/

/-- A suspended channel whose data is written has to be bound again first. -/
def rebinds (s : DirectOnlyClient) : BaseMessage → Option (ℕ × ChannelObject)
  | .data m => (s.channel m.channelID).filter fun c => c.2.state.canResume && c.2.suspended
  | _ => none

/-- `clientRelayWriter.WriteMessage` without a secure hub: direct mode is off in
generation 2. -/
def relayWrite (s : DirectOnlyClient) (msg : BaseMessage)
    (link rebound ok : Bool) : DirectOnlyClient × Bool :=
  if !link then (s, false)
  else
    match s.rebinds msg with
    | none => (s.log msg, ok)
    | some (j, c) =>
      let s := s.log (.connect { c.state.request with resume := true })
      if !rebound then (s, false)
      else if !ok then (s.log msg, false)
      else ((s.log msg).put j { c with suspended := false }, true)

/-- `getOrOpenChannel` and, for other messages than a Connect, the write to the
stream: `ok` is the outcome of opening the stream or of writing to it. -/
def accepts (s : DirectOnlyClient) (w : Writer) (msg : BaseMessage) (ok : Bool) : Bool :=
  match msg with
  | .connect request => decide (request.channelID ≠ UUID.nil) && (s.streams w || ok)
  | _ => s.streams w && ok

/-- The relay is told about the peer of a new channel. -/
def bindsPeer (s : DirectOnlyClient) (request : ConnectMessage) : Bool :=
  !request.resume && protocolSupportsMigration s.directRemoteProtocolVersion

/-! ## Returning from a write -/

inductive WriteResult where
  | ok
  | transportDown
  | error

def finishedPC (call : ChannelWrite) : WriteResult → OnlyPC
  | .ok =>
    match call.msg with
    | .connect request => .forward request.channelID
    | _ => .idle
  | .transportDown =>
    match call.retry with
    | some data => .suspend call.channel data
    | none => .idle
  | .error => .idle

/-- `WriteMessage` returns: `writeMu` is released, and with a grace a write that
went through ends the suspension. -/
def finish (s : DirectOnlyClient) (i : ℕ) (call : ChannelWrite)
    (result : WriteResult) : DirectOnlyClient :=
  match s.channels[call.channel]? with
  | none => s.setThread i (finishedPC call result)
  | some c =>
    (s.put call.channel { c with
      writeMu := none
      suspended :=
        match call.retry, result with
        | some _, .ok => false
        | _, _ => c.suspended }).setThread i (finishedPC call result)

def writeFailed (s : DirectOnlyClient) (i : ℕ) (call : ChannelWrite) : DirectOnlyClient :=
  match call.msg with
  | .channelMigrate _ => s.finish i call .error
  | _ => s.setThread i (.switchToFallback call.channel (ascii "write failure")
      (.switchToFallback call))

/-- The switch has succeeded: numbered data was replayed with it. -/
def switched (s : DirectOnlyClient) (i : ℕ) (call : ChannelWrite) : DirectOnlyClient :=
  match call.msg, call.migration with
  | .data _, true => s.finish i call .ok
  | _, _ => s.setThread i (.currentWriter call)

/-- A write, a switch to the fallback or a replay returns to its caller. -/
def returned (s : DirectOnlyClient) (i : ℕ) (ok : Bool) : AfterWrite → DirectOnlyClient
  | .nothing => s.setThread i .idle
  | .resumeNext => s.setThread i (.resume .direct)
  | .write call => if ok then s.finish i call .ok else s.writeFailed i call
  | .switchToFallback call => if ok then s.switched i call else s.finish i call .transportDown
  | .writeAgain call => s.finish i call (if ok then .ok else .transportDown)
  | .migrate j k => if ok then s.setThread i (.replayPending j k) else s.returned i false k
  | .replay w (m :: rest) k =>
    if ok then s.setThread i (.send w (.data m) (.replay w rest k))
    else s.returned i false k
  | .replay _ [] k => s.returned i ok k

/-! ## Steps of a goroutine -/

/-- A request that cannot be served directly: all later ones are refused. -/
def refuse (s : DirectOnlyClient) (i : ℕ) : DirectOnlyClient :=
  { s.setThread i .idle with directRefuseSocks := true }

def dialWriter (s : DirectOnlyClient) : DirectOnlyClient := { s with writers := s.writers + 1 }

/-- The handler of a local request registers its channel. -/
def localRequest (s : DirectOnlyClient) (i : ℕ) (w : Writer)
    (request : ConnectMessage) : DirectOnlyClient :=
  let channel := registerLogicalChannel request.channelID w (some relayWriter) (some w) .relay
  (s.store request.channelID (channel.setRequest request).markResumeOwner).setThread
    i (.lock s.channels.length (.connect request) none)

/-- The channel that a writer registers when there is none for its Connect. -/
def streamRequest (s : DirectOnlyClient) (w : Writer)
    (request : ConnectMessage) : DirectOnlyClient :=
  let channel := registerLogicalChannel request.channelID w (some relayWriter)
    (some relayWriter) .direct
  s.store request.channelID
    ((channel.setRequest request).markResumeOwner.enableMigration
      (protocolSupportsMigration s.directRemoteProtocolVersion))

/-- What goes to the writer, and the channel after it was numbered. -/
def assigned (c : LogicalChannelState) : BaseMessage → LogicalChannelState × BaseMessage
  | .data data => ((c.assign data).1, .data (c.assign data).2)
  | msg => (c, msg)

/-- The critical section of `WriteMessage`. -/
def assign (s : DirectOnlyClient) (i j : ℕ) (c : ChannelObject)
    (msg : BaseMessage) (retry : Option DataMessage) : DirectOnlyClient :=
  if c.state.closed then s.finish i ⟨j, msg, false, retry⟩ .error
  else
    match c.state.writer with
    | none => s.finish i ⟨j, msg, false, retry⟩ .error
    | some w =>
      (s.put j { c with state := (assigned c.state msg).1 }).setThread i
        (.send w (assigned c.state msg).2
          (.write ⟨j, (assigned c.state msg).2, c.state.migration, retry⟩))

/-- `WriteMessage` of the writer of a stream. -/
def streamWrite (s : DirectOnlyClient) (i : ℕ) (w : Writer) (msg : BaseMessage)
    (k : AfterWrite) (ok : Bool) : DirectOnlyClient :=
  if s.accepts w msg ok then
    match msg with
    | .connect request =>
      { s with streams := Function.update s.streams w true }.setThread i
        (.logicalChannel w request (!s.streams w) k)
    | _ => s.returned i true k
  else s.returned i false k

/-- The relay knows the peer.  Opening the stream has sent the Connect; what the
peer has not acknowledged is sent again on a resumed channel. -/
def bound (s : DirectOnlyClient) (i : ℕ) (w : Writer) (j : ℕ)
    (request : ConnectMessage) (opened : Bool) (k : AfterWrite) : DirectOnlyClient :=
  if !opened then s.setThread i (.stream w (.connect request) k)
  else if request.resume then s.setThread i (.replayPending j k)
  else s.returned i true k

def bind (s : DirectOnlyClient) (i : ℕ) (w : Writer) (j : ℕ)
    (request : ConnectMessage) (opened : Bool) (k : AfterWrite)
    (link rebound ok : Bool) : DirectOnlyClient :=
  if s.bindsPeer request then
    let write := s.relayWrite (.channelBind
      ⟨request.channelID, request.protocol, s.directRemoteSessionID⟩) link rebound ok
    if write.2 then write.1.bound i w j request opened k
    else write.1.returned i false k
  else s.bound i w j request opened k

def switchToFallback (s : DirectOnlyClient) (i j : ℕ) (c : ChannelObject)
    (reason : GoString) (k : AfterWrite) : DirectOnlyClient :=
  match c.state.switchToFallback with
  | none => s.returned i false k
  | some (state, w) =>
    let s := s.put j { c with state := state }
    if state.migration then
      s.setThread i (.send w (.channelMigrate ⟨state.id, reason⟩) (.migrate j k))
    else s.returned i true k

/-- One step of goroutine `i`.  A second attempt without a writer panics and is
no step.  The answers to ChannelMigrate are left out: they carry no payload. -/
def stepThread (s : DirectOnlyClient) (i : ℕ) : OnlyPC → OnlyLabel → Option DirectOnlyClient
  | .awaitReady plane, .ready usable =>
    if plane && usable then some (s.dialWriter.setThread i (.handleRequest (s.writers + 1)))
    else some (s.refuse i)
  | .awaitReady _, .tick => if s.directRefuseSocks then some (s.setThread i .idle) else none
  | .awaitReady _, .timeout => some (s.refuse i)
  | .handleRequest w, .request request => some (s.localRequest i w { request with resume := false })
  | .handleRequest _, .giveUp => some (s.setThread i .idle)
  | .forward id, .next =>
    -- A channel that was cleaned up is replaced by one that writes to it.
    match s.channel id with
    | none => some (s.setThread i .idle)
    | some (j, c) => some ((s.put j { c with forwarding := true }).setThread i .idle)
  | .forward _, .giveUp => some (s.setThread i .idle)
  | .lock j msg retry, .next =>
    match s.channels[j]? with
    | none => none
    | some c =>
      if c.writeMu = none then
        some ((s.put j { c with writeMu := some i }).setThread i
          (.assign j msg retry))
      else none
  | .assign j msg retry, .next => (s.channels[j]?).map fun c => s.assign i j c msg retry
  | .send w msg k, .relay link rebound ok =>
    if w = relayWriter then
      some ((s.relayWrite msg link rebound ok).1.returned i (s.relayWrite msg link rebound ok).2 k)
    else none
  | .send w msg k, .written ok =>
    if w = relayWriter then none else some (s.streamWrite i w msg k ok)
  | .logicalChannel w request opened k, .next =>
    match s.logicalChannels.lookup request.channelID with
    | none =>
      some ((s.streamRequest w request).setThread i (.bind w s.channels.length request opened k))
    | some j => some (s.setThread i (.switchToDirect w j request opened k))
  | .switchToDirect w j request opened k, .next =>
    match s.channels[j]? with
    | none => none
    | some c =>
      match c.state.switch w .direct with
      | none => some (s.returned i false k)
      | some state =>
        some ((s.put j { c with state := state }).setThread i
          (.bind w j request opened k))
  | .bind w j request opened k, .relay link rebound ok =>
    some (s.bind i w j request opened k link rebound ok)
  | .stream _ _ k, .written ok => some (s.returned i ok k)
  | .switchToFallback j reason k, .next =>
    (s.channels[j]?).map fun c => s.switchToFallback i j c reason k
  | .replayPending j k, .next =>
    match s.channels[j]? with
    | none => none
    | some c =>
      match c.state.writer with
      | none => some (s.returned i false k)
      | some w => some (s.setThread i (.pendingMessages j w k))
  | .pendingMessages j w k, .next =>
    (s.channels[j]?).map fun c => s.returned i true (.replay w c.state.pendingMessages k)
  | .currentWriter call, .next =>
    ((s.channels[call.channel]?).bind (·.state.writer)).map fun w =>
      s.setThread i (.send w call.msg (.writeAgain call))
  | .suspend j data, .grace within =>
    (s.channels[j]?).map fun c =>
      (s.put j { c with suspended := true }).setThread i (if within then .wait j data else .idle)
  | .suspend _ _, .giveUp => some (s.setThread i .idle)
  | .wait j data, .next => some (s.setThread i (.lock j (.data data) (some data)))
  | .wait j _, .giveUp =>
    (s.channels[j]?).map fun c => (s.put j { c with suspended := false }).setThread i .idle
  | .path j reason, .next =>
    (s.channels[j]?).map fun c =>
      s.setThread i (if c.state.path = .relay then .idle
        else .switchToFallback j reason .nothing)
  | .switchToRelay j, .next =>
    (s.channels[j]?).map fun c =>
      s.setThread i (match c.state.fallback with
        | none => .idle
        | some w => .switchRelay j w c.state.migration)
  | .switchRelay j w migration, .next =>
    match s.channels[j]? with
    | none => none
    | some c =>
      match c.state.switch w .relay with
      | none => some (s.setThread i .idle)
      | some state =>
        some ((s.put j { c with state := state }).setThread i
          (if migration then .replayPending j .nothing else .idle))
  | .resume target, .visit id =>
    (s.channel id).map fun c =>
      s.setThread i (if c.2.state.canResume then .resumePath target c.1
        else .resume target)
  | .resume _, .giveUp => some (s.setThread i .idle)
  | .resumePath target j, .next =>
    (s.channels[j]?).map fun c =>
      s.setThread i (if c.state.path = .direct then .resume target
        else match target with
          | .relay => .resumeRelay j
          | .direct => .resumeDirect j)
  | .resumeRelay j, .next =>
    (s.channels[j]?).map fun c =>
      (s.log (.connect { c.state.request with resume := true })).setThread i (.resume .relay)
  | .resumeDirect j, .next =>
    (s.channels[j]?).map fun c =>
      (s.dialWriter.put j
          { c with state := c.state.enableMigration true }).setThread i
        (.send (s.writers + 1) (.connect { c.state.request with resume := true })
          .resumeNext)
  | _, _ => none

def start (s : DirectOnlyClient) (i : ℕ) (pc : OnlyPC) : Option DirectOnlyClient :=
  match s.threads i with
  | .idle => some (s.setThread i pc)
  | _ => none

end DirectOnlyClient

/-! ## The machine -/

inductive OnlyAction where
  /-- A local connection was accepted. -/
  | handleSocksRequest (i : ℕ)
  /-- A goroutine that forwards for channel `j` writes a message. -/
  | writeMessage (i j : ℕ) (msg : BaseMessage)
  | writeWithTransportGrace (i j : ℕ) (data : DataMessage)
  | step (i : ℕ) (label : OnlyLabel)
  /-- The read loop of a stream has failed. -/
  | readFailed (i : ℕ) (id : UUID) (reason : GoString)
  /-- Messages of the peer, from a relay link or a stream. -/
  | channelMigrate (i : ℕ) (id : UUID)
  | channelMigrateAck (i : ℕ) (m : ChannelMigrateAckMessage)
  | channelDataAck (m : ChannelDataAckMessage)
  /-- A relay link was authenticated. -/
  | relayReady (i : ℕ)
  /-- A data plane was made, or closed. -/
  | planeReady (i : ℕ)
  | planeClosed
  /-- What the direct agent reports. -/
  | refuseSocks (refuse : Bool)
  | directPeer (version : UInt8) (session : UUID)
  | doCleanup (id : UUID)

namespace DirectOnlyClient

/-- A goroutine that forwards for a channel calls its `WriteMessage`. -/
def startWrite (s : DirectOnlyClient) (i j : ℕ) (msg : BaseMessage)
    (retry : Option DataMessage) : Option DirectOnlyClient :=
  match s.channels[j]? with
  | none => none
  | some c => if c.forwarding then s.start i (.lock j msg retry) else none

def step (s : DirectOnlyClient) : OnlyAction → Option DirectOnlyClient
  | .handleSocksRequest i =>
    if s.directRefuseSocks then some s else s.start i (.awaitReady s.directQUICPlane)
  | .writeMessage i j msg => s.startWrite i j msg none
  | .writeWithTransportGrace i j data => s.startWrite i j (.data data) (some data)
  | .step i label => s.stepThread i (s.threads i) label
  | .readFailed i id reason =>
    match s.channel id with
    | none => some s
    | some (j, _) => s.start i (.path j reason)
  | .channelMigrate i id =>
    match s.channel id with
    | none => some s
    | some (j, c) => if c.state.migration then s.start i (.switchToRelay j) else some s
  | .channelMigrateAck i m =>
    match s.channel m.channelID with
    | none => some s
    | some (j, c) =>
      if c.state.migration && !m.success then s.start i (.path j m.error)
      else some s
  | .channelDataAck m =>
    match s.channel m.channelID with
    | none => some s
    | some (j, c) => some (s.put j { c with state := c.state.acknowledge m.sequence })
  | .relayReady i => s.start i (.resume .relay)
  | .planeReady i =>
    if protocolSupportsMigration s.directRemoteProtocolVersion then
      { s with directQUICPlane := true }.start i (.resume .direct)
    else some { s with directQUICPlane := true }
  | .planeClosed => some { s with directQUICPlane := false }
  | .refuseSocks refuse => some { s with directRefuseSocks := refuse }
  | .directPeer version session =>
    some { s with
      directRemoteProtocolVersion := version
      directRemoteSessionID := session }
  | .doCleanup id =>
    match s.channel id with
    | none => some s
    | some (j, c) =>
      some { s.put j { c with state := c.state.close } with
        logicalChannels := s.logicalChannels.erase id }

/-! ## Payload -/

/-- What the other end of a channel acts on. -/
def carriesPayload : BaseMessage → Bool
  | .connect _ | .data _ => true
  | _ => false

/-- No Connect and no data of a local channel was handed to a relay link. -/
def PayloadDirect (s : DirectOnlyClient) : Prop := ∀ msg ∈ s.relayed, carriesPayload msg = false

instance (s : DirectOnlyClient) : Decidable s.PayloadDirect :=
  inferInstanceAs (Decidable (∀ msg ∈ s.relayed, carriesPayload msg = false))

/-- A step of a goroutine that leaves its channel on the direct path: a stream is opened and
written to, the relay is told about the peer, the channel is still open, a failure is reported
for a channel without a stream, and a new relay link finds its channels on the direct path. -/
def staysDirectAt (s : DirectOnlyClient) : OnlyPC → OnlyLabel → Bool
  | .send w msg _, .written ok => s.accepts w msg ok
  | .stream _ _ _, .written ok => ok
  | .bind _ _ request _ _, .relay link _ ok => !s.bindsPeer request || link && ok
  | .switchToDirect _ j _ _ _, _ => (s.channels[j]?).all (!·.state.closed)
  | .replayPending j _, _ => (s.channels[j]?).all (·.state.writer.isSome)
  | .path j _, _ => (s.channels[j]?).all fun c => decide (c.state.path = .relay)
  | .resumePath .relay j, _ => (s.channels[j]?).all fun c => decide (c.state.path = .direct)
  | _, _ => true

/-- And the peer migrates no channel. -/
def staysDirect (s : DirectOnlyClient) : OnlyAction → Bool
  | .step i label => s.staysDirectAt (s.threads i) label
  | .channelMigrate _ id => (s.channel id).all (!·.2.state.migration)
  | _ => true

structure Initial (s : DirectOnlyClient) : Prop where
  channels : s.channels = []
  threads : ∀ i, s.threads i = .idle
  relayed : s.relayed = []

end DirectOnlyClient

/-! ## Off the relay -/

/-- No writer that a goroutine goes on with is the relay writer. -/
def AfterWrite.OffRelay : AfterWrite → Prop
  | .migrate _ k => k.OffRelay
  | .replay w _ k => w ≠ relayWriter ∧ k.OffRelay
  | _ => True

/-- A goroutine holds no relay writer and is not about to switch to it. -/
def OnlyPC.OffRelay : OnlyPC → Prop
  | .handleRequest w => w ≠ relayWriter
  | .send w _ k | .stream w _ k | .pendingMessages _ w k
  | .logicalChannel w _ _ k | .switchToDirect w _ _ _ k | .bind w _ _ _ k =>
    w ≠ relayWriter ∧ k.OffRelay
  | .replayPending _ k => k.OffRelay
  | .switchToFallback _ _ _ | .switchToRelay _ | .switchRelay _ _ _
  | .resumeRelay _ => False
  | _ => True

namespace DirectOnlyClient

structure Kept (s : DirectOnlyClient) : Prop where
  writer : ∀ (j : ℕ) (c : ChannelObject), s.channels[j]? = some c →
    c.state.writer ≠ some relayWriter
  thread : ∀ i, (s.threads i).OffRelay
  payload : s.PayloadDirect

theorem kept_initial {s : DirectOnlyClient} (h : s.Initial) : s.Kept where
  writer := by simp [h.channels]
  thread := by simp [h.threads, OnlyPC.OffRelay]
  payload := by simp [PayloadDirect, h.relayed]

section Steps

variable {s s' : DirectOnlyClient} {i j : ℕ} {c : ChannelObject} {w : Writer}
  {k : AfterWrite} {request : ConnectMessage} {msg : BaseMessage}

section

variable (h : s.Kept)
include h

theorem Kept.of_same (hchannels : s'.channels = s.channels)
    (hthreads : s'.threads = s.threads) (hrelayed : s'.relayed = s.relayed) : s'.Kept where
  writer := by rw [hchannels]; exact h.writer
  thread := by rw [hthreads]; exact h.thread
  payload := by rw [PayloadDirect, hrelayed]; exact h.payload

theorem Kept.setThread (pc : OnlyPC) (hpc : pc.OffRelay) : (s.setThread i pc).Kept where
  writer := h.writer
  thread := by
    intro n
    change (update s.threads i pc n).OffRelay
    by_cases hn : n = i
    · rw [hn, update_self]
      exact hpc
    · rw [update_of_ne hn]
      exact h.thread n
  payload := h.payload

theorem Kept.put (hc : c.state.writer ≠ some relayWriter) : (s.put j c).Kept where
  writer := by
    intro n c' hn
    obtain ⟨-, rfl⟩ | ⟨-, hold⟩ := getElem?_set_cases hn
    · exact hc
    · exact h.writer n c' hold
  thread := h.thread
  payload := h.payload

theorem Kept.putSame (hc : s.channels[j]? = some c)
    {c' : ChannelObject} (hwriter : c'.state.writer = c.state.writer) : (s.put j c').Kept := by
  refine h.put ?_
  rw [hwriter]
  exact h.writer j c hc

theorem Kept.store {id : UUID} {state : LogicalChannelState}
    (hstate : state.writer ≠ some relayWriter) : (s.store id state).Kept where
  writer := by
    intro n c' hn
    obtain hold | ⟨-, rfl⟩ := getElem?_concat_cases hn
    · exact h.writer n c' hold
    · exact hstate
  thread := h.thread
  payload := h.payload

theorem Kept.log (hmsg : carriesPayload msg = false) : (s.log msg).Kept where
  writer := h.writer
  thread := h.thread
  payload := by
    intro m hm
    obtain hm | hm := List.mem_append.mp hm
    · exact h.payload m hm
    · rw [List.mem_singleton.mp hm]
      exact hmsg

theorem Kept.writer_ne (hc : s.channels[j]? = some c)
    (hw : c.state.writer = some w) : w ≠ relayWriter := by
  rintro rfl
  exact h.writer j c hc hw

end

theorem getElem?_of_channel {id : UUID} (h : s.channel id = some (j, c)) :
    s.channels[j]? = some c := by
  obtain ⟨n, -, hn⟩ := bind_eq_some_iff.mp h
  obtain ⟨c', hc', heq⟩ := map_eq_some_iff.mp hn
  cases heq
  exact hc'

/-- The relay is handed the message alone, if that is no payload. -/
theorem Kept.relayWrite (h : s.Kept) {link rebound ok : Bool} (hmsg : carriesPayload msg = false) :
    (s.relayWrite msg link rebound ok).1.Kept := by
  have hnone : s.rebinds msg = none := by
    cases msg with
    | data m => cases hmsg
    | _ => rfl
  rw [DirectOnlyClient.relayWrite, hnone]
  split
  · exact h
  · exact h.log hmsg

/-! ### Returning -/

theorem offRelay_finishedPC (call : ChannelWrite) (result : WriteResult) :
    (finishedPC call result).OffRelay := by
  cases result with
  | ok | transportDown =>
    rw [finishedPC]
    split <;> trivial
  | error => trivial

section

variable (h : s.Kept)
include h

theorem Kept.finish (call : ChannelWrite) (result : WriteResult) :
    (s.finish i call result).Kept := by
  rw [DirectOnlyClient.finish]
  split
  · exact h.setThread _ (offRelay_finishedPC call result)
  · rename_i c hc
    refine (h.putSame hc ?_).setThread _ (offRelay_finishedPC call result)
    rfl

/-- A write that has succeeded returns to its caller. -/
theorem Kept.returned (hk : k.OffRelay) : (s.returned i true k).Kept := by
  induction k with
  | nothing => exact h.setThread _ trivial
  | resumeNext => exact h.setThread _ trivial
  | write call => exact h.finish call .ok
  | switchToFallback call =>
    rw [DirectOnlyClient.returned, if_pos rfl, switched]
    split
    · exact h.finish call .ok
    · exact h.setThread _ trivial
  | writeAgain call => exact h.finish call .ok
  | migrate j k ih => exact h.setThread (.replayPending j k) hk
  | replay w rest k ih =>
    cases rest with
    | nil => exact ih hk.2
    | cons m rest => exact h.setThread (.send w _ _) ⟨hk.1, hk⟩

/-! ### One step -/

theorem Kept.assign (hc : s.channels[j]? = some c)
    (msg : BaseMessage) (retry : Option DataMessage) : (s.assign i j c msg retry).Kept := by
  rw [DirectOnlyClient.assign]
  split
  · exact h.finish _ _
  · split
    · exact h.finish _ _
    · rename_i w hw
      have hassigned : (assigned c.state msg).1.writer = c.state.writer := by
        cases msg with
        | data data => exact (c.state.assign_keeps data).2.2.1
        | _ => rfl
      exact (h.putSame hc hassigned).setThread (.send w _ _) ⟨h.writer_ne hc hw, trivial⟩

theorem Kept.streamWrite {ok : Bool}
    (hw : w ≠ relayWriter) (hk : k.OffRelay) (hok : s.accepts w msg ok = true) :
    (s.streamWrite i w msg k ok).Kept := by
  cases msg with
  | connect request =>
    rw [DirectOnlyClient.streamWrite, if_pos hok]
    have hopened : { s with streams := update s.streams w true }.Kept := h.of_same rfl rfl rfl
    exact hopened.setThread (.logicalChannel w request _ k) ⟨hw, hk⟩
  | _ =>
    rw [DirectOnlyClient.streamWrite, if_pos hok]
    · exact h.returned hk
    · nofun

theorem Kept.bound {opened : Bool} (hw : w ≠ relayWriter) (hk : k.OffRelay) :
    (s.bound i w j request opened k).Kept := by
  rw [DirectOnlyClient.bound]
  split
  · exact h.setThread (.stream w _ k) ⟨hw, hk⟩
  · split
    · exact h.setThread (.replayPending j k) hk
    · exact h.returned hk

theorem Kept.bind {opened link rebound ok : Bool} (hw : w ≠ relayWriter) (hk : k.OffRelay)
    (hok : (!s.bindsPeer request || link && ok) = true) :
    (s.bind i w j request opened k link rebound ok).Kept := by
  rw [DirectOnlyClient.bind]
  split
  · rename_i hbinds
    rw [hbinds] at hok
    obtain ⟨rfl, rfl⟩ := Bool.and_eq_true_iff.mp hok
    exact (h.relayWrite rfl).bound hw hk
  · exact h.bound hw hk

theorem Kept.dialWriter : s.dialWriter.Kept := h.of_same rfl rfl rfl

end

theorem succ_ne_relayWriter (n : ℕ) : n + 1 ≠ relayWriter := Nat.succ_ne_zero n

theorem some_ne_relayWriter (hw : w ≠ relayWriter) : some w ≠ some relayWriter :=
  fun h => hw (some.inj h)

theorem all_channel {P : ChannelObject → Bool} (hc : s.channels[j]? = some c)
    (h : (s.channels[j]?).all P = true) : P c = true := by
  rwa [hc] at h

section

variable (h : s.Kept)
include h

theorem Kept.refuse : (s.refuse i).Kept := (h.setThread .idle trivial).of_same rfl rfl rfl

theorem Kept.localRequest (hw : w ≠ relayWriter) : (s.localRequest i w request).Kept := by
  refine Kept.setThread (h.store ?_) _ trivial
  exact some_ne_relayWriter hw

theorem Kept.streamRequest (hw : w ≠ relayWriter) : (s.streamRequest w request).Kept :=
  h.store (some_ne_relayWriter hw)

/-! ### A step of a goroutine -/

/-- A step of a goroutine that leaves its channel on the direct path. -/
theorem Kept.stepThread {pc : OnlyPC} {label : OnlyLabel}
    (hpc : pc.OffRelay) (hstays : s.staysDirectAt pc label = true)
    (hs : s.stepThread i pc label = some s') : s'.Kept := by
  revert hpc hstays hs
  fun_cases DirectOnlyClient.stepThread s i pc label <;> intro hpc hstays hs
  case case1 =>
    cases hs
    exact h.dialWriter.setThread _ (succ_ne_relayWriter _)
  case case2 | case5 =>
    cases hs
    exact h.refuse
  case case6 =>
    cases hs
    exact h.localRequest hpc
  case case9 hc =>
    cases hs
    refine (h.putSame (getElem?_of_channel hc) ?_).setThread _ trivial
    rfl
  case case12 hc _ =>
    cases hs
    refine (h.putSame hc ?_).setThread _ trivial
    rfl
  case case14 j msg retry =>
    obtain ⟨c, hc, rfl⟩ := map_eq_some_iff.mp hs
    exact h.assign hc msg retry
  -- a goroutine with the writer of a stream does not write to the relay
  case case15 => exact absurd rfl hpc.1
  case case18 =>
    cases hs
    exact h.streamWrite hpc.1 hpc.2 hstays
  case case19 =>
    cases hs
    exact (h.streamRequest hpc.1).setThread _ hpc
  case case20 =>
    cases hs
    exact h.setThread _ hpc
  -- an open channel takes the writer of the stream
  case case22 c hc hswitch | case23 c hc _ hswitch =>
    have hopen : c.state.closed = false := by simpa using all_channel hc hstays
    rw [LogicalChannelState.switch, hopen] at hswitch
    cases hswitch
    try
      cases hs
      exact (h.put (some_ne_relayWriter hpc.1)).setThread _ hpc
  case case24 =>
    cases hs
    exact h.bind hpc.1 hpc.2 hstays
  case case25 ok =>
    cases hs
    cases (hstays : ok = true)
    exact h.returned hpc.2
  case case28 hc hw =>
    have hsome := all_channel hc hstays
    rw [hw] at hsome
    cases hsome
  case case29 hc w hw =>
    cases hs
    exact h.setThread _ ⟨h.writer_ne hc hw, hpc⟩
  case case30 =>
    obtain ⟨c, hc, rfl⟩ := map_eq_some_iff.mp hs
    exact h.returned hpc
  case case31 =>
    obtain ⟨w, hw, rfl⟩ := map_eq_some_iff.mp hs
    obtain ⟨c, hc, hwriter⟩ := bind_eq_some_iff.mp hw
    exact h.setThread _ ⟨h.writer_ne hc hwriter, trivial⟩
  case case32 | case35 =>
    obtain ⟨c, hc, rfl⟩ := map_eq_some_iff.mp hs
    refine (h.putSame hc ?_).setThread _ ?_
    · rfl
    · first | trivial | split <;> trivial
  case case36 =>
    obtain ⟨c, hc, rfl⟩ := map_eq_some_iff.mp hs
    rw [if_pos (of_decide_eq_true (all_channel hc hstays))]
    exact h.setThread _ trivial
  case case41 =>
    obtain ⟨c, hc, rfl⟩ := map_eq_some_iff.mp hs
    refine h.setThread _ ?_
    split <;> trivial
  -- a new relay link leaves a channel that it finds on the direct path there
  case case43 target j =>
    obtain ⟨c, hc, rfl⟩ := map_eq_some_iff.mp hs
    refine h.setThread _ ?_
    split
    · trivial
    · rename_i hpath
      cases target with
      | relay => exact absurd (of_decide_eq_true (all_channel hc hstays)) hpath
      | direct => trivial
  case case45 =>
    obtain ⟨c, hc, rfl⟩ := map_eq_some_iff.mp hs
    refine Kept.setThread ?_ _ ⟨succ_ne_relayWriter _, trivial⟩
    exact h.dialWriter.putSame hc rfl
  case case26 | case37 | case39 | case40 | case44 => exact hpc.elim
  all_goals cases hs
  all_goals exact h.setThread _ trivial

theorem Kept.start {pc : OnlyPC} (hs : s.start i pc = some s') (hpc : pc.OffRelay) : s'.Kept := by
  rw [DirectOnlyClient.start] at hs
  split at hs <;> cases hs
  exact h.setThread pc hpc

theorem Kept.startWrite
    {retry : Option DataMessage} (hs : s.startWrite i j msg retry = some s') : s'.Kept := by
  rw [DirectOnlyClient.startWrite] at hs
  split at hs
  · cases hs
  · split at hs
    · exact h.start hs trivial
    · cases hs

/-- Every action that leaves the channels on the direct path. -/
theorem Kept.step {a : OnlyAction} (hstays : s.staysDirect a = true)
    (hs : s.step a = some s') : s'.Kept := by
  have hplane : { s with directQUICPlane := true }.Kept := h.of_same rfl rfl rfl
  revert hstays hs
  fun_cases DirectOnlyClient.step s a <;> intro hstays hs
  case case3 | case4 => exact h.startWrite hs
  case case5 i label => exact h.stepThread (h.thread i) hstays hs
  case case2 | case7 | case12 | case16 => exact h.start hs trivial
  case case9 hc hmigration => simp [staysDirect, hc, hmigration] at hstays
  case case15 hc =>
    cases hs
    exact h.putSame (getElem?_of_channel hc) rfl
  case case17 => exact hplane.start hs trivial
  case case18 =>
    cases hs
    exact hplane
  case case19 | case20 | case21 =>
    cases hs
    exact h.of_same rfl rfl rfl
  case case23 j c _ =>
    cases hs
    have hclosed : (s.put j { c with state := c.state.close }).Kept := h.put nofun
    exact hclosed.of_same rfl rfl rfl
  all_goals
    cases hs
    exact h

end

end Steps

/-- In a run that stays on the direct path, nothing of a local channel is handed
to a relay link. -/
theorem payload_never_relayed {s t : DirectOnlyClient} {actions : List OnlyAction}
    (hinit : s.Initial) (hstays : Guarded step (fun s a => s.staysDirect a = true) s actions)
    (hrun : run step s actions = some t) : t.PayloadDirect := by
  have hkept : t.Kept := run_invariant (fun _ _ _ h => h.step) (kept_initial hinit) hstays hrun
  exact hkept.payload

end DirectOnlyClient

/-! ## Runs -/

/-- A client with a direct connection to a peer that supports migration. -/
def directOnlyStart : DirectOnlyClient where
  directRefuseSocks := false
  directQUICPlane := true
  directRemoteProtocolVersion := protocolVersionV1
  directRemoteSessionID := uuidOf 1
  channels := []
  logicalChannels := ∅
  writers := 0
  streams := fun _ => false
  threads := fun _ => .idle
  relayed := []

def directOnlyData : DataMessage := ⟨tcp, uuidOf 7, [1, 2], 0, [], 0, [], 0, 0⟩

def localRequestActions : List OnlyAction :=
  [.handleSocksRequest 0, .step 0 (.ready true), .step 0 (.request openRequest),
    .step 0 .next, .step 0 .next]

/-- The Connect opens a stream, the relay is told about the peer, and forwarding
begins. -/
def connectActions : List OnlyAction :=
  [.step 0 (.written true), .step 0 .next, .step 0 .next,
    .step 0 (.relay true true true), .step 0 .next]

def dataActions : List OnlyAction :=
  [.writeWithTransportGrace 2 0 directOnlyData, .step 2 .next, .step 2 .next]

/-- The data goes to the stream, and a new relay link finds the channel there. -/
def orderlyEnd : List OnlyAction :=
  [.step 2 (.written true), .relayReady 3, .step 3 (.visit (uuidOf 7)),
    .step 3 .next, .step 3 .giveUp, .doCleanup (uuidOf 7)]

def orderlyActions : List OnlyAction :=
  localRequestActions ++ connectActions ++ dataActions ++ orderlyEnd

theorem orderlyActions_direct : directOnlyStart.Initial ∧
    Guarded DirectOnlyClient.step (fun s a => s.staysDirect a = true)
      directOnlyStart orderlyActions ∧
    ∃ t, run DirectOnlyClient.step directOnlyStart orderlyActions = some t ∧
      t.relayed.length = 1 ∧ t.PayloadDirect := by
  have hinit : directOnlyStart.Initial := ⟨rfl, fun _ => rfl, rfl⟩
  refine ⟨hinit, ?guard, exists_run_and ?_ fun _ =>
    DirectOnlyClient.payload_never_relayed hinit ?guard⟩
  all_goals decide +kernel

/-- Goroutine `i` fails to write to a stream and falls back. -/
def fallbackActions (i : ℕ) : List OnlyAction :=
  [.step i (.written false), .step i .next, .step i .next, .step i (.relay true true true)]

def relayLinkActions : List OnlyAction :=
  [.relayReady 3, .step 3 (.visit (uuidOf 7)), .step 3 .next, .step 3 .next]

def planeActions : List OnlyAction :=
  [.planeReady 1, .step 1 (.visit (uuidOf 7)), .step 1 .next, .step 1 .next,
    .step 1 (.written true), .step 1 .next, .step 1 .next,
    .step 1 (.relay true true true), .step 1 .next, .step 1 .next]

/-- The data goes to the stream, and the peer migrates the channel. -/
def migrateActions : List OnlyAction :=
  [.step 2 (.written true), .channelMigrate 3 (uuidOf 7), .step 3 .next,
    .step 3 .next, .step 3 .next, .step 3 .next, .step 3 (.relay true true true)]

/-- The stream cannot be opened, a write to the stream fails, a relay link comes
up before the Connect is written, or the peer migrates a channel that a new data
plane has resumed: the Connect or the data goes to a relay link. -/
theorem fallback_relays_payload : (∃ t ∈ run DirectOnlyClient.step directOnlyStart
        (localRequestActions ++ fallbackActions 0), t.relayed = [.connect openRequest]) ∧
    (∃ t ∈ run DirectOnlyClient.step directOnlyStart
        (localRequestActions ++ connectActions ++ dataActions ++ fallbackActions 2),
      .data directOnlyData ∈ t.relayed) ∧
    (∃ t ∈ run DirectOnlyClient.step directOnlyStart (localRequestActions ++ relayLinkActions),
      t.relayed = [.connect { openRequest with resume := true }]) ∧
    ∃ t ∈ run DirectOnlyClient.step directOnlyStart
        (localRequestActions ++ planeActions ++ connectActions ++ dataActions ++ migrateActions),
      .data { directOnlyData with sequence := 1 } ∈ t.relayed := by
  decide +kernel

end LinkSocks
