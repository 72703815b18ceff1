import LinkSocks.Channel.Logical

/-!
# Data on its way from one end of a channel to the other

The goroutines of one end write messages, switch the channel between its paths and replay
what was not acknowledged; the other end takes in what arrives.  A call is split at every
critical section and at every write to a link, and `writeMu` is held by one call of
`WriteMessage` at a time.  A link may take a message and still report an error.  What links
have taken stays on their wires, from where any message can be delivered any number of
times, or never.
-/

namespace LinkSocks

open Go

/-- A running `WriteMessage`: the message as it goes to the link, whether
migration was on, and the data that `writeWithTransportGrace` tries again. -/
structure WriteCall where
  msg : BaseMessage
  migration : Bool
  retry : Option DataMessage

/-- Who waits for a switch of the path. -/
inductive AfterSwitch where
  | write (call : WriteCall)
  | nothing

/-- Where a goroutine is.  `again` marks the later attempts of
`writeWithTransportGrace`. -/
inductive ChannelPC where
  | idle
  | lock (msg : BaseMessage) (retry : Option DataMessage) (again : Bool)
  /-- Holding `writeMu`, before the critical section. -/
  | assign (msg : BaseMessage) (retry : Option DataMessage) (again : Bool)
  | write (call : WriteCall) (w : Option Writer)
  | switchToFallback (reason : GoString) (k : AfterSwitch)
  | migrate (w : Writer) (reason : GoString) (k : AfterSwitch)
  /-- `replayPending`: the current writer, the snapshot, and the loop. -/
  | replayPending (k : AfterSwitch)
  | pendingMessages (w : Writer) (k : AfterSwitch)
  | replay (w : Writer) (rest : List DataMessage) (k : AfterSwitch)
  /-- The second attempt of `WriteMessage`, on the current writer. -/
  | currentWriter (call : WriteCall)
  | writeAgain (call : WriteCall) (w : Writer)
  /-- `writeWithTransportGrace` between two attempts. -/
  | wait (data : DataMessage)
  | switchToRelay
  | switchRelay (w : Writer) (migration : Bool)
  | switchToDirect (w : Writer) (resume : Bool)
  /-- `resumeLogicalChannels`, for this channel. -/
  | canResume (w : Writer)
  | path (w : Writer)
  | enableMigration (w : Writer)
  | openChannel (w : Writer)

inductive ChannelLabel where
  | next
  /-- The result of a write; a link that reports an error may have taken the
  message. -/
  | written (ok taken : Bool)
  /-- The grace is over or there is none, or the context is cancelled. -/
  | giveUp

inductive SequenceEvent where
  | assigned (sequence : UInt64)
  | acknowledged (sequence : UInt64)
  deriving DecidableEq

/-- The sending end with its goroutines, the wires, and the receiving end. -/
structure Transfer where
  channel : LogicalChannelState
  writeMu : Option ℕ
  threads : ℕ → ChannelPC
  /-- What each writer has taken, oldest first, and the position after the
  message that was delivered last. -/
  wires : Writer → List BaseMessage
  cursor : Writer → ℕ
  peer : LogicalChannelState
  /-- What was put on the queue of the receiving end. -/
  queue : List DataMessage
  /-- History: data passed to `WriteMessage` while the channel was open, in the
  order of the lock, as it was numbered. -/
  written : List DataMessage
  /-- History: the same for calls of `writeWithTransportGrace`, each of them
  once. -/
  requested : List DataMessage
  events : List SequenceEvent

namespace Transfer

def setThread (s : Transfer) (i : ℕ) (pc : ChannelPC) : Transfer :=
  { s with threads := Function.update s.threads i pc }

@[simp] theorem setThread_self (s : Transfer) (i : ℕ) (pc : ChannelPC) :
    (s.setThread i pc).threads i = pc := Function.update_self ..

theorem setThread_of_ne (s : Transfer) {i j : ℕ} (pc : ChannelPC)
    (h : j ≠ i) : (s.setThread i pc).threads j = s.threads j := Function.update_of_ne h ..

/-- A goroutine returns from `WriteMessage`. -/
def unlock (s : Transfer) (i : ℕ) (pc : ChannelPC) : Transfer :=
  { s.setThread i pc with writeMu := none }

def send (s : Transfer) (w : Writer) (msg : BaseMessage) : Transfer :=
  { s with wires := Function.update s.wires w (s.wires w ++ [msg]) }

/-- A write that the link has taken, or has not. -/
def attempt (s : Transfer) (w : Writer) (msg : BaseMessage) (ok taken : Bool) : Transfer :=
  if ok || taken then s.send w msg else s

/-! ## Steps of a goroutine -/

/-- The critical section of `WriteMessage`. -/
def assign (s : Transfer) (i : ℕ) (msg : BaseMessage)
    (retry : Option DataMessage) (again : Bool) : Transfer :=
  if s.channel.closed then s.unlock i .idle
  else
    match msg with
    | .data data =>
      let assigned := s.channel.assign data
      let call : WriteCall := ⟨.data assigned.2, s.channel.migration, retry⟩
      { s.setThread i (.write call s.channel.writer) with
        channel := assigned.1
        written := s.written ++ [assigned.2]
        requested :=
          if retry.isSome && !again then s.requested ++ [assigned.2]
          else s.requested
        events :=
          if s.channel.migration then s.events ++ [.assigned assigned.2.sequence]
          else s.events }
    | msg => s.setThread i (.write ⟨msg, s.channel.migration, retry⟩ s.channel.writer)

/-- `WriteMessage` returns a `transportDownError`. -/
def transportDown (s : Transfer) (i : ℕ) (call : WriteCall) : Transfer :=
  match call.retry with
  | some data => s.unlock i (.wait data)
  | none => s.unlock i .idle

def switchFailed (s : Transfer) (i : ℕ) : AfterSwitch → Transfer
  | .write call => s.transportDown i call
  | .nothing => s.setThread i .idle

/-- It has succeeded: numbered data was replayed with it, anything else is
written again. -/
def switched (s : Transfer) (i : ℕ) : AfterSwitch → Transfer
  | .write call =>
    match call.msg, call.migration with
    | .data _, true => s.unlock i .idle
    | _, _ => s.setThread i (.currentWriter call)
  | .nothing => s.setThread i .idle

def writeFailed (s : Transfer) (i : ℕ) (call : WriteCall) : Transfer :=
  match call.msg with
  | .channelMigrate _ => s.unlock i .idle
  | _ => s.setThread i (.switchToFallback (ascii "write failure") (.write call))

/-- One step of goroutine `i`.  A second attempt without a writer panics and is
no step. -/
def stepThread (s : Transfer) (i : ℕ) : ChannelPC → ChannelLabel → Option Transfer
  | .lock msg retry again, .next =>
    if s.writeMu = none then some { s.setThread i (.assign msg retry again) with writeMu := some i }
    else none
  | .assign msg retry again, .next => some (s.assign i msg retry again)
  | .write _ none, .next => some (s.unlock i .idle)
  | .write call (some w), .written ok taken =>
    let s := s.attempt w call.msg ok taken
    if ok then some (s.unlock i .idle) else some (s.writeFailed i call)
  | .switchToFallback reason k, .next =>
    match s.channel.switchToFallback with
    | none => some (s.switchFailed i k)
    | some (channel, w) =>
      let s := { s with channel := channel }
      if channel.migration then some (s.setThread i (.migrate w reason k))
      else some (s.switched i k)
  | .migrate w reason k, .written ok taken =>
    let s := s.attempt w (.channelMigrate ⟨s.channel.id, reason⟩) ok taken
    if ok then some (s.setThread i (.replayPending k))
    else some (s.switchFailed i k)
  | .replayPending k, .next =>
    match s.channel.writer with
    | none => some (s.switchFailed i k)
    | some w => some (s.setThread i (.pendingMessages w k))
  | .pendingMessages w k, .next => some (s.setThread i (.replay w s.channel.pendingMessages k))
  | .replay _ [] k, .next => some (s.switched i k)
  | .replay w (m :: rest) k, .written ok taken =>
    let s := s.attempt w (.data m) ok taken
    if ok then some (s.setThread i (.replay w rest k))
    else some (s.switchFailed i k)
  | .currentWriter call, .next => s.channel.writer.map fun w => s.setThread i (.writeAgain call w)
  | .writeAgain call w, .written ok taken =>
    let s := s.attempt w call.msg ok taken
    if ok then some (s.unlock i .idle) else some (s.transportDown i call)
  | .wait data, .next => some (s.setThread i (.lock (.data data) (some data) true))
  | .wait _, .giveUp => some (s.setThread i .idle)
  | .switchToRelay, .next =>
    match s.channel.fallback with
    | none => some (s.setThread i .idle)
    | some w => some (s.setThread i (.switchRelay w s.channel.migration))
  | .switchRelay w migration, .next =>
    match s.channel.switch w .relay with
    | none => some (s.setThread i .idle)
    | some channel =>
      some ({ s with channel := channel }.setThread i
        (if migration then .replayPending .nothing else .idle))
  | .switchToDirect w resume, .next =>
    match s.channel.switch w .direct with
    | none => some (s.setThread i .idle)
    | some channel =>
      some ({ s with channel := channel }.setThread i
        (if resume then .replayPending .nothing else .idle))
  | .canResume w, .next => some (s.setThread i (if s.channel.canResume then .path w else .idle))
  | .path w, .next =>
    some (s.setThread i (if s.channel.path = .direct then .idle else .enableMigration w))
  | .enableMigration w, .next =>
    some ({ s with channel := s.channel.enableMigration true }.setThread i
      (.openChannel w))
  | .openChannel w, .written ok taken =>
    let request := { s.channel.request with resume := true }
    let s := s.attempt w (.connect request) ok taken
    some (s.setThread i (if ok then .switchToDirect w true else .idle))
  | _, _ => none

/-! ## The machine -/

/-- `deliverDataMessage` at the receiving end, run by a single goroutine. -/
def deliverData (s : Transfer) (m : DataMessage) (room : Bool) : Transfer :=
  match s.peer.acceptData m.sequence with
  | none => s
  | some peer =>
    if room then { s with peer := peer, queue := s.queue ++ [m] }
    else { s with peer := peer.rejectData m.sequence }

/-- A message arrives; only data matters here. -/
def receive (s : Transfer) (msg : BaseMessage) (room : Bool) : Transfer :=
  match msg with
  | .data m => s.deliverData m room
  | _ => s

end Transfer

inductive ChannelOp where
  | writeMessage (msg : BaseMessage)
  | writeWithTransportGrace (data : DataMessage)
  | switchToFallback (reason : GoString)
  | switchToRelay
  | switchToDirect (w : Writer)
  /-- `resumeLogicalChannels`, with the new direct connection. -/
  | resume (w : Writer)

def ChannelOp.entry : ChannelOp → ChannelPC
  | .writeMessage msg => .lock msg none false
  | .writeWithTransportGrace data => .lock (.data data) (some data) false
  | .switchToFallback reason => .switchToFallback reason .nothing
  | .switchToRelay => .switchToRelay
  | .switchToDirect w => .switchToDirect w false
  | .resume w => .canResume w

inductive TransferAction where
  | call (i : ℕ) (op : ChannelOp)
  | step (i : ℕ) (label : ChannelLabel)
  | acknowledge (sequence : UInt64)
  | close
  /-- Message `n` of a wire arrives, and the queue has room or not. -/
  | deliver (w : Writer) (n : ℕ) (room : Bool)

def Transfer.step (s : Transfer) : TransferAction → Option Transfer
  | .call i op =>
    match s.threads i with
    | .idle => some (s.setThread i op.entry)
    | _ => none
  | .step i label => s.stepThread i (s.threads i) label
  | .acknowledge sequence =>
    some { s with
      channel := s.channel.acknowledge sequence
      events := s.events ++ [.acknowledged sequence] }
  | .close => some { s with channel := s.channel.close }
  | .deliver w n room =>
    (s.wires w)[n]?.map fun msg =>
      { s.receive msg room with cursor := Function.update s.cursor w (n + 1) }

end LinkSocks
