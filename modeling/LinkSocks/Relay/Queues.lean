import LinkSocks.Go.Sections
import LinkSocks.Relay.Server

/-!
# The life of the orphan and return queues

`Relay.Server` takes each function of the connector cache as one step.  Here
they are the programs that the goroutines of the relay really run, with the
sections under `connCache.mu` taken instruction by instruction, so that any
number of dispatchers, timers and pumps may be anywhere in them.  What decides
a branch without being a queue (the two channel maps, the writes to links, the
contexts) is left open: both branches are always possible, and an expiry timer
may fire at any time.
-/

namespace LinkSocks

open Go

/-- The two maps of queues in `connCache`. -/
inductive QueueMap where
  | orphanQueues
  | returnQueues
  deriving DecidableEq

structure QueueKey where
  map : QueueMap
  channelID : UUID
  deriving DecidableEq

/-- A queue that is received from outside the lock: pumps do that with the
orphan queue of their channel. -/
def QueueKey.pumped (k : QueueKey) : Bool := k.map = .orphanQueues

def orphanQueue (channelID : UUID) : QueueKey := ⟨.orphanQueues, channelID⟩

def returnQueue (channelID : UUID) : QueueKey := ⟨.returnQueues, channelID⟩

/-! ## The programs -/

/-- The points of the programs, in the order of the source. -/
inductive QueuePoint where
  | idle
  /-- `mu.Unlock(); return` -/
  | unlock
  /-- `mu.RUnlock(); return` -/
  | rUnlock
  -- reserveOrphanQueue
  | reserve (channelID : UUID)
  | reserveLookup (channelID : UUID)
  | reserveMake (channelID : UUID)
  -- routeConnectorPayload
  | route (channelID : UUID) (msg : BaseMessage)
  | routeLookup (channelID : UUID) (msg : BaseMessage)
  | routeSend (channelID : UUID) (msg : BaseMessage)
  | routeUnlock (channelID : UUID) (msg : BaseMessage)
  | routeTarget (channelID : UUID) (msg : BaseMessage)
  -- bufferOrphanPayload, bufferConnectorReturn
  | buffer (k : QueueKey) (msg : BaseMessage)
  | bufferLookup (k : QueueKey) (msg : BaseMessage)
  | bufferMake (k : QueueKey) (msg : BaseMessage)
  | bufferSend (k : QueueKey) (msg : BaseMessage)
  -- expireOrphanData, expireConnectorReturn
  | expire (k : QueueKey)
  | expireLookup (k : QueueKey)
  | expireBound (k : QueueKey)
  | expireDelete (k : QueueKey)
  | expireClose
  -- drainConnectorReturn
  | drain (channelID : UUID)
  | drainLookup (channelID : UUID)
  | drainQueue (channelID : UUID)
  | drainUnlock (channelID : UUID)
  | drainWrite (channelID : UUID)
  | requeue (channelID : UUID)
  | requeueLookup (channelID : UUID)
  | requeueDrain (channelID : UUID)
  | requeueSend (channelID : UUID)
  -- cleanupConnectorChannel
  | cleanup (channelID : UUID)
  | cleanupOrphan (channelID : UUID)
  | cleanupOrphanDelete (channelID : UUID)
  | cleanupOrphanClose (channelID : UUID)
  | cleanupReturn (channelID : UUID)
  | cleanupReturnDelete (channelID : UUID)
  | cleanupReturnClose
  -- RemoveToken: the channels of each connector token that goes
  | removeToken (tokens : List (List UUID))
  | removeIDs (ids : List UUID) (tokens : List (List UUID))
  -- startConnectorPumpSpec
  | pump (channelID : UUID)
  | pumpLookup (channelID : UUID)
  | pumpAlive (channelID : UUID)
  | pumpDead (channelID : UUID)
  | pumpWait (channelID : UUID)
  | pumpRetry (channelID : UUID)
  | publish (channelID : UUID)
  | publishLookup (channelID : UUID)
  | publishMake (channelID : UUID)
  | publishUnlock (channelID : UUID)
  | pumpBind (channelID : UUID)
  | pumpSelect (channelID : UUID)
  | pumpReceive (channelID : UUID)
  | pumpForward (channelID : UUID)

namespace QueuePoint

/-! The functions by their names in the source. -/

def reserveOrphanQueue (channelID : UUID) : QueuePoint := .reserve channelID

def routeConnectorPayload (channelID : UUID) (msg : BaseMessage) : QueuePoint :=
  .route channelID msg

def bufferOrphanPayload (channelID : UUID) (msg : BaseMessage) : QueuePoint :=
  .buffer (orphanQueue channelID) msg

def bufferConnectorReturn (channelID : UUID) (m : BaseMessage) : QueuePoint :=
  .buffer (returnQueue channelID) m

def expireOrphanData (channelID : UUID) : QueuePoint := .expire (orphanQueue channelID)

def expireConnectorReturn (channelID : UUID) : QueuePoint := .expire (returnQueue channelID)

def drainConnectorReturn (channelID : UUID) : QueuePoint := .drain channelID

def cleanupConnectorChannel (channelID : UUID) : QueuePoint := .cleanup channelID

/-- A connector token removes its own channels, a reverse token those of all
connector tokens that use it. -/
def ofRemoveToken (tokens : List (List UUID)) : QueuePoint := .removeToken tokens

/-- The part of a pump that has to do with the queue.  The drain of the return
queue after a bind is a goroutine of its own here. -/
def startConnectorPumpSpec (channelID : UUID) : QueuePoint := .pump channelID

def code : QueuePoint → Instr QueueKey BaseMessage QueuePoint
  | .idle => .halt
  | .unlock => .unlock .idle
  | .rUnlock => .rUnlock .idle
  | .reserve id => .lock (.reserveLookup id)
  | .reserveLookup id => .lookup (orphanQueue id) .unlock (.reserveMake id)
  | .reserveMake id => .make (orphanQueue id) .unlock
  | .route id msg => .rLock (.routeLookup id msg)
  | .routeLookup id msg => .lookup (orphanQueue id) (.routeSend id msg) (.routeUnlock id msg)
  | .routeSend _ msg => .send msg .rUnlock
  | .routeUnlock id msg => .rUnlock (.routeTarget id msg)
  -- with a target the message is written to it
  | .routeTarget id msg => .choose .idle (bufferOrphanPayload id msg)
  | .buffer k msg => .lock (.bufferLookup k msg)
  | .bufferLookup k msg => .lookup k (.bufferSend k msg) (.bufferMake k msg)
  | .bufferMake k msg => .make k (.bufferSend k msg)
  | .bufferSend _ msg => .send msg .unlock
  | .expire k => .lock (.expireLookup k)
  | .expireLookup k => .lookup k (.expireBound k) .unlock
  | .expireBound k => .choose .unlock (.expireDelete k)
  | .expireDelete k => .delete k .expireClose
  | .expireClose => .close .unlock
  | .drain id => .lock (.drainLookup id)
  | .drainLookup id => .lookup (returnQueue id) (.drainQueue id) .unlock
  | .drainQueue id => .drain (.drainUnlock id)
  | .drainUnlock id => .unlock (.drainWrite id)
  | .drainWrite id => .deliver (.requeue id) .idle
  | .requeue id => .lock (.requeueLookup id)
  | .requeueLookup id => .lookup (returnQueue id) (.requeueDrain id) .unlock
  -- what is drained here comes after what is in hand
  | .requeueDrain id => .drain (.requeueSend id)
  | .requeueSend _ => .sendAll .unlock
  | .cleanup id => .lock (.cleanupOrphan id)
  | .cleanupOrphan id => .lookup (orphanQueue id) (.cleanupOrphanDelete id) (.cleanupReturn id)
  | .cleanupOrphanDelete id => .delete (orphanQueue id) (.cleanupOrphanClose id)
  | .cleanupOrphanClose id => .close (.cleanupReturn id)
  | .cleanupReturn id => .lookup (returnQueue id) (.cleanupReturnDelete id) .unlock
  | .cleanupReturnDelete id => .delete (returnQueue id) .cleanupReturnClose
  | .cleanupReturnClose => .close .unlock
  | .removeToken [] => .halt
  | .removeToken (ids :: tokens) => .lock (.removeIDs ids tokens)
  -- the queues are not closed here, and the return queues stay
  | .removeIDs [] tokens => .unlock (.removeToken tokens)
  | .removeIDs (id :: ids) tokens => .delete (orphanQueue id) (.removeIDs ids tokens)
  | .pump id => .rLock (.pumpLookup id)
  | .pumpLookup id => .lookup (orphanQueue id) (.pumpAlive id) (.pumpDead id)
  | .pumpAlive id => .rUnlock (.pumpWait id)
  | .pumpDead id => .rUnlock (.cleanup id)
  | .pumpWait id => .choose (.publish id) (.pumpRetry id)
  | .pumpRetry id => .choose (.pump id) (.cleanup id)
  | .publish id => .lock (.publishLookup id)
  | .publishLookup id => .lookup (orphanQueue id) (.publishUnlock id) (.publishMake id)
  | .publishMake id => .make (orphanQueue id) (.publishUnlock id)
  | .publishUnlock id => .unlock (.pumpBind id)
  | .pumpBind id => .choose (.pumpSelect id) (.pump id)
  | .pumpSelect id => .choose (.pumpReceive id) (.cleanup id)
  | .pumpReceive id => .receive (.pumpForward id) (.cleanup id)
  | .pumpForward id => .choose (.pumpSelect id) (.pump id)

def isEntry : QueuePoint → Bool
  | .reserve _ => true
  | .route _ _ => true
  | .buffer _ _ => true
  | .expire _ => true
  | .drain _ => true
  | .cleanup _ => true
  | .removeToken _ => true
  | .pump _ => true
  | _ => false

def note : QueuePoint → Note QueueKey
  | .unlock => ⟨.write, .any⟩
  | .rUnlock => ⟨.read, .any⟩
  | .reserveLookup _ => ⟨.write, .any⟩
  | .reserveMake _ => ⟨.write, .any⟩
  | .routeLookup _ _ => ⟨.read, .any⟩
  | .routeSend id _ => ⟨.read, .mapped (orphanQueue id)⟩
  | .routeUnlock _ _ => ⟨.read, .any⟩
  | .bufferLookup _ _ => ⟨.write, .any⟩
  | .bufferMake _ _ => ⟨.write, .any⟩
  | .bufferSend k _ => ⟨.write, .mapped k⟩
  | .expireLookup _ => ⟨.write, .any⟩
  | .expireBound k => ⟨.write, .mapped k⟩
  | .expireDelete k => ⟨.write, .mapped k⟩
  | .expireClose => ⟨.write, .detached⟩
  | .drainLookup _ => ⟨.write, .any⟩
  | .drainQueue id => ⟨.write, .mapped (returnQueue id)⟩
  | .drainUnlock id => ⟨.write, .mapped (returnQueue id)⟩
  | .requeueLookup _ => ⟨.write, .any⟩
  | .requeueDrain id => ⟨.write, .mapped (returnQueue id)⟩
  | .requeueSend id => ⟨.write, .mapped (returnQueue id)⟩
  | .cleanupOrphan _ => ⟨.write, .any⟩
  | .cleanupOrphanDelete id => ⟨.write, .mapped (orphanQueue id)⟩
  | .cleanupOrphanClose _ => ⟨.write, .detached⟩
  | .cleanupReturn _ => ⟨.write, .any⟩
  | .cleanupReturnDelete id => ⟨.write, .mapped (returnQueue id)⟩
  | .cleanupReturnClose => ⟨.write, .detached⟩
  | .removeIDs _ _ => ⟨.write, .any⟩
  | .pumpLookup _ => ⟨.read, .any⟩
  | .pumpAlive _ => ⟨.read, .any⟩
  | .pumpDead _ => ⟨.read, .any⟩
  | .publishLookup _ => ⟨.write, .any⟩
  | .publishMake _ => ⟨.write, .any⟩
  | .publishUnlock id => ⟨.write, .mapped (orphanQueue id)⟩
  | .pumpBind _ => ⟨.free, .held⟩
  | .pumpSelect _ => ⟨.free, .held⟩
  | .pumpReceive _ => ⟨.free, .held⟩
  | .pumpForward _ => ⟨.free, .held⟩
  | _ => ⟨.free, .any⟩

end QueuePoint

def queueProgram : Program QueueKey BaseMessage QueuePoint where
  code := QueuePoint.code
  entry := QueuePoint.isEntry
  capacity := orphanDataQueueSize

/-! ## Every interleaving is safe -/

namespace QueuePoint

theorem note_stable (p : QueuePoint) : p.note.Stable := by
  cases p <;> trivial

theorem note_of_isEntry (p : QueuePoint) (h : p.isEntry = true) : p.note = ⟨.free, .any⟩ := by
  cases p <;> first | rfl | cases h

theorem note_of_halt (p : QueuePoint) (h : p.code = .halt) : p.note = ⟨.free, .any⟩ := by
  cases p
  case removeIDs ids tokens => cases ids <;> cases h
  all_goals first | rfl | cases h

@[simp] theorem pumped_orphanQueue (id : UUID) : (orphanQueue id).pumped = true := rfl

@[simp] theorem pumped_returnQueue (id : UUID) : (returnQueue id).pumped = false := rfl

/-- Every instruction fits what holds at its point. -/
theorem note_fits (p : QueuePoint) : p.note.Fits QueueKey.pumped note p.code := by
  cases p
  case removeToken tokens =>
    cases tokens with
    | nil => trivial
    | cons ids tokens => exact ⟨rfl, rfl, .inl rfl⟩
  case removeIDs ids tokens =>
    cases ids with
    | nil => exact ⟨rfl, rfl, .inl rfl⟩
    | cons id ids => exact ⟨rfl, rfl, .inl rfl⟩
  all_goals
    simp [code, note, Note.Fits, Note.Leads, Claim.release, Claim.delete, bufferOrphanPayload]

end QueuePoint

theorem queueProgram_annotated : queueProgram.Annotated QueueKey.pumped QueuePoint.note where
  stable := QueuePoint.note_stable
  fits := QueuePoint.note_fits
  entry := QueuePoint.note_of_isEntry
  halt := QueuePoint.note_of_halt

theorem QueuePoint.next_ne_of_drain {p next : QueuePoint}
    (h : p.code = .drain next) : next ≠ p := by
  rintro rfl
  cases next
  case removeToken tokens => cases tokens <;> cases h
  case removeIDs ids tokens => cases ids <;> cases h
  all_goals cases h

/-- In every interleaving of any number of calls on any channels, the queues in
the two maps are open; nothing is sent on a closed queue, and none is closed
twice; and `drainQueue` is called on open queues only: it is never blocked, and
makes no more rounds than the queue has messages, whatever else happens in the
meantime. -/
theorem queue_lifecycle {s t : Shared QueueKey BaseMessage QueuePoint}
    {actions : List (SectionAction QueuePoint)} (hs : s.Quiescent queueProgram)
    (hrun : run (Shared.step queueProgram) s actions = some t) :
    (∀ k o, t.refs.lookup k = some o → t.channelAt o (·.closed = false)) ∧ t.faults = [] ∧
    ∀ i next, queueProgram.code (t.goroutines i).pc = .drain next →
      (∃ o, (t.goroutines i).hand = some o ∧ t.channelAt o (·.closed = false)) ∧
      (∀ choice, (t.step queueProgram (.step i choice)).isSome) ∧
      ∀ later u, run (Shared.step queueProgram) t later = some u → Always (Shared.step queueProgram)
          (fun v => (v.goroutines i).pc = (t.goroutines i).pc) t later →
        later.countP (·.isStepOf i) ≤ (t.inHand i).length := by
  have hsafe := (hs.safe queueProgram_annotated).run queueProgram_annotated hrun
  refine ⟨fun k o hk => ?_, hsafe.faults, fun i next hcode => ⟨?_, ?_, ?_⟩⟩
  · obtain ⟨c, hc, hclosed, -⟩ := hsafe.isOpen k o hk
    exact ⟨c, hc, hclosed⟩
  · obtain ⟨-, o, c, hhand, hc, hclosed, -⟩ := hsafe.draining queueProgram_annotated hcode
    exact ⟨o, hhand, c, hc, hclosed⟩
  · exact Shared.drain_enabled hcode
  · intro later u hlater hstay
    exact hsafe.drain_terminates queueProgram_annotated hcode
      (QueuePoint.next_ne_of_drain hcode) hlater hstay

def noQueues : Shared QueueKey BaseMessage QueuePoint where
  refs := ∅
  chans := []
  mu := ⟨[], none⟩
  goroutines := fun _ => ⟨.idle, none, []⟩
  faults := []

theorem noQueues_quiescent : noQueues.Quiescent queueProgram where
  isOpen := fun _ _ h => nomatch h
  readers := rfl
  writer := rfl
  halted := fun _ => rfl
  faults := rfl

/-- A payload is buffered on the return path, a drain begins, and a cleanup
waits for the lock. -/
def bufferedRun : List (SectionAction QueuePoint) :=
  [.start 0 (.bufferConnectorReturn (uuidOf 1) (.sealed ⟨uuidOf 1, [7]⟩)),
    .step 0 true, .step 0 true, .step 0 true, .step 0 true, .step 0 true,
    .start 1 (.drainConnectorReturn (uuidOf 1)), .start 2 (.cleanupConnectorChannel (uuidOf 1)),
    .step 1 true, .step 1 true]

theorem run_bufferedRun : ∃ t, run (Shared.step queueProgram) noQueues bufferedRun = some t ∧
      (t.goroutines 1).pc = .drainQueue (uuidOf 1) ∧
      t.step queueProgram (.step 2 true) = none ∧ (t.inHand 1).length = 1 := ⟨_, rfl, rfl, rfl, rfl⟩

/-- There the drain has one message to take, and the cleanup cannot begin. -/
theorem queue_lifecycle_bufferedRun :
    ∃ t, run (Shared.step queueProgram) noQueues bufferedRun = some t ∧
      (t.goroutines 1).pc = .drainQueue (uuidOf 1) ∧
      t.step queueProgram (.step 2 true) = none ∧ t.faults = [] ∧
      ∀ later u, run (Shared.step queueProgram) t later = some u → Always (Shared.step queueProgram)
          (fun v => (v.goroutines 1).pc = (t.goroutines 1).pc) t later →
        later.countP (·.isStepOf 1) ≤ 1 := by
  obtain ⟨t, hrun, hpc, hblocked, hone⟩ := run_bufferedRun
  obtain ⟨-, hfaults, hdrains⟩ := queue_lifecycle noQueues_quiescent hrun
  have hcode : queueProgram.code (t.goroutines 1).pc = .drain (.drainUnlock (uuidOf 1)) := by
    rw [hpc]
    rfl
  obtain ⟨-, -, hends⟩ := hdrains 1 _ hcode
  rw [hone] at hends
  exact ⟨t, hrun, hpc, hblocked, hfaults, hends⟩

end LinkSocks
