import LinkSocks.Relay.Server
import LinkSocks.Go.Machine

/-!
# What the relay sees of a secure channel

Both ends of a channel of the second generation hand some frames to the relay
in the clear: the entry side opens and resumes the channel, and either side
ends it.  The destination and the errors of local network operations are erased
by a map that commutes with every step, so the frames depend on them only where
they carry them: in the error of a disconnect, and in a Connect that is not
sealed.
-/

namespace LinkSocks

open Go List Option

/-- What became of a write to the relay. -/
inductive LinkWrite where
  | noLink
  | failed
  | done
  deriving DecidableEq

/-- A failed write may have reached the relay. -/
def LinkWrite.taken : LinkWrite → Bool
  | .noLink => false
  | _ => true

/-! ## The entry side -/

inductive InitiatorPC where
  | probe
  | announce
  | handshake
  | connect
  | response
  | forward
  | goodbye (error : GoString)
  | done

/-- The end that opens the channel for a local request.  `sealed` says which
transport `openChannelTransport` gave it, `hub` whether the hub has its
session, and `channel` whether its logical channel is there and open. -/
structure Initiator where
  request : ConnectMessage
  pc : InitiatorPC
  sealed : Bool
  established : Bool
  sessionClosed : Bool
  hub : Bool
  channel : Bool
  suspended : Bool

inductive InitiatorEvent where
  /-- The version of the relay writer is read, with or without a link. -/
  | probe (link : Bool)
  | announce (write : LinkWrite) (retry : Bool)
  | establish
  | ready
  | failed
  | connect (reopen write : LinkWrite) (retry : Bool)
  /-- The remote side has confirmed, or the request does not wait for it. -/
  | response (success : Bool)
  | data (m : DataMessage) (reopen write : LinkWrite) (retry : Bool)
  /-- Forwarding ends, with the error of a local network operation or none. -/
  | finish (error : Option GoString)
  | goodbye (write : LinkWrite) (retry : Bool)
  | suspend
  /-- `resumeRelayChannels` gets to the channel. -/
  | resume (write : LinkWrite)
  | failSession
  | removeSession
  | hubClose
  | cleanup

namespace Initiator

def setPC (e : Initiator) (pc : InitiatorPC) : Initiator := { e with pc := pc }

def canResume (e : Initiator) : Bool := e.channel && decide (e.request.channelID ≠ UUID.nil)

/-- The relay writer binds a suspended channel again, before sealed frames and
before data. -/
def reopens (e : Initiator) (isData : Bool) : Bool :=
  (e.sealed || isData) && e.canResume && e.suspended

/-- The frames in the clear of one write through the transport of the
channel. -/
def frames (e : Initiator) (msg : BaseMessage) (isData : Bool)
    (reopen write : LinkWrite) : List BaseMessage :=
  if e.reopens isData then
    (if reopen.taken then [.channelOpen ⟨e.request.channelID, true⟩] else []) ++
      if decide (reopen = .done) && write.taken && !e.sealed then [msg] else []
  else if write.taken && !e.sealed then [msg]
  else []

/-- The channel after such a write: it is resumed by one that succeeds, and a
session that gives up is over. -/
def wrote (e : Initiator) (isData : Bool) (reopen write : LinkWrite)
    (retry : Bool) : Bool × Initiator :=
  if (!e.reopens isData || decide (reopen = .done)) && decide (write = .done) then
    (true, { e with suspended := false })
  else if retry then (false, e)
  else (false, { e with sessionClosed := e.sessionClosed || e.sealed })

/-- Whether the transport takes messages. -/
def writable (e : Initiator) : Bool :=
  e.channel && (!e.sealed || (e.established && !e.sessionClosed))

def step (e : Initiator) : InitiatorEvent → Option (Initiator × List BaseMessage)
  | .probe link =>
    match e.pc with
    | .probe =>
      if link then some ({ e with pc := .announce, sealed := true, hub := true }, [])
      else
        -- version zero: the bare relay writer
        some ({ e with pc := .connect, channel := true }, [])
    | _ => none
  | .announce write retry =>
    match e.pc with
    | .announce =>
      let frames := if write.taken then [.channelOpen ⟨e.request.channelID, false⟩] else []
      if write = .done then some (e.setPC .handshake, frames)
      else if retry then some (e, frames)
      else
        some ({ e with pc := .done, hub := false, sessionClosed := true }, frames)
    | _ => none
  | .establish => some ({ e with established := true }, [])
  | .ready =>
    match e.pc with
    | .handshake =>
      if e.established then some ({ e with pc := .connect, channel := true }, [])
      else none
    | _ => none
  | .failed =>
    match e.pc with
    | .handshake => some ({ e with pc := .done, hub := false, sessionClosed := true }, [])
    | _ => none
  | .connect reopen write retry =>
    match e.pc with
    | .connect =>
      if !e.writable then some (e.setPC .done, [])
      else
        let wrote := e.wrote false reopen write retry
        let pc := if wrote.1 then .response
          else if retry then .connect else .done
        some (wrote.2.setPC pc, e.frames (.connect e.request) false reopen write)
    | _ => none
  | .response success =>
    match e.pc with
    | .response => some (e.setPC (if success then .forward else .done), [])
    | _ => none
  | .data m reopen write retry =>
    match e.pc with
    | .forward =>
      if !e.writable || decide (m.channelID ≠ e.request.channelID) then none
      else some ((e.wrote true reopen write retry).2, e.frames (.data m) true reopen write)
    | _ => none
  | .finish error =>
    match e.pc with
    | .forward =>
      -- a UDP association ends without an error text
      some (e.setPC (.goodbye
        (if e.request.protocol = ascii "udp" then [] else error.getD [])), [])
    | _ => none
  | .goodbye write retry =>
    match e.pc with
    | .goodbye error =>
      some (if retry then e else e.setPC .done,
        if e.channel && write.taken then [.disconnect ⟨e.request.channelID, error⟩] else [])
    | _ => none
  | .suspend => some ({ e with suspended := true }, [])
  | .resume write =>
    if !e.canResume then some (e, [])
    else if e.hub then
      some ({ e with suspended := e.suspended && decide (write ≠ .done) },
        if write.taken then [.channelOpen ⟨e.request.channelID, true⟩] else [])
    else some (e, if write.taken then [.connect { e.request with resume := true }] else [])
  | .failSession => some ({ e with sessionClosed := true }, [])
  | .removeSession => some ({ e with hub := false }, [])
  | .hubClose => some ({ e with hub := false, sessionClosed := true }, [])
  | .cleanup => some ({ e with hub := false, sessionClosed := true, channel := false }, [])

end Initiator

/-! ## The dialing side -/

inductive ResponderPC where
  | idle
  | dial (request : ConnectMessage)
  | respond (request : ConnectMessage) (m : ConnectResponseMessage)
  | forward (request : ConnectMessage)
  | goodbye (error : GoString)
  | done

structure Responder where
  channelID : UUID
  pc : ResponderPC
  established : Bool
  sessionClosed : Bool
  hub : Bool
  channel : Bool

inductive ResponderEvent where
  /-- A `ChannelOpen` of the relay. -/
  | accept (resume : Bool) (write : LinkWrite)
  /-- A Connect in the clear, which a provider refuses. -/
  | plainConnect (write : LinkWrite)
  | establish
  /-- The session has decrypted the request. -/
  | request (m : ConnectMessage)
  /-- The destination was dialed, or not. -/
  | dialed (error : Option GoString)
  /-- The request is given up without a response. -/
  | reject
  | respond (write : LinkWrite) (retry : Bool)
  | data (m : DataMessage) (write : LinkWrite)
  /-- Forwarding ends on an error, on the end of the stream, or because the
  context is done. -/
  | finish (error : Option (Option GoString))
  | goodbye (write : LinkWrite) (retry : Bool)
  | failSession
  | removeSession
  | hubClose
  | cleanup

namespace Responder

def setPC (r : Responder) (pc : ResponderPC) : Responder := { r with pc := pc }

def writable (r : Responder) : Bool := r.channel && r.established && !r.sessionClosed

def disconnect (r : Responder) (error : GoString) (write : LinkWrite) : List BaseMessage :=
  if write.taken then [.disconnect ⟨r.channelID, error⟩] else []

def step (r : Responder) : ResponderEvent → Option (Responder × List BaseMessage)
  | .accept resume write =>
    if r.hub then some (r, [])
    else if resume then some (r, r.disconnect (ascii "channel expired") write)
    else
      some ({ r with hub := true, established := false, sessionClosed := false }, [])
  | .plainConnect write =>
    some (r, r.disconnect
      (ascii "protocol v2 requires an encrypted channel") write)
  | .establish => some ({ r with established := r.hub || r.established }, [])
  | .request m =>
    match r.pc with
    | .idle =>
      if r.established && decide (m.channelID = r.channelID) then
        some ({ r with pc := .dial m, channel := true }, [])
      else none
    | _ => none
  | .dialed error =>
    match r.pc with
    | .dial request =>
      some (r.setPC (.respond request ⟨error.isNone, error.getD [], r.channelID⟩), [])
    | _ => none
  | .reject =>
    match r.pc with
    | .dial _ => some (r.setPC .done, [])
    | _ => none
  | .respond write retry =>
    match r.pc with
    | .respond request m =>
      if !r.writable then some (r.setPC .done, [])
      else if write = .done then some (r.setPC (if m.success then .forward request else .done), [])
      else if retry then some (r, [])
      else some ({ r with pc := .done, sessionClosed := true }, [])
    | _ => none
  | .data m _ =>
    match r.pc with
    | .forward _ =>
      if r.writable && decide (m.channelID = r.channelID) then some (r, [])
      else none
    | _ => none
  | .finish error =>
    match r.pc, error with
    | .forward request, some error =>
      some (r.setPC (if request.protocol = tcp then .goodbye (error.getD [])
        else .done), [])
    | .forward _, none => some (r.setPC .done, [])
    | _, _ => none
  | .goodbye write retry =>
    match r.pc with
    | .goodbye error =>
      some (if retry then r else r.setPC .done, if r.channel then r.disconnect error write else [])
    | _ => none
  | .failSession => some ({ r with sessionClosed := true }, [])
  | .removeSession => some ({ r with hub := false }, [])
  | .hubClose => some ({ r with hub := false, sessionClosed := true }, [])
  | .cleanup => some ({ r with hub := false, sessionClosed := true, channel := false }, [])

end Responder

/-! ## The channel -/

inductive PairSide where
  | initiator
  | responder
  deriving DecidableEq

/-- The two ends, and the frames they have handed to the relay in the clear. -/
structure SecurePair where
  initiator : Initiator
  responder : Responder
  view : List (PairSide × BaseMessage)

inductive PairAction where
  | initiator (event : InitiatorEvent)
  | responder (event : ResponderEvent)

def SecurePair.step (s : SecurePair) : PairAction → Option SecurePair
  | .initiator event =>
    (s.initiator.step event).map fun moved =>
      { s with
        initiator := moved.1
        view := s.view ++ moved.2.map (.initiator, ·) }
  | .responder event =>
    (s.responder.step event).map fun moved =>
      { s with
        responder := moved.1
        view := s.view ++ moved.2.map (.responder, ·) }

def newPair (request : ConnectMessage) : SecurePair where
  initiator := ⟨request, .probe, false, false, false, false, false, false⟩
  responder := ⟨request.channelID, .idle, false, false, false, false⟩
  view := []

/-! ## Erasing destinations and error texts -/

section Erase

def eraseRequest (m : ConnectMessage) : ConnectMessage := { m with address := [], port := 0 }

def eraseData (m : DataMessage) : DataMessage :=
  { m with address := [], port := 0, targetAddr := [], targetPort := 0 }

def eraseMessage : BaseMessage → BaseMessage
  | .connect m => .connect (eraseRequest m)
  | .data m => .data (eraseData m)
  | .disconnect m => .disconnect { m with error := [] }
  | msg => msg

/-- Only that there was an error is left. -/
def eraseText (error : Option GoString) : Option GoString := error.map fun _ => []

def InitiatorPC.erase : InitiatorPC → InitiatorPC
  | .goodbye _ => .goodbye []
  | pc => pc

def Initiator.erase (e : Initiator) : Initiator :=
  { e with request := eraseRequest e.request, pc := e.pc.erase }

def InitiatorEvent.erase : InitiatorEvent → InitiatorEvent
  | .data m reopen write retry => .data (eraseData m) reopen write retry
  | .finish error => .finish (eraseText error)
  | event => event

def ResponderPC.erase : ResponderPC → ResponderPC
  | .dial request => .dial (eraseRequest request)
  | .respond request m => .respond (eraseRequest request) { m with error := [] }
  | .forward request => .forward (eraseRequest request)
  | .goodbye _ => .goodbye []
  | pc => pc

def Responder.erase (r : Responder) : Responder := { r with pc := r.pc.erase }

def ResponderEvent.erase : ResponderEvent → ResponderEvent
  | .request m => .request (eraseRequest m)
  | .dialed error => .dialed (eraseText error)
  | .data m write => .data (eraseData m) write
  | .finish error => .finish (error.map eraseText)
  | event => event

def SecurePair.erase (s : SecurePair) : SecurePair where
  initiator := s.initiator.erase
  responder := s.responder.erase
  view := s.view.map fun frame => (frame.1, eraseMessage frame.2)

def PairAction.erase : PairAction → PairAction
  | .initiator event => .initiator event.erase
  | .responder event => .responder event.erase

/-- What a step leads to, with the frames. -/
def eraseMoved {End : Type} (erase : End → End)
    (moved : End × List BaseMessage) : End × List BaseMessage :=
  (erase moved.1, moved.2.map eraseMessage)

@[simp] theorem getD_eraseText (error : Option GoString) : (eraseText error).getD [] = [] := by
  cases error <;> rfl

namespace Initiator

theorem reopens_erase (e : Initiator) (isData : Bool) : e.erase.reopens isData = e.reopens isData :=
  rfl

theorem frames_erase (e : Initiator) (msg : BaseMessage) (isData : Bool)
    (reopen write : LinkWrite) : e.erase.frames (eraseMessage msg) isData reopen write =
      (e.frames msg isData reopen write).map eraseMessage := by
  rw [frames, frames, reopens_erase]
  split
  · rw [map_append]
    congr 1
    · split <;> rfl
    · have hsealed : e.erase.sealed = e.sealed := rfl
      rw [hsealed]
      split <;> rfl
  · have hsealed : e.erase.sealed = e.sealed := rfl
    rw [hsealed]
    split <;> rfl

theorem wrote_erase (e : Initiator) (isData : Bool) (reopen write : LinkWrite) (retry : Bool) :
    e.erase.wrote isData reopen write retry = ((e.wrote isData reopen write retry).1,
        (e.wrote isData reopen write retry).2.erase) := by
  rw [wrote, wrote, reopens_erase]
  split
  · rfl
  · split <;> rfl

theorem setPC_erase (e : Initiator) (pc : InitiatorPC) :
    (e.setPC pc).erase = e.erase.setPC pc.erase := rfl

theorem connect_erase {e : Initiator} (hpc : e.pc = .connect)
    (reopen write : LinkWrite) (retry : Bool) : e.erase.step (.connect reopen write retry) =
      (e.step (.connect reopen write retry)).map (eraseMoved Initiator.erase) := by
  have hpc' : e.erase.pc = .connect := by rw [erase, hpc]; rfl
  cases hwritable : e.writable with
  | false =>
    have hwritable' : e.erase.writable = false := hwritable
    simp only [step, hpc, hpc', hwritable, hwritable', Bool.not_false, if_true]
    rfl
  | true =>
    have hwritable' : e.erase.writable = true := hwritable
    simp only [step, hpc, hpc', hwritable, hwritable', Bool.not_true,
      Bool.false_eq_true, if_false, wrote_erase, map_some, eraseMoved, setPC_erase, ← frames_erase]
    cases (e.wrote false reopen write retry).1 <;> cases retry <;> rfl

theorem data_erase {e : Initiator} (hpc : e.pc = .forward) (m : DataMessage)
    (reopen write : LinkWrite) (retry : Bool) :
    e.erase.step (.data (eraseData m) reopen write retry) =
      (e.step (.data m reopen write retry)).map (eraseMoved Initiator.erase) := by
  have hpc' : e.erase.pc = .forward := by rw [erase, hpc]; rfl
  by_cases hrefused : (!e.writable ||
      decide (m.channelID ≠ e.request.channelID)) = true
  · have hrefused' : (!e.erase.writable ||
        decide ((eraseData m).channelID ≠ e.erase.request.channelID)) = true := hrefused
    simp only [step, hpc, hpc', if_pos hrefused, if_pos hrefused']
    rfl
  · have hrefused' : ¬ (!e.erase.writable ||
        decide ((eraseData m).channelID ≠ e.erase.request.channelID)) = true := hrefused
    simp only [step, hpc, hpc', if_neg hrefused, if_neg hrefused', wrote_erase,
      map_some, eraseMoved, ← frames_erase]
    rfl

theorem resume_erase (e : Initiator) (write : LinkWrite) : e.erase.step (.resume write) =
      (e.step (.resume write)).map (eraseMoved Initiator.erase) := by
  cases hresume : e.canResume with
  | false =>
    have hresume' : e.erase.canResume = false := hresume
    simp only [step, hresume, hresume', Bool.not_false, if_true]
    rfl
  | true =>
    have hresume' : e.erase.canResume = true := hresume
    simp only [step, hresume, hresume', Bool.not_true, Bool.false_eq_true, if_false]
    obtain ⟨request, pc, sealed, established, sessionClosed, hub, channel, suspended⟩ := e
    cases hub <;> cases write <;> rfl

/-- The entry side does not look at what is erased. -/
theorem step_erase (e : Initiator) (event : InitiatorEvent) :
    e.erase.step event.erase = (e.step event).map (eraseMoved Initiator.erase) := by
  cases event
  case resume write => exact resume_erase e write
  case connect reopen write retry =>
    cases hpc : e.pc with
    | connect => exact connect_erase hpc reopen write retry
    | _ => simp [InitiatorEvent.erase, step, erase, hpc, InitiatorPC.erase]
  case data m reopen write retry =>
    cases hpc : e.pc with
    | forward => exact data_erase hpc m reopen write retry
    | _ => simp [InitiatorEvent.erase, step, erase, hpc, InitiatorPC.erase]
  case finish error =>
    cases hpc : e.pc <;>
      simp [InitiatorEvent.erase, step, erase, hpc, InitiatorPC.erase, setPC, eraseMoved]
  all_goals obtain ⟨request, pc, sealed, established, sessionClosed, hub, channel, suspended⟩ := e
  case probe link => cases pc <;> cases link <;> rfl
  case announce write retry => cases pc <;> cases write <;> cases retry <;> rfl
  case ready => cases pc <;> cases established <;> rfl
  case response success => cases pc <;> cases success <;> rfl
  case goodbye write retry =>
    cases pc <;> cases write <;> cases retry <;> cases channel <;> rfl
  case failed => cases pc <;> rfl
  all_goals rfl

end Initiator

namespace Responder

/-- Neither does the dialing side; its refusals have texts of their own. -/
theorem step_erase (r : Responder) (event : ResponderEvent) :
    (r.erase.step event.erase).map (eraseMoved Responder.erase) =
      (r.step event).map (eraseMoved Responder.erase) := by
  obtain ⟨channelID, pc, established, sessionClosed, hub, channel⟩ := r
  cases event with
  | accept resume write =>
    cases hub <;> cases resume <;> cases write <;> cases pc <;> rfl
  | plainConnect write => cases write <;> cases pc <;> rfl
  | request m =>
    cases pc with
    | idle =>
      by_cases hid : m.channelID = channelID <;> cases established <;>
        simp [ResponderEvent.erase, step, erase, ResponderPC.erase, eraseRequest, eraseMoved, hid]
    | _ => rfl
  | dialed error =>
    cases pc with
    | dial request => cases error <;> rfl
    | _ => rfl
  | respond write retry =>
    cases pc with
    | respond request m =>
      obtain ⟨success, error, id⟩ := m
      cases channel <;> cases established <;> cases sessionClosed <;>
        cases write <;> cases retry <;> cases success <;> rfl
    | _ => rfl
  | data m write =>
    cases pc with
    | forward request =>
      by_cases hid : m.channelID = channelID <;> cases channel <;>
        cases established <;> cases sessionClosed <;>
        simp [ResponderEvent.erase, step, erase, ResponderPC.erase, writable,
          eraseRequest, eraseData, eraseMoved, hid]
    | _ => rfl
  | finish error =>
    cases pc with
    | forward request =>
      cases error with
      | none => rfl
      | some error =>
        by_cases htcp : request.protocol = tcp <;>
          simp [ResponderEvent.erase, step, erase, ResponderPC.erase, setPC,
            eraseRequest, eraseMoved, htcp]
    | _ => cases error <;> rfl
  | goodbye write retry =>
    cases pc <;> cases write <;> cases retry <;> cases channel <;> rfl
  | _ => cases pc <;> rfl

end Responder

theorem Initiator.step_congr {e e' : Initiator} {event event' : InitiatorEvent}
    (he : e.erase = e'.erase) (hevent : event.erase = event'.erase) :
    (e.step event).map (eraseMoved Initiator.erase) =
      (e'.step event').map (eraseMoved Initiator.erase) := by
  rw [← Initiator.step_erase, he, hevent, Initiator.step_erase]

theorem Responder.step_congr {r r' : Responder} {event event' : ResponderEvent}
    (hr : r.erase = r'.erase) (hevent : event.erase = event'.erase) :
    (r.step event).map (eraseMoved Responder.erase) =
      (r'.step event').map (eraseMoved Responder.erase) := by
  rw [← Responder.step_erase, hr, hevent, Responder.step_erase]

/-- A step of the pair, erased, from what its end does, erased. -/
theorem SecurePair.map_erase_step_initiator (s : SecurePair) (event : InitiatorEvent) :
    (s.step (.initiator event)).map SecurePair.erase =
      ((s.initiator.step event).map (eraseMoved Initiator.erase)).map fun moved =>
          ⟨moved.1, s.erase.responder, s.erase.view ++ moved.2.map (.initiator, ·)⟩ := by
  simp only [SecurePair.step, Option.map_map]
  simp [SecurePair.erase, eraseMoved, Function.comp_def]

theorem SecurePair.map_erase_step_responder (s : SecurePair) (event : ResponderEvent) :
    (s.step (.responder event)).map SecurePair.erase =
      ((s.responder.step event).map (eraseMoved Responder.erase)).map fun moved =>
          ⟨s.erase.initiator, moved.1, s.erase.view ++ moved.2.map (.responder, ·)⟩ := by
  simp only [SecurePair.step, Option.map_map]
  simp [SecurePair.erase, eraseMoved, Function.comp_def]

/-- Steps that look the same lead to pairs that look the same. -/
theorem SecurePair.step_congr (s s' : SecurePair) (a a' : PairAction)
    (hs : s.erase = s'.erase) (ha : a.erase = a'.erase) :
    (s.step a).map SecurePair.erase = (s'.step a').map SecurePair.erase := by
  have hinitiator : s.initiator.erase = s'.initiator.erase := congrArg SecurePair.initiator hs
  have hresponder : s.responder.erase = s'.responder.erase := congrArg SecurePair.responder hs
  cases a with
  | initiator event =>
    cases a' with
    | initiator event' =>
      rw [map_erase_step_initiator, map_erase_step_initiator, hs,
        Initiator.step_congr hinitiator (PairAction.initiator.inj ha)]
    | responder event' => cases ha
  | responder event =>
    cases a' with
    | initiator event' => cases ha
    | responder event' =>
      rw [map_erase_step_responder, map_erase_step_responder, hs,
        Responder.step_congr hresponder (PairAction.responder.inj ha)]

end Erase

/-! ## Frames that carry nothing -/

/-- Nothing but the identifier of the channel, and the resume flag. -/
def Bare : BaseMessage → Prop
  | .channelOpen _ => True
  | .disconnect m => m.error = []
  | _ => False

theorem eraseMessage_of_bare {msg : BaseMessage} (h : Bare msg) : eraseMessage msg = msg := by
  cases msg with
  | channelOpen m => rfl
  | disconnect m =>
    obtain ⟨id, error⟩ := m
    have herror : error = [] := h
    rw [herror]
    rfl
  | _ => exact h.elim

def noText (error : Option GoString) : Bool := error.getD [] = []

/-- The version is read while there is a link, a channel is resumed while the
hub has its session, and forwarding ends without an error text. -/
def Initiator.confines (e : Initiator) : InitiatorEvent → Bool
  | .probe link => link
  | .resume _ => e.hub || !e.canResume
  | .finish error => noText error
  | _ => true

/-- The same for the dialing side, which also gets no resume of a channel it
does not know and no Connect in the clear. -/
def Responder.confines (r : Responder) : ResponderEvent → Bool
  | .accept resume _ => r.hub || !resume
  | .plainConnect _ => false
  | .finish error => noText (error.getD none)
  | _ => true

def SecurePair.confines (s : SecurePair) : PairAction → Bool
  | .initiator event => s.initiator.confines event
  | .responder event => s.responder.confines event

/-- The transport is a session, unless there is none yet, and no disconnect has
a text. -/
structure Initiator.Confined (e : Initiator) : Prop where
  sealed : e.sealed = true ∨ e.pc = .probe ∧ e.channel = false
  goodbye : ∀ error, e.pc = .goodbye error → error = []

def Responder.Confined (r : Responder) : Prop := ∀ error, r.pc = .goodbye error → error = []

structure SecurePair.Confined (s : SecurePair) : Prop where
  initiator : s.initiator.Confined
  responder : s.responder.Confined
  view : ∀ frame ∈ s.view, Bare frame.2

section Confined

theorem bare_channelOpen (m : ChannelOpenMessage) (sent : Bool) :
    ∀ frame ∈ (if sent then [.channelOpen m] else []), Bare frame := by
  split <;> simp [Bare]

theorem bare_disconnect (id : UUID) (sent : Bool) :
    ∀ frame ∈ (if sent then [.disconnect ⟨id, []⟩] else []), Bare frame := by
  split <;> simp [Bare]

variable {e : Initiator}

theorem Initiator.frames_bare (hsealed : e.sealed = true)
    (msg : BaseMessage) (isData : Bool) (reopen write : LinkWrite) :
    ∀ frame ∈ e.frames msg isData reopen write, Bare frame := by
  rw [frames, hsealed]
  simp only [Bool.not_true, Bool.and_false, Bool.false_eq_true, if_false, append_nil]
  split
  · exact bare_channelOpen _ _
  · simp

theorem Initiator.wrote_frame (e : Initiator) (isData : Bool)
    (reopen write : LinkWrite) (retry : Bool) :
    (e.wrote isData reopen write retry).2.sealed = e.sealed ∧
      (e.wrote isData reopen write retry).2.pc = e.pc := by
  rw [wrote]
  split
  · exact ⟨rfl, rfl⟩
  · split <;> exact ⟨rfl, rfl⟩

theorem Initiator.Confined.of_pc (hsealed : e.sealed = true)
    (hpc : ∀ error, e.pc ≠ .goodbye error) : e.Confined :=
  ⟨.inl hsealed, fun error herror => absurd herror (hpc error)⟩

theorem Initiator.Confined.sealed_of_pc (h : e.Confined) (hpc : e.pc ≠ .probe) : e.sealed = true :=
  h.sealed.resolve_right fun hprobe => hpc hprobe.1

/-- What the initiator hands to the relay is bare. -/
theorem Initiator.confined_step {event : InitiatorEvent}
    {moved : Initiator × List BaseMessage} (h : e.Confined)
    (hguard : e.confines event = true) (hstep : e.step event = some moved) :
    moved.1.Confined ∧ ∀ frame ∈ moved.2, Bare frame := by
  revert hguard hstep
  fun_cases Initiator.step e event <;> intro hguard hstep <;> cases hstep
  case case1 => exact ⟨.of_pc rfl (by simp), by simp⟩
  case case2 hlink => exact absurd hguard hlink
  case case4 =>
    exact ⟨.of_pc (h.sealed_of_pc (by simp [*])) (by simp [setPC]), bare_channelOpen _ true⟩
  case case5 | case6 =>
    exact ⟨.of_pc (h.sealed_of_pc (by simp [*])) (by simp [*]), bare_channelOpen _ _⟩
  case case15 reopen write retry hpc _ _ pc =>
    have hsealed := h.sealed_of_pc (by simp [hpc])
    refine ⟨.of_pc ?_ ?_, frames_bare hsealed _ _ _ _⟩
    · exact (e.wrote_frame false reopen write retry).1.trans hsealed
    · simp only [setPC, pc]
      split_ifs <;> simp
  case case17 success hpc =>
    refine ⟨.of_pc (h.sealed_of_pc (by simp [hpc])) ?_, by simp⟩
    cases success <;> simp [setPC]
  case case20 m reopen write retry hpc _ =>
    have hsealed := h.sealed_of_pc (by simp [hpc])
    obtain ⟨hsame, hpc'⟩ := e.wrote_frame true reopen write retry
    refine ⟨.of_pc (hsame.trans hsealed) ?_, frames_bare hsealed _ _ _ _⟩
    rw [hpc', hpc]
    simp
  case case22 error hpc =>
    -- a text that the guard makes empty is what the last frame will have
    have htext : error.getD [] = [] := by
      simpa [confines, noText] using hguard
    refine ⟨⟨.inl (h.sealed_of_pc (by simp [hpc])), ?_⟩, by simp⟩
    intro text htext'
    simp only [setPC, InitiatorPC.goodbye.injEq] at htext'
    rw [← htext', htext, ite_self]
  case case24 write retry error hpc =>
    obtain rfl := h.goodbye error hpc
    refine ⟨?_, bare_disconnect _ _⟩
    split
    · exact h
    · exact .of_pc (h.sealed_of_pc (by simp [hpc])) (by simp [setPC])
  case case28 => exact ⟨⟨h.sealed, h.goodbye⟩, bare_channelOpen _ _⟩
  case case29 hresume hhub => simp_all [confines]
  case case33 =>
    refine ⟨⟨?_, h.goodbye⟩, by simp⟩
    obtain hsealed | ⟨hpc, -⟩ := h.sealed
    · exact .inl hsealed
    · exact .inr ⟨hpc, rfl⟩
  case case9 | case12 | case14 =>
    exact ⟨.of_pc (h.sealed_of_pc (by simp [*])) (by simp [setPC]), by simp⟩
  all_goals exact ⟨⟨h.sealed, h.goodbye⟩, by simp⟩

theorem Responder.confined_step {r : Responder} {event : ResponderEvent}
    {moved : Responder × List BaseMessage} (h : r.Confined)
    (hguard : r.confines event = true) (hstep : r.step event = some moved) :
    moved.1.Confined ∧ ∀ frame ∈ moved.2, Bare frame := by
  revert hguard hstep
  fun_cases Responder.step r event <;> intro hguard hstep <;> cases hstep
  case case2 hhub => simp [confines, hhub] at hguard
  case case4 => cases hguard
  case case14 request m _ _ =>
    cases m.success <;> simp [Confined, setPC]
  case case21 request error hpc =>
    have htext : error.getD [] = [] := by
      simpa [confines, noText] using hguard
    refine ⟨?_, by simp⟩
    intro text hpc
    split at hpc <;> cases hpc
    exact htext
  case case24 write retry error hpc =>
    obtain rfl := h error hpc
    constructor <;> dsimp only <;> split
    · exact h
    · simp [Confined, setPC]
    · exact bare_disconnect _ _
    · simp
  case case6 | case9 | case11 | case13 | case16 | case22 =>
    exact ⟨by simp [Confined, setPC], by simp⟩
  all_goals exact ⟨h, by simp⟩

theorem SecurePair.Confined.step {s s' : SecurePair} {a : PairAction}
    (h : s.Confined) (hguard : s.confines a = true) (hstep : s.step a = some s') : s'.Confined := by
  have hview (side : PairSide) (frames : List BaseMessage)
      (hframes : ∀ frame ∈ frames, Bare frame) :
      ∀ frame ∈ s.view ++ frames.map (side, ·), Bare frame.2 := by
    intro frame hframe
    obtain hold | hnew := mem_append.mp hframe
    · exact h.view frame hold
    · obtain ⟨msg, hmsg, rfl⟩ := mem_map.mp hnew
      exact hframes msg hmsg
  cases a with
  | initiator event =>
    obtain ⟨moved, hmoved, rfl⟩ := map_eq_some_iff.mp hstep
    obtain ⟨hconfined, hframes⟩ := Initiator.confined_step h.initiator hguard hmoved
    exact ⟨hconfined, h.responder, hview .initiator moved.2 hframes⟩
  | responder event =>
    obtain ⟨moved, hmoved, rfl⟩ := map_eq_some_iff.mp hstep
    obtain ⟨hconfined, hframes⟩ := Responder.confined_step h.responder hguard hmoved
    exact ⟨h.initiator, hconfined, hview .responder moved.2 hframes⟩

theorem newPair_confined (request : ConnectMessage) : (newPair request).Confined where
  initiator := ⟨.inr ⟨rfl, rfl⟩, by simp [newPair]⟩
  responder := by simp [newPair, Responder.Confined]
  view := by simp [newPair]

/-- There is nothing to erase from bare frames. -/
theorem SecurePair.Confined.view_erase {s : SecurePair} (h : s.Confined) :
    s.erase.view = s.view := by
  have hframe : ∀ frame ∈ s.view, (frame.1, eraseMessage frame.2) = frame := by
    intro frame hframe
    rw [eraseMessage_of_bare (h.view frame hframe)]
  exact (map_congr_left hframe).trans (map_id' _)

theorem run_confined {request : ConnectMessage} {actions : List PairAction} {s : SecurePair}
    (hguard : Guarded SecurePair.step (fun s a => s.confines a = true) (newPair request) actions)
    (hrun : run SecurePair.step (newPair request) actions = some s) : s.Confined :=
  run_invariant (fun _ _ _ h => h.step)
    (newPair_confined request) hguard hrun

end Confined

/-- Two runs of a channel that differ in the destination and in the texts of
local errors only, and whose steps confine them, hand the same frames to the
relay, and these carry nothing but the identifier. -/
theorem run_plainView_independent {request request' : ConnectMessage}
    {actions actions' : List PairAction} {s : SecurePair}
    (hrequest : eraseRequest request = eraseRequest request')
    (hactions : actions.map PairAction.erase = actions'.map PairAction.erase)
    (hguard : Guarded SecurePair.step (fun s a => s.confines a = true) (newPair request) actions)
    (hguard' : Guarded SecurePair.step (fun s a => s.confines a = true) (newPair request') actions')
    (hrun : run SecurePair.step (newPair request) actions = some s) :
    ∃ s', run SecurePair.step (newPair request') actions' = some s' ∧
      s'.view = s.view ∧ ∀ frame ∈ s.view, Bare frame.2 := by
  have hid : request.channelID = request'.channelID := congrArg (·.channelID) hrequest
  have hstart : (newPair request).erase = (newPair request').erase := by
    simp only [newPair, SecurePair.erase, Initiator.erase, hrequest, hid]
  have hmap := run_map_congr SecurePair.step_congr hstart hactions
  rw [hrun, eq_comm] at hmap
  obtain ⟨s', hrun', herase⟩ := map_eq_some_iff.mp hmap
  have hconfined := run_confined hguard hrun
  have hconfined' := run_confined hguard' hrun'
  refine ⟨s', hrun', ?_, hconfined.view⟩
  rw [← hconfined'.view_erase, herase, hconfined.view_erase]

/-- A channel whose dialing side ends as `error` says. -/
def endedRun (request : ConnectMessage) (error : Option GoString) : List PairAction :=
  [.initiator (.probe true), .initiator (.announce .done false), .responder (.accept false .done),
   .initiator .establish, .responder .establish, .initiator .ready,
   .initiator (.connect .done .done false), .responder (.request request),
   .responder (.dialed none), .responder (.respond .done false), .initiator (.response true),
   .responder (.finish (some error)), .responder (.goodbye .done false)]

def requestTo (address : GoString) (port : Int) : ConnectMessage :=
  ⟨tcp, address, port, uuidOf 7, false⟩

theorem requestTo_erase (address address' : GoString) (port port' : Int) :
    eraseRequest (requestTo address port) = eraseRequest (requestTo address' port') := rfl

theorem endedRun_erase (address address' : GoString) (port port' : Int)
    {error error' : Option GoString} (h : eraseText error = eraseText error') :
    (endedRun (requestTo address port) error).map PairAction.erase =
      (endedRun (requestTo address' port') error').map PairAction.erase := by
  simp [endedRun, PairAction.erase, ResponderEvent.erase, requestTo, eraseRequest, h]

theorem endedRun_view_independent : ∃ s s',
      run SecurePair.step (newPair (requestTo (ascii "10.0.0.1") 22))
        (endedRun (requestTo (ascii "10.0.0.1") 22) none) = some s ∧
      run SecurePair.step (newPair (requestTo (ascii "10.0.0.2") 443))
        (endedRun (requestTo (ascii "10.0.0.2") 443) none) = some s' ∧ s'.view = s.view := by
  obtain ⟨s, hrun⟩ : ∃ s,
      run SecurePair.step (newPair (requestTo (ascii "10.0.0.1") 22))
        (endedRun (requestTo (ascii "10.0.0.1") 22) none) = some s :=
    isSome_iff_exists.mp (by decide +kernel)
  obtain ⟨s', hrun', hview, -⟩ := run_plainView_independent
    (requestTo_erase _ (ascii "10.0.0.2") _ 443)
    (endedRun_erase _ (ascii "10.0.0.2") _ 443 rfl)
    (by decide +kernel) (by decide +kernel) hrun
  exact ⟨s, s', hrun, hrun', hview⟩

/-- The error of the connection to the destination names the destination, and
the disconnect carries it. -/
theorem resetRun_view_differs : let near := requestTo (ascii "10.0.0.1") 22
    let far := requestTo (ascii "10.0.0.2") 443
    let nearRun := endedRun near (some
      (ascii "read tcp 10.0.0.9:4000->10.0.0.1:22: connection reset by peer"))
    let farRun := endedRun far (some
      (ascii "read tcp 10.0.0.9:4000->10.0.0.2:443: connection reset by peer"))
    eraseRequest near = eraseRequest far ∧
      nearRun.map PairAction.erase = farRun.map PairAction.erase ∧
      (run SecurePair.step (newPair near) nearRun).map SecurePair.view =
        some [(.initiator, .channelOpen ⟨uuidOf 7, false⟩), (.responder, .disconnect ⟨uuidOf 7,
            ascii "read tcp 10.0.0.9:4000->10.0.0.1:22: connection reset by peer"⟩)] ∧
      (run SecurePair.step (newPair far) farRun).map SecurePair.view =
        some [(.initiator, .channelOpen ⟨uuidOf 7, false⟩), (.responder, .disconnect ⟨uuidOf 7,
            ascii "read tcp 10.0.0.9:4000->10.0.0.2:443: connection reset by peer"⟩)] := by
  refine ⟨requestTo_erase .., endedRun_erase _ _ _ _ (by simp [eraseText]), ?_, ?_⟩
  all_goals decide +kernel

end LinkSocks
