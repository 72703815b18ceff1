import LinkSocks.Zone.Stream

/-!
# The reply to a SOCKS request

The SOCKS server of a member opens a stream for a CONNECT request and attaches the
connection of its client to it.  That starts the write loop of the stream, and only
then does the handler of the request write the reply.  What the other member has sent
by then may be written first.

If the other member sends nothing more and nothing fails before the reply is written,
the reply comes first.
-/

namespace LinkSocks.Zone

open Go List

def socksVersion : UInt8 := 5
def socksSucceeded : UInt8 := 0
def socksAddressIPv4 : UInt8 := 1

/-- What `writeSocksReply` writes. -/
def socksReply (code : UInt8) : Bytes := [socksVersion, code, 0, socksAddressIPv4, 0, 0, 0, 0, 0, 0]

inductive SocksPC where
  | opening
  | attaching
  | replying
  | failing
  | waiting
  | closed
  deriving DecidableEq

/-- The handler has not tried to write its reply. -/
def SocksPC.early : SocksPC → Bool
  | .opening | .attaching | .replying => true
  | .failing | .waiting | .closed => false

structure SocksConnect where
  stream : ZoneStream
  pc : SocksPC

inductive SocksAction where
  | accept
  | attach
  /-- The reply is written, or only its first bytes and then there is an error. -/
  | reply (n : ℕ)
  | closeConn
  /-- `wait` returns, and the connection is closed. -/
  | finish
  | stream (action : StreamAction)

namespace SocksConnect

def start (limit : ℕ) : SocksConnect := ⟨.start limit, .opening⟩

def success : Bytes := socksReply socksSucceeded

/-- `writeSocksReply`: nothing is written to a connection that was shut. -/
def writeReply (s : SocksConnect) (n : ℕ) : SocksConnect :=
  if s.stream.ended then { s with pc := .failing }
  else if success.length ≤ n then ⟨s.stream.log (.reply success), .waiting⟩
  else ⟨s.stream.log (.reply (success.take n)), .failing⟩

def step (s : SocksConnect) : SocksAction → Option SocksConnect
  | .accept => if s.pc = .opening then some { s with pc := .attaching } else none
  | .attach =>
    if s.pc = .attaching then (s.stream.step .attach).map fun stream => ⟨stream, .replying⟩
    else none
  | .reply n => if s.pc = .replying then some (s.writeReply n) else none
  | .closeConn => if s.pc = .failing then some ⟨s.stream.log .closed, .closed⟩ else none
  | .finish =>
    if s.pc = .waiting ∧ s.stream.done = true then some ⟨s.stream.log .closed, .closed⟩
    else none
  | .stream .attach => none
  | .stream action => (s.stream.step action).map fun stream => { s with stream := stream }

end SocksConnect

/-! ## What a step of a stream writes -/

def LocalEvent.bytes : LocalEvent → Bytes
  | .payload bytes | .reply bytes => bytes
  | .shut | .closed => []

/-- The other member sends something, or the local side fails. -/
def StreamAction.disturbs : StreamAction → Bool
  | .data _ | .close | .reset | .reader .error | .reader (.bytes false) => true
  | _ => false

namespace ZoneStream

variable {s s' : ZoneStream} {action : StreamAction}

def written (s : ZoneStream) : Bytes := s.events.flatMap LocalEvent.bytes

theorem events_abort (s : ZoneStream) (pc : AbortPC) : s.events <+: (s.abort pc).1.events := by
  cases pc with
  | mark =>
    rw [ZoneStream.abort]
    split <;> exact prefix_rfl
  | closeLocal => exact prefix_append _ _
  | closeQueue | discard => exact prefix_rfl

theorem events_handle {next : ZoneStream} (hnext : next.events = s.events)
    (h : s.handle next = some s') : s.events <+: s'.events := by
  obtain ⟨-, rfl⟩ := of_ite_some h
  split
  · exact hnext ▸ prefix_rfl
  · exact prefix_rfl

theorem events_stepHandler (h : s.stepHandler = some s') : s.events <+: s'.events := by
  revert h
  fun_cases stepHandler s <;> intro h <;> cases h
  case case6 hasLocal closed hpc =>
    change s.events <+: (s.closeWrite hasLocal).events
    rw [closeWrite]
    split
    · exact prefix_append _ _
    · exact prefix_rfl
  case case7 pc hpc => exact s.events_abort pc
  all_goals exact prefix_rfl

theorem events_stepWriter {ok : Bool} (h : s.stepWriter ok = some s') : s.events <+: s'.events := by
  revert h
  fun_cases stepWriter s ok <;> intro h <;> cases h
  case case6 => exact prefix_append _ _
  case case8 pc hpc => exact s.events_abort pc
  all_goals exact prefix_rfl

theorem events_stepReader {result : ReadResult} (h : s.stepReader result = some s') :
    s.events <+: s'.events := by
  revert h
  fun_cases stepReader s result <;> intro h <;> cases h
  case case1 => split <;> exact prefix_rfl
  case case5 pc hpc => exact s.events_abort pc
  all_goals exact prefix_rfl

/-- What was written stays written. -/
theorem events_step (h : s.step action = some s') : s.events <+: s'.events := by
  cases action with
  | data | reset =>
    refine events_handle ?_ h
    rfl
  | close =>
    refine events_handle ?_ h
    rw [remoteClose]
    split <;> rfl
  | attach =>
    rw [step] at h
    split at h <;> cases h
    exact prefix_rfl
  | handler => exact events_stepHandler h
  | writer ok => exact events_stepWriter h
  | reader result => exact events_stepReader h

/-- Nothing has come and nothing has failed: there is nothing to write, and the local
connection is as it was. -/
structure Untouched (s : ZoneStream) : Prop where
  events : s.events = []
  chunks : s.queue.chunks = []
  openQueue : s.queue.closed = false
  openRemote : s.remoteClosed = false
  handler : s.handler = .idle
  writer : s.writer = .unstarted ∨ s.writer = .pop
  reader : ∀ pc, s.reader ≠ .closeSent true ∧ s.reader ≠ .abort pc

theorem Untouched.stepReader (h : s.Untouched) {result : ReadResult}
    (hquiet : (StreamAction.reader result).disturbs = false)
    (hs : s.stepReader result = some s') : s'.Untouched := by
  revert hs
  fun_cases ZoneStream.stepReader s result <;> intro hs <;> cases hs
  case case1 sent _ =>
    cases sent with
    | true => exact h
    | false => contradiction
  case case2 => exact { h with reader := by simp [h.openRemote] }
  case case3 => contradiction
  case case4 closed hpc =>
    cases closed with
    | true => exact absurd hpc (h.reader .mark).1
    | false => exact { h with reader := by simp }
  case case5 pc hpc => exact absurd hpc (h.reader pc).2

theorem Untouched.step (h : s.Untouched) (hquiet : action.disturbs = false)
    (hs : s.step action = some s') : s'.Untouched := by
  cases action with
  | data | close | reset => contradiction
  | attach =>
    rw [ZoneStream.step] at hs
    split at hs <;> cases hs
    exact { h with writer := .inr rfl, reader := by simp }
  | handler => simp [ZoneStream.step, stepHandler, h.handler] at hs
  | writer ok =>
    -- the write loop waits at the empty queue
    obtain hw | hw := h.writer <;>
      simp [ZoneStream.step, stepWriter, hw, FrameQueue.pop, h.chunks, h.openQueue] at hs
  | reader result => exact h.stepReader hquiet hs

end ZoneStream

/-! ## The order of the writes -/

namespace SocksConnect

variable {s s' : SocksConnect} {action : SocksAction}

/-- Before the handler has tried to write its reply, the other member sends nothing and
the local side does not fail; and the reply is not cut short. -/
def Waits (s : SocksConnect) : SocksAction → Prop
  | .stream a => s.pc.early = true → a.disturbs = false
  | .reply n => success.length ≤ n
  | _ => True

instance (s : SocksConnect) (action : SocksAction) : Decidable (s.Waits action) := by
  unfold SocksConnect.Waits
  split <;> infer_instance

/-- Before the reply nothing is written; once the handler has written, the reply came
first. -/
inductive Kept (s : SocksConnect) : Prop where
  | before (pc : s.pc.early = true) (untouched : s.stream.Untouched)
  | after (pc : s.pc = .waiting ∨ s.pc = .closed) (later : List LocalEvent)
      (events : s.stream.events = .reply success :: later)

theorem kept_start (limit : ℕ) : (start limit).Kept :=
  .before rfl ⟨rfl, rfl, rfl, rfl, rfl, .inl rfl, fun _ => ⟨nofun, nofun⟩⟩

theorem Kept.untouched (h : s.Kept) (hpc : s.pc.early = true) : s.stream.Untouched := by
  cases h with
  | before _ huntouched => exact huntouched
  | after hafter => obtain hafter | hafter := hafter <;> rw [hafter] at hpc <;> cases hpc

theorem Kept.replied (h : s.Kept) (hpc : s.pc.early = false) :
    (s.pc = .waiting ∨ s.pc = .closed) ∧ ∃ later, s.stream.events = .reply success :: later := by
  cases h with
  | before hbefore => rw [hbefore] at hpc; cases hpc
  | after hafter later hevents => exact ⟨hafter, later, hevents⟩

theorem Kept.stream (h : s.Kept) {a : StreamAction} (hguard : s.Waits (.stream a))
    {stream : ZoneStream} (hs : s.stream.step a = some stream) :
    Kept { s with stream := stream } := by
  cases h with
  | before hpc huntouched => exact .before hpc (huntouched.step (hguard hpc) hs)
  | after hpc later hevents =>
    obtain ⟨more, hmore⟩ := ZoneStream.events_step hs
    refine .after hpc (later ++ more) ?_
    rw [← hmore, hevents]
    rfl

/-- A reply that is written in full to an untouched connection is the first thing on it. -/
theorem Kept.writeReply (h : s.Kept) (hpc : s.pc = .replying) {n : ℕ}
    (hn : success.length ≤ n) : (s.writeReply n).Kept := by
  have hevents := (h.untouched (by rw [hpc]; rfl)).events
  have hopen : s.stream.ended = false := by rw [ZoneStream.ended, hevents]; rfl
  rw [SocksConnect.writeReply, hopen, if_pos hn]
  refine .after (.inl rfl) [] ?_
  change s.stream.events ++ _ = _
  rw [hevents]
  rfl

theorem Kept.step (h : s.Kept) (hguard : s.Waits action) (hs : s.step action = some s') :
    s'.Kept := by
  revert hguard hs
  fun_cases SocksConnect.step s action <;> intro hguard hs
  case case1 hpc =>
    cases hs
    exact .before rfl (h.untouched (by rw [hpc]; rfl))
  case case3 hpc =>
    obtain ⟨stream, hstream, rfl⟩ := Option.map_eq_some_iff.mp hs
    exact .before rfl ((h.untouched (by rw [hpc]; rfl)).step rfl hstream)
  case case5 n hpc =>
    cases hs
    exact h.writeReply hpc hguard
  case case7 hpc =>
    obtain ⟨hafter, -⟩ := h.replied (by rw [hpc]; rfl)
    simp [hpc] at hafter
  case case9 hpc =>
    cases hs
    obtain ⟨-, later, hevents⟩ := h.replied (by rw [hpc.1]; rfl)
    refine .after (.inr rfl) (later ++ [.closed]) ?_
    change s.stream.events ++ [.closed] = _
    rw [hevents]
    rfl
  case case12 a _ =>
    obtain ⟨stream, hstream, rfl⟩ := Option.map_eq_some_iff.mp hs
    exact h.stream hguard hstream
  all_goals cases hs

/-- In every run in which, before the reply, the other member sends nothing on the
accepted stream and nothing fails, nothing is written to the client before the handler
writes, and then the complete reply is the first thing written. -/
theorem reply_first (limit : ℕ) (actions : List SocksAction)
    (hguard : Guarded step Waits (start limit) actions) (t : SocksConnect)
    (hrun : run step (start limit) actions = some t) :
    (t.pc.early = true → t.stream.events = []) ∧
    (t.pc.early = false → (∃ later, t.stream.events = .reply success :: later) ∧
      success <+: t.stream.written) := by
  have hkept : t.Kept := run_invariant (fun _ _ _ h => h.step) (kept_start limit) hguard hrun
  refine ⟨fun hpc => (hkept.untouched hpc).events, fun hpc => ?_⟩
  obtain ⟨-, later, hevents⟩ := hkept.replied hpc
  refine ⟨⟨later, hevents⟩, ?_⟩
  rw [ZoneStream.written, hevents]
  exact prefix_append _ _

/-! ## Runs -/

/-- A server that speaks first: its data is handled before the handler attaches. -/
def greeting : List SocksAction :=
  [.accept, .stream (.data [50]), .stream .handler, .attach, .stream (.writer true),
    .stream (.writer true), .reply 10]

/-- The client gets the greeting in front of the reply. -/
theorem greeting_first : ∃ t ∈ run step (start 4) greeting,
      t.pc = .waiting ∧ t.stream.events = [.payload [50], .reply success] ∧
        t.stream.written = 50 :: success := by
  decide +kernel

def answer : List SocksAction :=
  [.accept, .attach, .reply 10, .stream (.reader (.bytes true)), .stream (.data [50]),
    .stream .handler, .stream (.writer true), .stream (.writer true)]

theorem answer_second : ∃ t, run step (start 4) answer = some t ∧ .payload [50] ∈ t.stream.events ∧
      (∃ later, t.stream.events = .reply success :: later) ∧ success <+: t.stream.written := by
  obtain ⟨hguard, t, hrun, hpayload, hpc⟩ : Guarded step Waits (start 4) answer ∧
      ∃ t ∈ run step (start 4) answer, .payload [50] ∈ t.stream.events ∧ t.pc.early = false := by
    decide +kernel
  exact ⟨t, hrun, hpayload, (reply_first 4 _ hguard t hrun).2 hpc⟩

end SocksConnect

end LinkSocks.Zone
