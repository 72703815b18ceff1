import LinkSocks.Go.Machine
import LinkSocks.Go.Word

/-!
# A zone stream and its local connection

Stream data from the other member is queued, and the write loop of the stream writes
it to the local connection.  The reader of the WebSocket handles the messages of the
other member, the read loop of the stream waits for the local end of file, and each of
the three may tear the stream down.  An action below is one critical section, or one
call on the local connection, of one goroutine.

`remoteClose` shuts the local write side as soon as CLOSE has come, whatever is still
queued, and it shuts nothing if no local connection is attached yet.
-/

namespace LinkSocks.Zone

open Go List

/-! ## The queue -/

structure FrameQueue where
  chunks : List Bytes
  bytes : ℕ
  closed : Bool
  limit : ℕ
  deriving DecidableEq

namespace FrameQueue

def empty (limit : ℕ) : FrameQueue := ⟨[], 0, false, limit⟩

/-- `none` while the caller has to wait. -/
def push (q : FrameQueue) (payload : Bytes) : Option (Bool × FrameQueue) :=
  if q.limit ≤ q.bytes ∧ q.closed = false then none
  else if q.closed then some (false, q)
  else some (true, { q with
    chunks := q.chunks ++ [payload]
    bytes := q.bytes + payload.length })

/-- `none` while the caller has to wait. -/
def pop (q : FrameQueue) : Option (Option Bytes × FrameQueue) :=
  match q.chunks with
  | [] => if q.closed then some (none, q) else none
  | payload :: rest =>
    some (some payload, { q with chunks := rest, bytes := q.bytes - payload.length })

def close (q : FrameQueue) : FrameQueue := { q with closed := true }

end FrameQueue

/-! ## The stream -/

/-- What happens to the local connection: bytes of the stream, or of the SOCKS server,
are written, the write side is shut, the connection is closed. -/
inductive LocalEvent where
  | payload (chunk : Bytes)
  | reply (bytes : Bytes)
  | shut
  | closed
  deriving DecidableEq

def LocalEvent.ends : LocalEvent → Bool
  | .payload _ | .reply _ => false
  | .shut | .closed => true

inductive AbortPC where
  | mark
  | closeQueue (hasLocal : Bool)
  | closeLocal
  | discard
  deriving DecidableEq

inductive HandlerPC where
  | idle
  | enqueue (payload : Bytes)
  | closeQueue (hasLocal closed : Bool)
  | closeWrite (hasLocal closed : Bool)
  | abort (pc : AbortPC)
  deriving DecidableEq

inductive WriterPC where
  | unstarted
  | pop
  | write (chunk : Bytes)
  | abort (pc : AbortPC)
  | done
  deriving DecidableEq

inductive ReaderPC where
  | unstarted
  | read
  | closeSent (closed : Bool)
  | abort (pc : AbortPC)
  | done
  deriving DecidableEq

structure ZoneStream where
  queue : FrameQueue
  /-- There is a local connection. -/
  attached : Bool
  localClosed : Bool
  remoteClosed : Bool
  done : Bool
  /-- The stream table has the stream. -/
  inTable : Bool
  handler : HandlerPC
  writer : WriterPC
  reader : ReaderPC
  /-- History: what happened to the local connection, and the payloads queued. -/
  events : List LocalEvent
  queued : List Bytes

/-- What a read of the local connection gives, or the next step after it. -/
inductive ReadResult where
  | bytes (sent : Bool)
  | eof
  | error
  | next

inductive StreamAction where
  /-- A message for the stream: opened data, CLOSE, or RESET.  A stream whose peer has
  left the roster is torn down as by RESET. -/
  | data (payload : Bytes)
  | close
  | reset
  | attach
  | handler
  | writer (ok : Bool)
  | reader (result : ReadResult)

namespace ZoneStream

def start (limit : ℕ) : ZoneStream where
  queue := .empty limit
  attached := false
  localClosed := false
  remoteClosed := false
  done := false
  inTable := true
  handler := .idle
  writer := .unstarted
  reader := .unstarted
  events := []
  queued := []

def log (s : ZoneStream) (e : LocalEvent) : ZoneStream := { s with events := s.events ++ [e] }

def ended (s : ZoneStream) : Bool := s.events.any LocalEvent.ends

/-- `abort`: what is left of it after the next step. -/
def abort (s : ZoneStream) : AbortPC → ZoneStream × Option AbortPC
  | .mark => if s.done then (s, none) else ({ s with done := true }, some (.closeQueue s.attached))
  | .closeQueue hasLocal =>
    ({ s with queue := s.queue.close }, some (if hasLocal then .closeLocal else .discard))
  | .closeLocal => (s.log .closed, some .discard)
  | .discard => ({ s with inTable := false }, none)

def handlerAfter : Option AbortPC → HandlerPC
  | some pc => .abort pc
  | none => .idle

def writerAfter : Option AbortPC → WriterPC
  | some pc => .abort pc
  | none => .done

def readerAfter : Option AbortPC → ReaderPC
  | some pc => .abort pc
  | none => .done

def remoteClose (s : ZoneStream) : ZoneStream :=
  if s.done || s.remoteClosed then s
  else { s with remoteClosed := true, handler := .closeQueue s.attached s.localClosed }

/-- `CloseWrite`, on a connection that may have been closed. -/
def closeWrite (s : ZoneStream) (hasLocal : Bool) : ZoneStream :=
  if hasLocal && !s.ended then s.log .shut else s

def stepHandler (s : ZoneStream) : Option ZoneStream :=
  match s.handler with
  | .idle => none
  | .enqueue payload =>
    match s.queue.push payload with
    | none => none
    | some (true, q) =>
      some { s with queue := q, handler := .idle, queued := s.queued ++ [payload] }
    | some (false, _) => some { s with handler := .idle }
  | .closeQueue hasLocal closed =>
    some { s with queue := s.queue.close, handler := .closeWrite hasLocal closed }
  | .closeWrite hasLocal closed =>
    some { s.closeWrite hasLocal with handler := if closed then .abort .mark else .idle }
  | .abort pc => some { (s.abort pc).1 with handler := handlerAfter (s.abort pc).2 }

/-- A write fails on a connection that was shut, and may fail on any other. -/
def stepWriter (s : ZoneStream) (ok : Bool) : Option ZoneStream :=
  match s.writer with
  | .unstarted | .done => none
  | .pop =>
    match s.queue.pop with
    | none => none
    | some (some chunk, q) => some { s with queue := q, writer := .write chunk }
    | some (none, _) => some { s with writer := .done }
  | .write chunk =>
    if ok && !s.ended then some { s.log (.payload chunk) with writer := .pop }
    else some { s with writer := .abort .mark }
  | .abort pc => some { (s.abort pc).1 with writer := writerAfter (s.abort pc).2 }

def stepReader (s : ZoneStream) (result : ReadResult) : Option ZoneStream :=
  match s.reader, result with
  | .read, .bytes sent => some (if sent then s else { s with reader := .abort .mark })
  | .read, .eof => some { s with localClosed := true, reader := .closeSent s.remoteClosed }
  | .read, .error => some { s with localClosed := true, reader := .abort .mark }
  | .closeSent closed, .next => some { s with reader := if closed then .abort .mark else .done }
  | .abort pc, .next => some { (s.abort pc).1 with reader := readerAfter (s.abort pc).2 }
  | _, _ => none

/-- The handler takes a message, which is for this stream if the table has it. -/
def handle (s : ZoneStream) (next : ZoneStream) : Option ZoneStream :=
  if s.handler = .idle then some (if s.inTable then next else s) else none

def step (s : ZoneStream) : StreamAction → Option ZoneStream
  | .data payload => s.handle { s with handler := .enqueue payload }
  | .close => s.handle s.remoteClose
  | .reset => s.handle { s with handler := .abort .mark }
  | .attach =>
    if s.attached then none
    else some { s with attached := true, writer := .pop, reader := .read }
  | .handler => s.stepHandler
  | .writer ok => s.stepWriter ok
  | .reader result => s.stepReader result

end ZoneStream

/-! ## What was written -/

/-- The payloads written before the write side was shut or the connection closed. -/
def beforeEnd : List LocalEvent → List Bytes
  | [] => []
  | .payload chunk :: rest => chunk :: beforeEnd rest
  | .reply _ :: rest => beforeEnd rest
  | .shut :: _ | .closed :: _ => []

theorem beforeEnd_concat_ends (l : List LocalEvent) {e : LocalEvent} (he : e.ends = true) :
    beforeEnd (l ++ [e]) = beforeEnd l := by
  fun_induction beforeEnd l with
  | case1 => cases e <;> first | rfl | cases he
  | case2 chunk rest ih | case3 bytes rest ih =>
    rw [cons_append, beforeEnd, ih]
  | case4 | case5 => rfl

theorem beforeEnd_concat_payload {l : List LocalEvent} (hl : l.any LocalEvent.ends = false)
    (chunk : Bytes) : beforeEnd (l ++ [.payload chunk]) = beforeEnd l ++ [chunk] := by
  fun_induction beforeEnd l with
  | case1 => rfl
  | case2 chunk rest ih => rw [cons_append, beforeEnd, ih hl, cons_append]
  | case3 bytes rest ih => rw [cons_append, beforeEnd, ih hl]
  | case4 | case5 => cases hl

namespace ZoneStream

/-- The chunk that the write loop has taken out of the queue. -/
def inHand (s : ZoneStream) : List Bytes :=
  match s.writer with
  | .write chunk => [chunk]
  | _ => []

/-! ## The invariant -/

/-- CLOSE comes when the local connection is attached and everything queued is written,
and nothing tears the stream down. -/
def Orderly (s : ZoneStream) : StreamAction → Prop
  | .close => s.remoteClosed = false → s.attached = true ∧ s.queue.chunks = [] ∧ s.writer = .pop
  | .reset => False
  | .writer ok => ok = true
  | .reader .error | .reader (.bytes false) => False
  | _ => True

instance (s : ZoneStream) (action : StreamAction) : Decidable (s.Orderly action) := by
  unfold ZoneStream.Orderly
  split <;> infer_instance

def HandlerOk (s : ZoneStream) : HandlerPC → Prop
  | .idle | .enqueue _ => s.remoteClosed = true → s.ended = true ∧ s.queue.closed = true
  | .closeQueue hasLocal _ => hasLocal = true ∧ s.remoteClosed = true
  | .closeWrite hasLocal _ => hasLocal = true ∧ s.remoteClosed = true ∧ s.queue.closed = true
  | .abort _ => s.remoteClosed = true ∧ s.ended = true ∧ s.queue.closed = true

/-- The read loop ends the stream only after CLOSE. -/
def ReaderOk (s : ZoneStream) : ReaderPC → Prop
  | .closeSent closed => closed = true → s.remoteClosed = true
  | .abort _ => s.remoteClosed = true
  | _ => True

structure Kept (s : ZoneStream) : Prop where
  order : beforeEnd s.events ++ s.inHand ++ s.queue.chunks = s.queued
  ended : s.ended = true → s.remoteClosed = true
  done : s.done = true → s.remoteClosed = true
  /-- After CLOSE the write loop has nothing left to write. -/
  drained : s.remoteClosed = true →
    s.attached = true ∧ s.queue.chunks = [] ∧ (s.writer = .pop ∨ s.writer = .done)
  unstarted : s.attached = false → s.writer = .unstarted
  working : ∀ pc, s.writer ≠ .abort pc
  handler : s.HandlerOk s.handler
  reader : s.ReaderOk s.reader

section Steps

variable {s s' : ZoneStream} {payload : Bytes}

theorem kept_start (limit : ℕ) : (start limit).Kept where
  order := rfl
  ended := nofun
  done := nofun
  drained := nofun
  unstarted := fun _ => rfl
  working := nofun
  handler := nofun
  reader := trivial

theorem ended_log (s : ZoneStream) (e : LocalEvent) : (s.log e).ended = (s.ended || e.ends) := by
  simp [ended, log, any_append]

theorem HandlerOk.mono {pc : HandlerPC} (h : s.HandlerOk pc)
    (hclosed : s'.remoteClosed = s.remoteClosed) (hended : s.ended = true → s'.ended = true)
    (hqueue : s.queue.closed = true → s'.queue.closed = true) : s'.HandlerOk pc := by
  cases pc with
  | idle | enqueue =>
    intro hc
    obtain ⟨hended', hqueue'⟩ := h (hclosed ▸ hc)
    exact ⟨hended hended', hqueue hqueue'⟩
  | closeQueue => exact ⟨h.1, hclosed ▸ h.2⟩
  | closeWrite => exact ⟨h.1, hclosed ▸ h.2.1, hqueue h.2.2⟩
  | abort => exact ⟨hclosed ▸ h.1, hended h.2.1, hqueue h.2.2⟩

theorem ReaderOk.mono {pc : ReaderPC} (h : s.ReaderOk pc)
    (hclosed : s.remoteClosed = true → s'.remoteClosed = true) : s'.ReaderOk pc := by
  cases pc with
  | closeSent => exact fun hc => hclosed (h hc)
  | abort => exact hclosed h
  | unstarted | read | done => trivial

/-! ### Shutting and closing -/

theorem Kept.log (h : s.Kept) (hclosed : s.remoteClosed = true) {e : LocalEvent}
    (he : e.ends = true) : (s.log e).Kept where
  order := by
    change beforeEnd (s.events ++ [e]) ++ s.inHand ++ s.queue.chunks = s.queued
    rw [beforeEnd_concat_ends _ he]
    exact h.order
  ended := fun _ => hclosed
  handler := h.handler.mono rfl (fun hended => by rw [ended_log, hended, Bool.true_or]) id
  __ := h

/-- What `abort` does not change, and what it does not undo. -/
theorem abort_frame (s : ZoneStream) (pc : AbortPC) : (s.abort pc).1.remoteClosed = s.remoteClosed ∧
      (s.ended = true → (s.abort pc).1.ended = true) ∧
      (s.queue.closed = true → (s.abort pc).1.queue.closed = true) := by
  cases pc with
  | mark =>
    rw [ZoneStream.abort]
    split <;> exact ⟨rfl, id, id⟩
  | closeLocal =>
    refine ⟨rfl, fun h => ?_, id⟩
    change (s.log .closed).ended = true
    rw [ended_log, h, Bool.true_or]
  | closeQueue => exact ⟨rfl, id, fun _ => rfl⟩
  | discard => exact ⟨rfl, id, id⟩

theorem Kept.abort (h : s.Kept) (hclosed : s.remoteClosed = true) (pc : AbortPC) :
    (s.abort pc).1.Kept := by
  cases pc with
  | mark =>
    rw [ZoneStream.abort]
    split
    · exact h
    · exact { h with done := fun _ => hclosed }
  | closeQueue hasLocal =>
    exact { h with handler := h.handler.mono rfl id fun _ => rfl }
  | closeLocal => exact h.log hclosed rfl
  | discard => exact { h with }

theorem Kept.closeWrite (h : s.Kept) (hclosed : s.remoteClosed = true) :
    (s.closeWrite true).Kept ∧ (s.closeWrite true).ended = true := by
  rw [ZoneStream.closeWrite]
  split
  · refine ⟨h.log hclosed rfl, ?_⟩
    rw [ended_log, LocalEvent.ends, Bool.or_true]
  · rename_i hended
    exact ⟨h, by simpa using hended⟩

theorem closeWrite_frame (s : ZoneStream) (hasLocal : Bool) :
    (s.closeWrite hasLocal).remoteClosed = s.remoteClosed ∧
      (s.closeWrite hasLocal).queue = s.queue := by
  rw [ZoneStream.closeWrite]
  split <;> exact ⟨rfl, rfl⟩

/-! ### Messages -/

section

variable (h : s.Kept)
include h

theorem Kept.handle {next : ZoneStream} (hs : s.handle next = some s')
    (hnext : s.handler = .idle → next.Kept) : s'.Kept := by
  obtain ⟨hidle, rfl⟩ := of_ite_some hs
  split
  · exact hnext hidle
  · exact h

theorem Kept.data (hidle : s.handler = .idle) : Kept { s with handler := .enqueue payload } := by
  have hok := h.handler
  rw [hidle] at hok
  exact { h with handler := hok }

theorem Kept.remoteClose (hguard : s.Orderly .close) : s.remoteClose.Kept := by
  rw [ZoneStream.remoteClose]
  split
  · exact h
  · rename_i hopen
    simp only [Bool.or_eq_true, not_or, Bool.not_eq_true] at hopen
    obtain ⟨hattached, hchunks, hwriter⟩ := hguard hopen.2
    exact { h with
      ended := fun _ => rfl
      done := fun _ => rfl
      drained := fun _ => ⟨hattached, hchunks, .inl hwriter⟩
      handler := ⟨hattached, rfl⟩
      reader := h.reader.mono fun _ => rfl }

theorem Kept.attach (hattached : s.attached = false) :
    Kept { s with attached := true, writer := .pop, reader := .read } := by
  have hempty : s.inHand = [] := by
    rw [inHand, h.unstarted hattached]
  refine ⟨?_, h.ended, h.done, ?_, nofun, nofun, h.handler, trivial⟩
  · have horder := h.order
    rw [hempty] at horder
    exact horder
  · intro hclosed
    rw [(h.drained hclosed).1] at hattached
    cases hattached

theorem Kept.enqueue (hpc : s.handler = .enqueue payload) {q : FrameQueue}
    (hpush : s.queue.push payload = some (true, q)) :
    Kept { s with queue := q, handler := .idle, queued := s.queued ++ [payload] } := by
  have hok := h.handler
  rw [hpc] at hok
  rw [FrameQueue.push] at hpush
  split_ifs at hpush with _ hclosed <;> cases hpush
  have hnot : s.remoteClosed ≠ true := fun hc => hclosed (hok hc).2
  refine { h with
    order := ?_
    drained := fun hc => absurd hc hnot
    handler := fun hc => absurd hc hnot }
  change beforeEnd s.events ++ s.inHand ++ (s.queue.chunks ++ [payload]) = _
  rw [← append_assoc, h.order]

/-! ### Goroutines -/

theorem Kept.stepHandler (hs : s.stepHandler = some s') : s'.Kept := by
  have hok := h.handler
  revert hs
  fun_cases ZoneStream.stepHandler s <;> intro hs <;> cases hs
  case case3 hpc q hpush => exact h.enqueue hpc hpush
  all_goals
    have hpc := ‹s.handler = _›
    rw [hpc] at hok
  -- a payload that comes after CLOSE is dropped
  case case4 => exact { h with handler := hok }
  case case5 => exact { h with handler := ⟨hok.1, hok.2, rfl⟩ }
  case case6 hasLocal closed _ =>
    obtain ⟨rfl, hclosed, hqueue⟩ := hok
    obtain ⟨hkept, hended⟩ := h.closeWrite hclosed
    obtain ⟨hclosed', hsame⟩ := closeWrite_frame s true
    rw [← hclosed'] at hclosed
    rw [← hsame] at hqueue
    refine { hkept with handler := ?_ }
    cases closed with
    | true => exact ⟨hclosed, hended, hqueue⟩
    | false => exact fun _ => ⟨hended, hqueue⟩
  case case7 pc _ =>
    obtain ⟨hclosed, hended, hqueue⟩ := abort_frame s pc
    refine { h.abort hok.1 pc with handler := ?_ }
    cases (s.abort pc).2 with
    | none => exact fun _ => ⟨hended hok.2.1, hqueue hok.2.2⟩
    | some pc' => exact ⟨hclosed.trans hok.1, hended hok.2.1, hqueue hok.2.2⟩

/-- Only a write loop that was started has something in hand. -/
theorem Kept.attached_of_writer (hwriter : s.writer ≠ .unstarted) :
    s.attached ≠ false := fun hattached => hwriter (h.unstarted hattached)

theorem Kept.pop {ok : Bool} (hpc : s.writer = .pop)
    (hs : s.stepWriter ok = some s') : s'.Kept := by
  have horder := h.order
  rw [inHand, hpc, append_nil] at horder
  have hattached := h.attached_of_writer (by rw [hpc]; nofun)
  rw [stepWriter, hpc] at hs
  dsimp only at hs
  split at hs <;> cases hs
  · rename_i chunk q hpop
    rw [FrameQueue.pop] at hpop
    split at hpop
    · split_ifs at hpop
      cases hpop
    · rename_i rest hchunks
      cases hpop
      have hnot : s.remoteClosed ≠ true := by
        intro hc
        rw [(h.drained hc).2.1] at hchunks
        cases hchunks
      refine { h with
        order := ?_
        drained := fun hc => absurd hc hnot
        unstarted := fun hc => absurd hc hattached
        working := nofun }
      rw [← horder, hchunks, append_assoc]
      rfl
  · refine { h with
      order := ?_
      drained := fun hc => ⟨(h.drained hc).1, (h.drained hc).2.1, .inr rfl⟩
      unstarted := fun hc => absurd hc hattached
      working := nofun }
    change beforeEnd s.events ++ [] ++ s.queue.chunks = s.queued
    rw [append_nil, horder]

/-- The write loop writes the chunk: CLOSE has not come, so the connection is open. -/
theorem Kept.write {chunk : Bytes} (hpc : s.writer = .write chunk)
    (hs : s.stepWriter true = some s') : s'.Kept := by
  have hattached := h.attached_of_writer (by rw [hpc]; nofun)
  have hnot : s.remoteClosed ≠ true := by
    intro hc
    obtain hw | hw := (h.drained hc).2.2
    · cases hpc.symm.trans hw
    · cases hpc.symm.trans hw
  have hopen : s.ended = false := by
    rw [← Bool.not_eq_true]
    exact fun he => hnot (h.ended he)
  rw [stepWriter, hpc] at hs
  simp only [hopen, Bool.not_false, Bool.and_self, if_true, Option.some.injEq] at hs
  subst hs
  refine ⟨?_, ?_, h.done, fun hc => absurd hc hnot, fun hc => absurd hc hattached, nofun,
    h.handler.mono rfl (fun he => absurd (h.ended he) hnot) id, h.reader⟩
  · have horder := h.order
    rw [inHand, hpc] at horder
    change beforeEnd (s.events ++ [.payload chunk]) ++ [] ++ s.queue.chunks = s.queued
    rw [beforeEnd_concat_payload hopen, append_nil]
    exact horder
  · intro he
    change (s.log (.payload chunk)).ended = true at he
    rw [ended_log, hopen] at he
    cases he

theorem Kept.stepWriter {ok : Bool} (hok : ok = true)
    (hs : s.stepWriter ok = some s') : s'.Kept := by
  subst hok
  cases hpc : s.writer with
  | unstarted | done =>
    rw [ZoneStream.stepWriter, hpc] at hs
    cases hs
  | pop => exact h.pop hpc hs
  | write chunk => exact h.write hpc hs
  | abort pc => exact absurd hpc (h.working pc)

theorem Kept.stepReader {result : ReadResult}
    (hguard : s.Orderly (.reader result)) (hs : s.stepReader result = some s') : s'.Kept := by
  have hok := h.reader
  revert hguard hs
  fun_cases ZoneStream.stepReader s result <;> intro hguard hs <;> cases hs
  case case1 sent hpc =>
    cases sent with
    | true => exact h
    | false => exact hguard.elim
  case case2 => exact { h with reader := id }
  case case3 => exact hguard.elim
  case case4 closed hpc =>
    rw [hpc] at hok
    refine { h with reader := ?_ }
    cases closed with
    | true => exact hok rfl
    | false => trivial
  case case5 pc hpc =>
    rw [hpc] at hok
    refine { h.abort hok pc with reader := ?_ }
    cases (s.abort pc).2 with
    | none => trivial
    | some pc' => exact (abort_frame s pc).1.trans hok

/-- Every orderly action. -/
theorem Kept.step {action : StreamAction} (hguard : s.Orderly action)
    (hs : s.step action = some s') : s'.Kept := by
  cases action with
  | data payload => exact h.handle hs h.data
  | close => exact h.handle hs fun _ => h.remoteClose hguard
  | reset => exact hguard.elim
  | attach =>
    rw [ZoneStream.step] at hs
    split at hs <;> cases hs
    rename_i hattached
    exact h.attach (Bool.not_eq_true _ ▸ hattached)
  | handler => exact h.stepHandler hs
  | writer ok => exact h.stepWriter hguard hs
  | reader result => exact h.stepReader hguard hs

end

end Steps

/-- In every run in which CLOSE comes when the connection is attached and all that was
queued is written, and nothing tears the stream down: payloads are written in order;
once the write side is shut or the connection closed, or CLOSE has come, all of them
were written before; and after CLOSE was handled the connection is shut. -/
theorem drained_before_shut (limit : ℕ) (actions : List StreamAction)
    (hguard : Guarded step Orderly (start limit) actions) (t : ZoneStream)
    (hrun : run step (start limit) actions = some t) : beforeEnd t.events <+: t.queued ∧
    (t.ended = true ∨ t.remoteClosed = true → beforeEnd t.events = t.queued) ∧
    (t.remoteClosed = true → t.handler = .idle → t.ended = true) := by
  have h : t.Kept := run_invariant (fun _ _ _ h => h.step) (kept_start limit) hguard hrun
  have horder := h.order
  refine ⟨⟨t.inHand ++ t.queue.chunks, by rw [← append_assoc, horder]⟩, ?_, ?_⟩
  · intro hend
    have hclosed : t.remoteClosed = true := hend.elim h.ended id
    obtain ⟨-, hchunks, hwriter⟩ := h.drained hclosed
    have hempty : t.inHand = [] := by
      obtain hw | hw := hwriter
      · rw [inHand, hw]
      · rw [inHand, hw]
    rw [hempty, hchunks, append_nil, append_nil] at horder
    exact horder
  · intro hclosed hidle
    have hok := h.handler
    rw [hidle] at hok
    exact (hok hclosed).1

/-! ## Runs -/

/-- CLOSE comes while a payload is in the queue. -/
def earlyClose : List StreamAction := [.attach, .data [1], .handler, .close, .handler, .handler]

/-- Data and CLOSE come before the local connection is attached. -/
def lateAttach : List StreamAction :=
  [.data [1], .handler, .close, .handler, .handler, .attach, .writer true, .writer true,
    .writer true]

/-- The write side is shut before the payload is written.  Or the payload is written,
the write loop has ended and the handler is idle, but the connection is open. -/
theorem shut_too_early_or_never : (∃ t ∈ run step (start 4) earlyClose,
      t.ended = true ∧ t.queued = [[1]] ∧ beforeEnd t.events = []) ∧
    ∃ t ∈ run step (start 4) lateAttach,
      t.remoteClosed = true ∧ t.attached = true ∧ t.handler = .idle ∧ t.writer = .done ∧
        t.queued = [[1]] ∧ beforeEnd t.events = [[1]] ∧ t.ended = false := by
  decide +kernel

/-- A full queue, the local end of file, then CLOSE after the last payload. -/
def orderlyClose : List StreamAction :=
  [.data [1, 2, 3, 4], .handler, .attach, .data [5], .writer true, .handler, .writer true,
    .reader .eof, .writer true, .writer true, .reader .next, .close, .handler, .handler,
    .handler, .handler, .writer true, .handler, .handler]

theorem orderlyClose_drained :
    ∃ t, run step (start 4) orderlyClose = some t ∧ t.handler = .idle ∧ t.inTable = false ∧
      t.queued = [[1, 2, 3, 4], [5]] ∧ beforeEnd t.events = t.queued ∧ t.ended = true := by
  obtain ⟨hguard, t, hrun, hclosed, hidle, htable, hqueued⟩ :
      Guarded step Orderly (start 4) orderlyClose ∧ ∃ t ∈ run step (start 4) orderlyClose,
        t.remoteClosed = true ∧ t.handler = .idle ∧ t.inTable = false ∧
          t.queued = [[1, 2, 3, 4], [5]] := by
    decide +kernel
  obtain ⟨-, hwritten, hended⟩ := drained_before_shut 4 _ hguard t hrun
  exact ⟨t, hrun, hidle, htable, hqueued, hwritten (.inr hclosed), hended hclosed hidle⟩

end ZoneStream

end LinkSocks.Zone
