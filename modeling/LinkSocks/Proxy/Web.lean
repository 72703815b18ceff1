import LinkSocks.Go.Machine
import LinkSocks.Wire.Message

/-!
# Web requests

`serveWebRequest` copies the body of a backend response into data frames and sends an end
frame, whether the body was read to its end or a read has failed: only the length in the
response frame tells a body that was cut off from a complete one.  A request can be cancelled
as long as its upload is pending; later, and without a body, no map has its context.
-/

namespace LinkSocks

open Go

/-! ## Streaming the response -/

inductive ReadErr where
  | eof
  | failed
  deriving DecidableEq

/-- One round of the loop: what a read of the body returns, whether the frames that are
sent go through, and whether the request is cancelled then. -/
structure BodyRead where
  chunk : Bytes
  err : Option ReadErr
  dataSent : Bool
  endSent : Bool
  cancelled : Bool

def BodyRead.frames (id : UUID) (r : BodyRead) : List BaseMessage :=
  if r.chunk = [] then [] else [.webData ⟨id, r.chunk, false⟩]

/-- What comes after a round: the call returns, the end frame is sent, which it is for both
errors, or the loop goes on. -/
inductive AfterRead where
  | returned
  | ended (e : ReadErr)
  | again

def BodyRead.after (r : BodyRead) : AfterRead :=
  if r.chunk ≠ [] ∧ r.dataSent = false then .returned
  else
    match r.err with
    | some e => .ended e
    | none => if r.cancelled then .returned else .again

def webEnd (id : UUID) (sent : Bool) : List BaseMessage :=
  if sent then [.webData ⟨id, [], true⟩] else []

/-- The loop of `serveWebRequest`: the frames that it sends, and the error that ends it,
unless it is left before. -/
def copyBody (id : UUID) : List BodyRead → List BaseMessage × Option ReadErr
  | [] => ([], none)
  | r :: rest =>
    match r.after with
    | .returned => (r.frames id, none)
    | .ended e => (r.frames id ++ webEnd id r.endSent, some e)
    | .again => (r.frames id ++ (copyBody id rest).1, (copyBody id rest).2)

/-- `serveWebRequest` from the response of the backend on. -/
def serveResponse (head : Bool) (resp : WebResponseMessage) (sent endSent : Bool)
    (reads : List BodyRead) : List BaseMessage × Option ReadErr :=
  if sent = false then ([], none)
  else if head then (.webResponse resp :: webEnd resp.channelID endSent, some .eof)
  else (.webResponse resp :: (copyBody resp.channelID reads).1, (copyBody resp.channelID reads).2)

/-- The bytes and the error of a sequence of reads. -/
def readAll : List BodyRead → Bytes × Option ReadErr
  | [] => ([], none)
  | r :: rest =>
    match r.err with
    | some e => (r.chunk, some e)
    | none => (r.chunk ++ (readAll rest).1, (readAll rest).2)

/-- The reads of a body with the length that the response announces, which is negative if
it is unknown: if they end with EOF they give the body. -/
structure Delivers (body : Bytes) (length : Int) (reads : List BodyRead) : Prop where
  eof : (readAll reads).2 = some .eof → (readAll reads).1 = body
  announced : 0 ≤ length → body.length = length

/-- A response whose body is read to its end can send these frames. -/
def CompleteFrames (frames : List BaseMessage) : Prop :=
  ∃ resp sent endSent body reads, Delivers body resp.bodyLength reads ∧
    serveResponse false resp sent endSent reads = (frames, some .eof)

/-- The same reads with EOF in place of an error. -/
def BodyRead.asEOF (r : BodyRead) : BodyRead := { r with err := r.err.map fun _ => .eof }

/-- The bytes of the data frames. -/
def dataOf : List BaseMessage → Bytes
  | [] => []
  | .webData m :: rest => m.data ++ dataOf rest
  | _ :: rest => dataOf rest

variable {id : UUID} {resp : WebResponseMessage} {sent endSent : Bool} {reads : List BodyRead}
  {e : ReadErr}

/-- A loop that is not left early has sent everything that was read. -/
theorem readAll_of_copyBody (h : (copyBody id reads).2 = some e) :
    readAll reads = (dataOf (copyBody id reads).1, some e) := by
  induction reads with
  | nil => cases h
  | cons r rest ih =>
    have hend : dataOf (webEnd id r.endSent) = [] := by cases r.endSent <;> rfl
    have hdata : ∀ frames, dataOf (r.frames id ++ frames) = r.chunk ++ dataOf frames := by
      intro frames
      by_cases hchunk : r.chunk = [] <;> simp [BodyRead.frames, hchunk, dataOf]
    rw [copyBody] at h ⊢
    rw [readAll]
    revert h
    fun_cases BodyRead.after r <;> intro h
    case case2 e' herr =>
      cases h
      simp [herr, hdata, hend]
    case case4 herr _ => simp [herr, hdata, ih h]
    all_goals cases h

theorem readAll_of_serveResponse (h : (serveResponse false resp sent endSent reads).2 = some e) :
    ∃ frames, (serveResponse false resp sent endSent reads).1 = .webResponse resp :: frames ∧
      readAll reads = (dataOf frames, some e) := by
  cases sent with
  | false => cases h
  | true => exact ⟨_, rfl, readAll_of_copyBody h⟩

theorem BodyRead.after_asEOF (r : BodyRead) :
    r.asEOF.after = match r.after with
      | .ended _ => .ended .eof
      | other => other := by
  obtain ⟨chunk, err, dataSent, endSent, cancelled⟩ := r
  by_cases hsent : chunk ≠ [] ∧ dataSent = false
  · simp [asEOF, after, hsent]
  · cases err <;> cases cancelled <;> simp only [asEOF, after, hsent] <;> rfl

/-- The loop sends the same frames for an error as for EOF. -/
theorem copyBody_asEOF (id : UUID) (reads : List BodyRead) :
    copyBody id (reads.map .asEOF) =
      ((copyBody id reads).1, (copyBody id reads).2.map fun _ => .eof) := by
  induction reads with
  | nil => rfl
  | cons r rest ih =>
    rw [List.map_cons, copyBody, copyBody, BodyRead.after_asEOF, ih]
    cases r.after <;> rfl

theorem readAll_asEOF (reads : List BodyRead) :
    readAll (reads.map .asEOF) = ((readAll reads).1, (readAll reads).2.map fun _ => .eof) := by
  induction reads with
  | nil => rfl
  | cons r rest ih =>
    rw [List.map_cons, readAll, readAll, ih, BodyRead.asEOF]
    cases r.err <;> rfl

/-- A response whose body was read to its end has been sent completely.  The consumer can tell
a response whose body was cut off from the complete ones if and only if a length is announced
and another number of bytes was read. -/
theorem response_tells {body : Bytes} (h : Delivers body resp.bodyLength reads) :
    ((serveResponse false resp sent endSent reads).2 = some .eof →
      dataOf (serveResponse false resp sent endSent reads).1 = body) ∧
    ((serveResponse false resp sent endSent reads).2 = some .failed →
      (¬ CompleteFrames (serveResponse false resp sent endSent reads).1 ↔
        0 ≤ resp.bodyLength ∧ ((readAll reads).1.length : Int) ≠ resp.bodyLength)) ∧
    dataOf (serveResponse true resp sent endSent reads).1 = [] := by
  refine ⟨fun heof => ?_, fun hfailed => ?_, by cases sent <;> cases endSent <;> rfl⟩
  · obtain ⟨frames, hframes, hread⟩ := readAll_of_serveResponse heof
    rw [hframes, ← h.eof (by rw [hread]), hread]
    rfl
  obtain ⟨frames, hframes, hread⟩ := readAll_of_serveResponse hfailed
  refine ⟨fun hnone => ?_, ?_⟩
  · -- otherwise the same reads with EOF at their end give the frames
    by_contra hlength
    obtain rfl : sent = true := by
      cases sent with
      | false => cases hfailed
      | true => rfl
    refine hnone ⟨resp, true, endSent, (readAll reads).1, reads.map .asEOF, ⟨?_, ?_⟩, ?_⟩
    · simp [readAll_asEOF]
    · exact fun hpos => not_not.mp fun hne => hlength ⟨hpos, hne⟩
    · have herr : (copyBody resp.channelID reads).2 = some .failed := hfailed
      simp [serveResponse, copyBody_asEOF, herr]
  · rintro ⟨hpos, hne⟩ ⟨resp', sent', endSent', body', reads', h', heq⟩
    obtain ⟨frames', hframes', hread'⟩ := readAll_of_serveResponse (congrArg Prod.snd heq)
    rw [heq, hframes] at hframes'
    cases hframes'
    have hwhole := h'.announced hpos
    rw [← h'.eof (by rw [hread']), hread'] at hwhole
    rw [hread] at hne
    exact hne hwhole

/-- A read of one byte, with the given error. -/
def byteRead (err : ReadErr) : List BodyRead := [⟨[7], some err, true, true, false⟩]

def byteResponse (length : Int) (err : ReadErr) : List BaseMessage × Option ReadErr :=
  serveResponse false ⟨UUID.nil, 200, [], length⟩ true true (byteRead err)

/-- A byte that was announced, and one of two bytes that were announced. -/
theorem byteResponse_complete : dataOf (byteResponse 1 .eof).1 = [7] ∧
    ¬ CompleteFrames (byteResponse 2 .failed).1 := by
  have hwhole : Delivers [7] 1 (byteRead .eof) := ⟨fun _ => rfl, fun _ => rfl⟩
  have hcut : Delivers [7, 8] 2 (byteRead .failed) :=
    ⟨by simp [byteRead, readAll], fun _ => rfl⟩
  exact ⟨(response_tells hwhole).1 rfl, ((response_tells hcut).2.1 rfl).mpr (by decide)⟩

/-- If the length is unknown, a body of two bytes that is cut off after the first gives the
frames of a body of one byte. -/
theorem byteResponse_cut : Delivers [7, 8] (-1) (byteRead .failed) ∧
    (byteResponse (-1) .failed).2 = some .failed ∧
    CompleteFrames (byteResponse (-1) .failed).1 := by
  refine ⟨⟨?_, ?_⟩, rfl, ⟨UUID.nil, 200, [], -1⟩, true, true, [7], byteRead .eof, ⟨?_, ?_⟩, rfl⟩ <;>
    simp [byteRead, readAll]

/-! ## Cancelling a request -/

def webBodyLimit : ℕ := 16 * 1024 * 1024

/-- `writeError`. -/
def webError (id : UUID) (status : Int) (message : GoString) : List BaseMessage :=
  [.webResponse ⟨id, status, [(ascii "Content-Type", ascii "text/plain; charset=utf-8"),
      (ascii "Content-Length", ascii (toString message.length))], message.length⟩,
    .webData ⟨id, message, false⟩, .webData ⟨id, [], true⟩]

/-- Where the request of a channel is.  It has an entry in the map of uploads while its body
comes in; then `serveWebRequest` waits for a slot and for the backend, writes an error, or
streams the response. -/
inductive WebPC where
  | idle
  | uploading (body : Bytes)
  | slot
  | backend
  | error (frames : List BaseMessage)
  | response (resp : WebResponseMessage) (head : Bool)
  | copy
  | finish
  | over

/-- A frame for the channel is processed, or the call that serves the request goes on.  `room`
says whether the map of uploads has room, `refuse` that there is no slot or no valid request to
the backend. -/
inductive WebAction where
  | request (hasBody room : Bool)
  | body (data : Bytes) (isEnd : Bool)
  | cancel
  | refuse (status : Int) (message : GoString)
  | next
  | failed
  | respond (resp : WebResponseMessage) (head : Bool)
  | sent (ok : Bool)
  | read (r : BodyRead)

structure WebChannel where
  pc : WebPC
  cancelled : Bool
  /-- History: the frames whose sending has begun. -/
  sent : List BaseMessage

namespace WebChannel

/-- `handleWebRequest`, `handleWebRequestBody`, `cancelPending` and `serveWebRequest`.  Errors
that the first two write are sent before the next frame is read. -/
def step (id : UUID) (c : WebChannel) (a : WebAction) : Option WebChannel :=
  match c.pc, a with
  | .idle, .request false _ => some { c with pc := .slot }
  | .idle, .request true true => some { c with pc := .uploading [] }
  | .idle, .request true false => some { c with
      pc := .over, sent := c.sent ++ webError id 503 (ascii "too many concurrent uploads") }
  | .uploading body, .body data isEnd =>
    if body.length + data.length > webBodyLimit then some ⟨.over, true,
      c.sent ++ webError id 413 (ascii "request body too large")⟩
    else some { c with pc := if isEnd then .slot else .uploading (body ++ data) }
  | .uploading _, .cancel => some { c with pc := .over, cancelled := true }
  | _, .body _ _ | _, .cancel => some c
  | .slot, .refuse status message => some { c with pc := .error (webError id status message) }
  | .slot, .next => some { c with pc := .backend }
  | .backend, .failed => some { c with
      pc := if c.cancelled then .over
        else .error (webError id 502 (ascii "backend request failed")) }
  | .backend, .respond resp head => some { c with pc := .response resp head }
  | .error (m :: rest), .sent _ => some { c with pc := .error rest, sent := c.sent ++ [m] }
  | .error [], .next => some { c with pc := .over }
  | .response resp head, .sent ok => some { c with
      pc := if !ok then .over else if head then .finish else .copy
      sent := c.sent ++ [.webResponse resp] }
  | .copy, .read r => some { c with
      pc := match { r with cancelled := c.cancelled }.after with
        | .returned => .over
        | .ended _ => .finish
        | .again => .copy
      sent := c.sent ++ r.frames id }
  | .finish, .sent _ => some { c with pc := .over, sent := c.sent ++ webEnd id true }
  | _, _ => none

variable {c c' : WebChannel} {a : WebAction}

theorem step_over (h : c.pc = .over) (hstep : c.step id a = some c') : c' = c := by
  obtain ⟨pc, cancelled, sent⟩ := c
  cases h
  cases a <;> cases hstep <;> rfl

/-- A cancel frame that comes while the body is uploaded ends the request: nothing is sent
any more, and no call serves it.  Every other cancel frame has no effect, and unless everything
has been sent, a later run sends a frame. -/
theorem cancel_silences (id : UUID) (c : WebChannel) :
    (∀ body, c.pc = .uploading body → ∀ later t, run (step id) c (.cancel :: later) = some t →
      t = { c with pc := .over, cancelled := true }) ∧
    ((∀ body, c.pc ≠ .uploading body) → c.step id .cancel = some c ∧
      (c.pc ≠ .over → c.pc ≠ .error [] → ∃ later t m,
        run (step id) c (.cancel :: later) = some t ∧ t.sent = c.sent ++ [m])) := by
  obtain ⟨pc, cancelled, sent⟩ := c
  refine ⟨fun body hpc later t hrun => ?_, fun hpc => ?_⟩
  · obtain ⟨c', hcancel, hlater⟩ := run_cons hrun
    cases hpc
    cases hcancel
    refine run_preserves (I := (· = ⟨.over, true, sent⟩)) (fun s a s' hs hstep => ?_) rfl hlater
    rw [step_over (by rw [hs]) hstep, hs]
  · have hstep : step id ⟨pc, cancelled, sent⟩ .cancel = some ⟨pc, cancelled, sent⟩ := by
      cases pc with
      | uploading body => exact absurd rfl (hpc body)
      | _ => rfl
    refine ⟨hstep, fun hover herror => ?_⟩
    let answer : List WebAction := [.respond ⟨id, 200, [], -1⟩ false, .sent true]
    match pc with
    | .uploading body => exact absurd rfl (hpc body)
    | .over => exact absurd rfl hover
    | .error [] => exact absurd rfl herror
    | .idle => exact ⟨.request false true :: .next :: answer, _, _, rfl, rfl⟩
    | .slot => exact ⟨.next :: answer, _, _, rfl, rfl⟩
    | .backend => exact ⟨answer, _, _, rfl, rfl⟩
    | .error (m :: rest) => exact ⟨[.sent true], _, _, rfl, rfl⟩
    | .response resp head => exact ⟨[.sent true], _, _, rfl, rfl⟩
    | .copy => exact ⟨[.read ⟨[0], none, true, true, false⟩], _, _, rfl, rfl⟩
    | .finish => exact ⟨[.sent true], _, _, rfl, rfl⟩

/-- The end of the upload comes after the cancel frame. -/
theorem cancelled_upload : ∃ t ∈ run (step UUID.nil) ⟨.uploading [], false, []⟩
    [.cancel, .body [1] true], t = ⟨.over, true, []⟩ :=
  ⟨_, rfl, (cancel_silences UUID.nil ⟨.uploading [], false, []⟩).1 [] rfl [.body [1] true] _ rfl⟩

/-- What has been sent when the cancel frame comes while the backend works on the request, and
when the backend has answered; the context is not cancelled. -/
def sentAround (before : List WebAction) :
    Option (List BaseMessage × Bool × List BaseMessage) := do
  let c ← run (step UUID.nil) ⟨.idle, false, []⟩ (before ++ [.next, .cancel])
  let t ← run (step UUID.nil) c [.respond ⟨UUID.nil, 200, [], -1⟩ false, .sent true]
  some (c.sent, t.cancelled, t.sent)

/-- A request without a body, and one whose body has ended, get their response. -/
theorem cancelled_served :
    sentAround [.request false true] =
      some ([], false, [.webResponse ⟨UUID.nil, 200, [], -1⟩]) ∧
    sentAround [.request true true, .body [1] true] =
      some ([], false, [.webResponse ⟨UUID.nil, 200, [], -1⟩]) := ⟨rfl, rfl⟩

/-! ## The frames of a request -/

/-- A response and its body, without the end frame. -/
def responseFrames (id : UUID) (resp : WebResponseMessage) (chunks : List Bytes) :
    List BaseMessage :=
  .webResponse resp :: chunks.map (.webData ⟨id, ·, false⟩)

/-- What has been sent in each phase; an error is a response too. -/
def Framed (id : UUID) (c : WebChannel) : Prop :=
  ∃ resp chunks,
    match c.pc with
    | .error rest => c.sent ++ rest = responseFrames id resp chunks ++ webEnd id true
    | .copy | .finish => c.sent = responseFrames id resp chunks
    | .over => c.sent <+: responseFrames id resp chunks ++ webEnd id true
    | _ => c.sent = []

/-- A round of the loop sends one more chunk, or none. -/
theorem responseFrames_read (chunks : List Bytes) (r : BodyRead) :
    ∃ chunks', responseFrames id resp chunks ++ r.frames id = responseFrames id resp chunks' := by
  rw [BodyRead.frames]
  split_ifs
  · exact ⟨chunks, List.append_nil _⟩
  · exact ⟨chunks ++ [r.chunk], by simp [responseFrames]⟩

theorem Framed.step (h : c.Framed id) (hstep : c.step id a = some c') : c'.Framed id := by
  obtain ⟨resp, chunks, h⟩ := h
  revert hstep
  fun_cases WebChannel.step id c a <;> intro hstep <;> cases hstep
  case case7 | case8 => exact ⟨resp, chunks, h⟩
  all_goals simp only [‹c.pc = _›] at h
  case case1 | case2 | case10 | case12 => exact ⟨resp, chunks, h⟩
  case case3 | case4 => exact ⟨_, [_], [], (List.append_nil _).trans (congrArg (· ++ _) h)⟩
  case case5 isEnd _ _ => cases isEnd <;> exact ⟨resp, chunks, h⟩
  case case6 => exact ⟨resp, chunks, h ▸ List.nil_prefix⟩
  case case9 => exact ⟨_, [_], congrArg (· ++ _) h⟩
  case case11 =>
    rw [Framed]
    split_ifs
    · exact ⟨resp, chunks, h ▸ List.nil_prefix⟩
    · exact ⟨_, [_], congrArg (· ++ _) h⟩
  case case13 => exact ⟨resp, chunks, (List.append_assoc ..).trans h⟩
  case case14 => exact ⟨resp, chunks, [], h⟩
  case case15 resp head ok _ =>
    have hsent : c.sent ++ [.webResponse resp] = responseFrames id resp [] :=
      congrArg (· ++ [.webResponse resp]) h
    refine ⟨resp, [], ?_⟩
    cases ok <;> cases head <;> first | exact hsent | exact hsent ▸ List.prefix_append ..
  case case16 r _ =>
    obtain ⟨chunks', hread⟩ := responseFrames_read chunks r
    rw [← h] at hread
    refine ⟨resp, chunks', ?_⟩
    dsimp only
    cases { r with cancelled := c.cancelled }.after <;>
      first | exact hread | exact hread ▸ List.prefix_append ..
  case case17 => exact ⟨resp, chunks, h ▸ List.prefix_rfl⟩

/-- Whatever is refused, fails or is cancelled, the frames of a request are one response, the
chunks of its body and one end frame, up to some point. -/
theorem frames_in_order (actions : List WebAction)
    (hrun : run (step id) ⟨.idle, false, []⟩ actions = some c) :
    ∃ resp chunks, c.sent <+: responseFrames id resp chunks ++ webEnd id true := by
  obtain ⟨resp, chunks, h⟩ : c.Framed id := run_preserves (fun _ _ _ => Framed.step)
    ⟨⟨id, 0, [], 0⟩, [], rfl⟩ hrun
  refine ⟨resp, chunks, ?_⟩
  split at h
  · exact ⟨_, h⟩
  · exact h ▸ List.prefix_append ..
  · exact h ▸ List.prefix_append ..
  · exact h
  · exact h ▸ List.nil_prefix

/-- Two chunks and the end of the body. -/
def servedRequest : List WebAction :=
  [.request false true, .next, .respond ⟨UUID.nil, 200, [], 2⟩ false, .sent true,
    .read ⟨[7], none, true, true, false⟩, .read ⟨[8], some .eof, true, true, false⟩, .sent true]

theorem servedRequest_in_order :
    ∃ c ∈ run (step UUID.nil) ⟨.idle, false, []⟩ servedRequest, c.sent.length = 4 ∧
      ∃ resp chunks, c.sent <+: responseFrames UUID.nil resp chunks ++ webEnd UUID.nil true :=
  ⟨_, rfl, rfl, frames_in_order servedRequest rfl⟩

end WebChannel

end LinkSocks
