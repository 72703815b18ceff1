import LinkSocks.Channel.Ordered

/-!
# Moving a relay channel to the direct path

A channel that was opened over the relay sends its data without numbers.  The end that owns
it switches migration on and resumes it over a direct stream; the other end only follows.
Data without a number is taken in whenever it arrives, so the order of the stream is kept if
and only if nothing comes in over the direct path before the relay path has delivered its
data without numbers.
-/

namespace LinkSocks

open Go LogicalChannelState List Option

/-! ## Data without a number -/

def plainData : BaseMessage → Option DataMessage
  | .data m => if m.sequence = 0 then some m else none
  | _ => none

def plainOf (msgs : List BaseMessage) : List DataMessage := msgs.filterMap plainData

def unnumbered (data : List DataMessage) : List DataMessage := data.filter (·.sequence = 0)

def numbered (data : List DataMessage) : List DataMessage := data.filter (·.sequence ≠ 0)

theorem plainOf_append (msgs later : List BaseMessage) :
    plainOf (msgs ++ later) = plainOf msgs ++ plainOf later := filterMap_append

variable {m : DataMessage}

theorem plainOf_data (h : m.sequence = 0) : plainOf [.data m] = [m] := by
  simp [plainOf, plainData, h]

theorem plainOf_numbered (h : m.sequence ≠ 0) : plainOf [.data m] = [] := by
  simp [plainOf, plainData, h]

theorem plainOf_control {msg : BaseMessage} (h : ∀ m, msg ≠ .data m) : plainOf [msg] = [] := by
  cases msg <;> first | rfl | exact absurd rfl (h _)

theorem exists_of_plainOf_ne_nil {msg : BaseMessage} (h : plainOf [msg] ≠ []) :
    ∃ m, msg = .data m ∧ m.sequence = 0 := by
  cases msg with
  | data m =>
    by_cases hm : m.sequence = 0
    · exact ⟨m, rfl, hm⟩
    · exact absurd (plainOf_numbered hm) h
  | _ => exact absurd rfl h

theorem plainOf_cons (msg : BaseMessage) (msgs : List BaseMessage) :
    plainOf (msg :: msgs) = plainOf [msg] ++ plainOf msgs := plainOf_append [msg] msgs

variable {data : List DataMessage}

theorem unnumbered_concat
    (h : m.sequence = 0) : unnumbered (data ++ [m]) = unnumbered data ++ [m] := by
  simp [unnumbered, h]

theorem unnumbered_concat_numbered
    (h : m.sequence ≠ 0) : unnumbered (data ++ [m]) = unnumbered data := by
  simp [unnumbered, h]

theorem numbered_concat (h : m.sequence ≠ 0) : numbered (data ++ [m]) = numbered data ++ [m] := by
  simp [numbered, h]

theorem numbered_concat_unnumbered
    (h : m.sequence = 0) : numbered (data ++ [m]) = numbered data := by
  simp [numbered, h]

theorem length_numbered_le (data : List DataMessage) : (numbered data).length ≤ data.length :=
  length_filter_le ..

/-- On one wire, data without a number is not behind numbered data. -/
def NotAfterNumbered (first second : BaseMessage) : Prop :=
  plainData second ≠ none → ∀ m, first = .data m → m.sequence = 0

namespace Transfer

def onWire (s : Transfer) (w : Writer) : List BaseMessage := (s.wires w).drop (s.cursor w)

/-- Data without a number that was passed to `WriteMessage` and is not on a
wire yet. -/
def hand (s : Transfer) : List DataMessage :=
  match s.writeMu with
  | none => []
  | some i => plainOf (s.threads i).inHand

/-! ## The condition -/

/-- Callers pass data without numbers, the owner resumes the channel over the stream `d` and the
other end follows, no write fails, and each path delivers in order.  There are numbers left. -/
def upgrades (d : Writer) (s : Transfer) : TransferAction → Bool
  | .call _ (.writeMessage (.data m)) | .call _ (.writeWithTransportGrace m) => m.sequence = 0
  | .call _ (.writeMessage _) => true
  | .call _ (.resume w) => w = d
  | .call _ (.switchToDirect w) => decide (w = d) && !s.channel.resumeOwner
  | .call _ _ => false
  | .step _ (.written ok _) => ok
  | .step _ _ => s.written.length + 1 < 2 ^ 64
  | .acknowledge _ | .close => true
  | .deliver w n _ => n = s.cursor w

/-- Data comes in over another path than the relay `r` only when the relay has
no data without a number left, and for such data there is room. -/
def relayDrained (r : Writer) (s : Transfer) : TransferAction → Bool
  | .deliver w n room =>
    match (s.wires w)[n]? with
    | some (.data m) =>
      (decide (m.sequence ≠ 0) || room) && (decide (w = r) || (plainOf (s.onWire r)).isEmpty)
    | _ => true
  | _ => true

/-! ## The invariant -/

/-- What was written: first without numbers, then numbered from one. -/
structure Stream (s : Transfer) : Prop where
  short : s.written.length < 2 ^ 64
  order : s.written = unnumbered s.written ++ numbered s.written
  sequence : s.channel.sequence = UInt64.ofNat (numbered s.written).length
  numbers : ∀ n m, (numbered s.written)[n]? = some m → m.sequence = UInt64.ofNat (n + 1)
  migration : s.channel.migration = false → numbered s.written = []
  pending : ∀ n m, s.channel.pending.lookup n = some m → m ∈ numbered s.written
  inHand : ∀ i m, .data m ∈ (s.threads i).inHand → m ∈ s.written
  wires : ∀ w m, .data m ∈ s.wires w → m ∈ s.written

/-- What was written without a number is on the queue, on the relay, on the stream or in the
hand of the goroutine that writes it, in this order. -/
structure Flow (r d : Writer) (s : Transfer) : Prop where
  cursor : ∀ w, s.cursor w ≤ (s.wires w).length
  pipe : unnumbered s.queue ++ plainOf (s.onWire r) ++
    plainOf (s.onWire d) ++ s.hand = unnumbered s.written
  elsewhere : ∀ w, w ≠ r → w ≠ d → plainOf (s.onWire w) = []
  sorted : (s.onWire r).Pairwise NotAfterNumbered
  early : s.hand ≠ [] → numbered s.written = []
  owner : s.channel.resumeOwner = true → plainOf (s.onWire d) = []
  relay : s.channel.writer = some r → plainOf (s.onWire d) = []
  received : ∃ k ≤ (numbered s.written).length,
    s.queue = unnumbered s.queue ++ (numbered s.written).take k ∧ s.peer.received = UInt64.ofNat k ∧
      (0 < k → unnumbered s.queue = unnumbered s.written)

def Place (r d : Writer) (s : Transfer) (i : ℕ) : ChannelPC → Prop
  | .idle => True
  | .lock msg _ _ => ∀ m, msg = .data m → m.sequence = 0
  | .assign msg _ _ => s.writeMu = some i ∧ ∀ m, msg = .data m → m.sequence = 0
  | .write call w =>
    s.writeMu = some i ∧ (w = some r ∧ (plainOf [call.msg] ≠ [] → plainOf (s.onWire d) = []) ∨
        w = some d ∧ s.channel.writer ≠ some r ∧
          (plainOf [call.msg] ≠ [] → s.channel.resumeOwner = false))
  | .canResume w => w = d
  | .path w | .enableMigration w => w = d ∧ s.channel.resumeOwner = true
  | .openChannel w => w = d ∧ s.channel.resumeOwner = true ∧ s.channel.migration = true
  | .switchToDirect w resume =>
    w = d ∧ s.channel.resumeOwner = resume ∧ (resume = true → s.channel.migration = true)
  | .replayPending .nothing | .pendingMessages _ .nothing => True
  | .replay _ rest .nothing => ∀ m ∈ rest, m.sequence ≠ 0
  | _ => False

structure Roles (r d : Writer) (s : Transfer) : Prop where
  place : ∀ i, s.Place r d i (s.threads i)
  writer : s.channel.closed = false → s.channel.writer = some r ∨ s.channel.writer = some d
  follows : s.channel.resumeOwner = false → s.channel.migration = false
  resumed : s.channel.resumeOwner = true → s.channel.writer = some d → s.channel.migration = true

structure Upgraded (r d : Writer) (s : Transfer) : Prop where
  stream : s.Stream
  flow : s.Flow r d
  roles : s.Roles r d

structure UpgradeInitial (r : Writer) (s : Transfer) : Prop where
  migration : s.channel.migration = false
  isOpen : s.channel.closed = false
  writer : s.channel.writer = some r
  sequence : s.channel.sequence = 0
  pending : s.channel.pending = ∅
  writeMu : s.writeMu = none
  threads : ∀ i, s.threads i = .idle
  wires : ∀ w, s.wires w = []
  cursor : ∀ w, s.cursor w = 0
  received : s.peer.received = 0
  queue : s.queue = []
  written : s.written = []

theorem upgraded_initial {r d : Writer} {s : Transfer} (hrd : r ≠ d)
    (h : s.UpgradeInitial r) : s.Upgraded r d where
  stream := by
    constructor <;> simp [h.written, h.sequence, h.pending, h.threads, h.wires, numbered,
        unnumbered, ChannelPC.inHand]
  flow := by
    constructor <;> simp [h.written, h.queue, h.wires, h.cursor, h.received, onWire, hand,
        h.writeMu, numbered, unnumbered, plainOf]
  roles := by
    refine ⟨?_, fun _ => .inl h.writer, fun _ => h.migration, ?_⟩
    · intro i
      rw [h.threads]
      trivial
    · intro _ hwriter
      rw [h.writer] at hwriter
      exact absurd (some.inj hwriter) hrd

section Steps

variable {r d : Writer} {s s' : Transfer} {i : ℕ} {msg : BaseMessage}
  {w : Writer} {taken : Bool} {retry : Option DataMessage} {again : Bool}
  {pc : ChannelPC} {channel : LogicalChannelState} {m : DataMessage}

/-! ## What was written -/

section

variable (h : s.Stream)
include h

theorem Stream.pending_written (n : UInt64) (m : DataMessage)
    (hm : s.channel.pending.lookup n = some m) : m ∈ s.written :=
  mem_of_mem_filter (h.pending n m hm)

theorem Stream.of_keepsData (hspec : s.StepSpec s' i (s.threads i))
    (hcore : s'.core = { s with channel := channel }.core)
    (hkeeps : s.channel.KeepsData channel) : s'.Stream := by
  simp only [core, Prod.mk.injEq] at hcore
  obtain ⟨hchannel, -, -, -, hwritten, -, -⟩ := hcore
  have hmem := hspec.mem_written (fun m hm => hwritten ▸ hm) h.pending_written h.inHand h.wires
  refine ⟨?_, ?_, ?_, ?_, ?_, ?_, hmem.1, hmem.2⟩ <;> rw [hwritten]
  · exact h.short
  · exact h.order
  · rw [hchannel, hkeeps.sequence, h.sequence]
  · exact h.numbers
  · intro hmigration
    apply h.migration
    by_contra hon
    rw [Bool.not_eq_false] at hon
    rw [hchannel, hkeeps.migration hon] at hmigration
    cases hmigration
  · rw [hchannel, hkeeps.pending]
    exact h.pending

theorem Stream.assign_sequence (data : DataMessage)
    (hon : s.channel.migration = true) : (s.channel.assign data).2.sequence =
      UInt64.ofNat ((numbered s.written).length + 1) := by
  rw [(assign_on data hon).1, UInt64.ofNat_add, ← h.sequence]
  rfl

theorem Stream.assign_ne_zero (data : DataMessage)
    (hon : s.channel.migration = true) (hshort : s.written.length + 1 < 2 ^ 64) :
    (s.channel.assign data).2.sequence ≠ 0 := by
  have hle := length_numbered_le s.written
  rw [h.assign_sequence data hon]
  exact ofNat_ne_zero (Nat.succ_pos _) (by omega)

theorem Stream.assign {data : DataMessage} (hopen : s.channel.closed = false)
    (hdata : data.sequence = 0) (hshort : s.written.length + 1 < 2 ^ 64)
    (hspec : s.StepSpec (s.assign i (.data data) retry again) i (s.threads i)) :
    (s.assign i (.data data) retry again).Stream := by
  have hwritten := assign_written i data retry again hopen
  have hchannel := assign_channel i data retry again hopen
  have hlength : (s.assign i (.data data) retry again).written.length < 2 ^ 64 := by
    rw [hwritten, length_append]
    exact hshort
  have hmem := hspec.mem_written (fun m => mem_assign_written i data retry again hopen)
    h.pending_written h.inHand h.wires
  cases hmigration : s.channel.migration with
  | false =>
    rw [assign_off data hmigration] at hwritten hchannel
    refine ⟨hlength, ?_, ?_, ?_, ?_, ?_, hmem.1, hmem.2⟩ <;>
      rw [hwritten, numbered_concat_unnumbered hdata]
    · have horder := h.order
      rw [h.migration hmigration, append_nil] at horder
      rw [h.migration hmigration, unnumbered_concat hdata, ← horder, append_nil]
    · rw [hchannel, h.sequence]
    · exact h.numbers
    · exact fun _ => h.migration hmigration
    · rw [hchannel]
      exact h.pending
  | true =>
    have hne := h.assign_ne_zero data hmigration hshort
    obtain ⟨-, hsequence, -⟩ := assign_on data hmigration
    refine ⟨hlength, ?_, ?_, ?_, ?_, ?_, hmem.1, hmem.2⟩ <;> rw [hwritten, numbered_concat hne]
    · rw [unnumbered_concat_numbered hne, ← append_assoc, ← h.order]
    · rw [hchannel, hsequence, length_append, UInt64.ofNat_add, ← h.sequence]
      rfl
    · exact numbers_concat h.numbers (h.assign_sequence data hmigration)
    · intro hoff
      rw [hchannel, (assign_keeps s.channel data).2.1, hmigration] at hoff
      cases hoff
    · intro n m hm
      rw [hchannel] at hm
      rw [mem_append, mem_singleton]
      exact (lookup_assign hmigration hm).imp_left (h.pending n m)

theorem Stream.stepThread {label : ChannelLabel} (hassign : ∀ data retry again,
      s.threads i = .assign (.data data) retry again →
      data.sequence = 0 ∧ s.written.length + 1 < 2 ^ 64)
    (hstep : s.stepThread i (s.threads i) label = some s') : s'.Stream := by
  have hspec := stepThread_spec hstep
  obtain ⟨channel, hcore, hkeeps⟩ | ⟨data, retry, again, hpc, hopen, rfl⟩ := hspec.core
  · exact h.of_keepsData hspec hcore hkeeps
  · obtain ⟨hdata, hshort⟩ := hassign data retry again hpc
    exact h.assign hopen hdata hshort hspec

end

/-! ## Where the data is -/

theorem hand_setThread (h : plainOf pc.inHand = plainOf (s.threads i).inHand) :
    (s.setThread i pc).hand = s.hand := by
  cases hmu : s.writeMu with
  | none => simp [hand, setThread, hmu]
  | some j =>
    by_cases hj : j = i
    · subst hj
      simpa [hand, setThread, hmu] using h
    · simp [hand, setThread, hmu, hj]

/-- A step that leaves the wires alone. -/
theorem Flow.of_wires (h : s.Flow r d) (hwires : s'.wires = s.wires)
    (hcursor : s'.cursor = s.cursor) (howner : s'.channel.resumeOwner = s.channel.resumeOwner)
    (hwriter : s'.channel.writer = some r → s.channel.writer = some r)
    (hpipe : unnumbered s'.queue ++ plainOf (s.onWire r) ++
      plainOf (s.onWire d) ++ s'.hand = unnumbered s'.written)
    (hearly : s'.hand ≠ [] → numbered s'.written = [])
    (hreceived : ∃ k ≤ (numbered s'.written).length,
      s'.queue = unnumbered s'.queue ++ (numbered s'.written).take k ∧
        s'.peer.received = UInt64.ofNat k ∧ (0 < k → unnumbered s'.queue = unnumbered s'.written)) :
    s'.Flow r d := by
  have honWire : s'.onWire = s.onWire := by
    funext w
    rw [onWire, onWire, hwires, hcursor]
  constructor <;> simp -failIfUnchanged only [honWire, hwires, hcursor, howner]
  · exact h.cursor
  · exact hpipe
  · exact h.elsewhere
  · exact h.sorted
  · exact hearly
  · exact h.owner
  · exact fun hrelay => h.relay (hwriter hrelay)
  · exact hreceived

theorem Flow.setThread (h : s.Flow r d)
    (hplain : plainOf pc.inHand = plainOf (s.threads i).inHand) : (s.setThread i pc).Flow r d := by
  have hhand := hand_setThread hplain
  refine h.of_wires rfl rfl rfl id ?_ ?_ h.received <;> rw [hhand]
  · exact h.pipe
  · exact h.early

theorem Flow.setChannel (h : s.Flow r d) (howner : channel.resumeOwner = s.channel.resumeOwner)
    (hwriter : channel.writer = some r → s.channel.writer = some r) :
    { s with channel := channel }.Flow r d :=
  h.of_wires rfl rfl howner hwriter h.pipe h.early h.received

theorem onWire_attempt (hcursor : s.cursor w ≤ (s.wires w).length) :
    (s.attempt w msg true taken).onWire w = s.onWire w ++ [msg] := by
  simp [onWire, attempt, send, drop_append_of_le_length hcursor]

theorem onWire_attempt_of_ne {w w' : Writer}
    (hne : w' ≠ w) : (s.attempt w msg true taken).onWire w' = s.onWire w' := by
  simp [onWire, attempt, send, hne]

theorem onWire_unlock (s : Transfer) (i : ℕ) (pc : ChannelPC) (w : Writer) :
    (s.unlock i pc).onWire w = s.onWire w := rfl

/-- A message that is not data without a number changes nothing for such
data. -/
theorem Flow.plainOf_attempt (h : s.Flow r d) (hmsg : plainOf [msg] = []) (w' : Writer) :
    plainOf ((s.attempt w msg true taken).onWire w') = plainOf (s.onWire w') := by
  by_cases hw : w' = w
  · subst hw
    rw [onWire_attempt (h.cursor w'), plainOf_append, hmsg, append_nil]
  · rw [onWire_attempt_of_ne hw]

theorem Flow.cursor_attempt (h : s.Flow r d) (w : Writer) (msg : BaseMessage)
    (taken : Bool) (w' : Writer) :
    s.cursor w' ≤ ((s.attempt w msg true taken).wires w').length := by
  refine (h.cursor w').trans ?_
  by_cases hw : w' = w
  · subst hw
    simp [Transfer.attempt, send]
  · simp [Transfer.attempt, send, hw]

theorem Flow.attempt (h : s.Flow r d) (hmsg : plainOf [msg] = []) :
    (s.attempt w msg true taken).Flow r d where
  cursor := h.cursor_attempt w msg taken
  pipe := by
    rw [h.plainOf_attempt hmsg, h.plainOf_attempt hmsg]
    exact h.pipe
  elsewhere := by
    intro w' hr hd
    rw [h.plainOf_attempt hmsg]
    exact h.elsewhere w' hr hd
  sorted := by
    by_cases hw : r = w
    · subst hw
      rw [onWire_attempt (h.cursor r), pairwise_append]
      refine ⟨h.sorted, pairwise_singleton .., ?_⟩
      intro first _ second hsecond
      rw [mem_singleton] at hsecond
      subst hsecond
      intro hplain
      cases hdata : plainData second with
      | none => exact absurd hdata hplain
      | some m => simp [plainOf, hdata] at hmsg
    · rw [onWire_attempt_of_ne hw]
      exact h.sorted
  early := h.early
  owner := by
    intro howner
    rw [h.plainOf_attempt hmsg]
    exact h.owner howner
  relay := by
    intro hrelay
    rw [h.plainOf_attempt hmsg]
    exact h.relay hrelay
  received := h.received

theorem Stream.sequence_eq_zero (h : s.Stream) (hnone : numbered s.written = [])
    (hm : m ∈ s.written) : m.sequence = 0 := by
  rw [h.order, hnone, append_nil] at hm
  simpa using (mem_filter.mp hm).2

theorem hand_of_writeMu (hmu : s.writeMu = some i) : s.hand = plainOf (s.threads i).inHand := by
  simp [hand, hmu]

/-- Data without a number goes to the relay while nothing of it is on the
stream, or to the stream. -/
theorem Flow.write_plain {call : WriteCall} (hrd : r ≠ d) (h : s.Flow r d) (hstream : s.Stream)
    (hpc : s.threads i = .write call (some w)) (hmsg : call.msg = .data m)
    (hm : m.sequence = 0) (hplace : s.Place r d i (s.threads i)) :
    ((s.attempt w call.msg true taken).unlock i .idle).Flow r d := by
  have hplain : plainOf [call.msg] = [m] := hmsg ▸ plainOf_data hm
  rw [hpc] at hplace
  obtain ⟨hmu, hplace⟩ := hplace
  have hhand : s.hand = [m] := by
    rw [hand_of_writeMu hmu, hpc]
    exact hplain
  have hnone : numbered s.written = [] := h.early (by simp [hhand])
  have hpipe := h.pipe
  rw [hhand] at hpipe
  have hsame : ∀ w', w' ≠ w → ((s.attempt w call.msg true taken).unlock i .idle).onWire w' =
        s.onWire w' := fun w' hw' => (onWire_unlock ..).trans (onWire_attempt_of_ne hw')
  have hself : ((s.attempt w call.msg true taken).unlock i .idle).onWire w =
      s.onWire w ++ [call.msg] := (onWire_unlock ..).trans (onWire_attempt (h.cursor w))
  obtain ⟨hw, hdirect⟩ | ⟨hw, hwriter, howner⟩ := hplace
  · cases hw
    have hempty := hdirect (by simp [hplain])
    refine ⟨h.cursor_attempt r call.msg taken, ?_, ?_, ?_, ?_, ?_, ?_, h.received⟩
    · rw [hself, hsame d hrd.symm, hempty, plainOf_append, hplain]
      rw [hempty] at hpipe
      simpa [hand, unlock, Transfer.setThread, Transfer.attempt, send] using hpipe
    · intro w' hr hd
      rw [hsame w' hr]
      exact h.elsewhere w' hr hd
    · rw [hself, pairwise_append]
      refine ⟨h.sorted, pairwise_singleton .., ?_⟩
      intro first hfirst _ _ _ m' hm'
      subst hm'
      exact hstream.sequence_eq_zero hnone (hstream.wires r m' (mem_of_mem_drop hfirst))
    · exact fun _ => hnone
    · rw [hsame d hrd.symm]
      exact fun _ => hempty
    · rw [hsame d hrd.symm]
      exact fun _ => hempty
  · cases hw
    refine ⟨h.cursor_attempt d call.msg taken, ?_, ?_, ?_, ?_, ?_, ?_, h.received⟩
    · rw [hself, hsame r hrd, plainOf_append, hplain]
      simpa [hand, unlock, Transfer.setThread, Transfer.attempt, send] using hpipe
    · intro w' hr hd
      rw [hsame w' hd]
      exact h.elsewhere w' hr hd
    · rw [hsame r hrd]
      exact h.sorted
    · exact fun _ => hnone
    · intro hon
      exact absurd (howner (by simp [hplain])) (by simp [show
        s.channel.resumeOwner = true from hon])
    · exact fun hrelay => absurd hrelay hwriter

theorem Flow.setWriteMu {mu : Option ℕ} (h : s.Flow r d) (hhand : s.hand = [])
    (hhand' : { s with writeMu := mu }.hand = []) : { s with writeMu := mu }.Flow r d := by
  refine h.of_wires rfl rfl rfl id ?_ (absurd hhand') h.received
  rw [hhand', ← hhand]
  exact h.pipe

theorem assign_hand (data : DataMessage) (retry : Option DataMessage)
    (again : Bool) (hopen : s.channel.closed = false) (hmu : s.writeMu = some i) :
    (s.assign i (.data data) retry again).hand = plainOf [.data (s.channel.assign data).2] := by
  simp [hand, Transfer.assign, hopen, Transfer.setThread, hmu, ChannelPC.inHand]

/-- The number of data decides where it goes: without one it is in hand, with
one it is the last that is numbered. -/
theorem Flow.assign {data : DataMessage} (h : s.Flow r d) (hstream : s.Stream)
    (hopen : s.channel.closed = false) (hmu : s.writeMu = some i)
    (hpc : s.threads i = .assign (.data data) retry again)
    (hdata : data.sequence = 0) (hshort : s.written.length + 1 < 2 ^ 64) :
    (s.assign i (.data data) retry again).Flow r d := by
  have hwritten := assign_written i data retry again hopen
  have hhand := assign_hand data retry again hopen hmu
  have hold : s.hand = [] := by
    rw [hand_of_writeMu hmu, hpc]
    rfl
  have hpipe := h.pipe
  rw [hold, append_nil] at hpipe
  obtain ⟨hwires, hcursor, hqueue, hpeer⟩ := assign_frame i data retry again hopen
  obtain ⟨howner, -, hwriter, -, -⟩ := assign_keeps s.channel data
  rw [← assign_channel i data retry again hopen] at howner hwriter
  obtain ⟨k, hk, hqueue', hreceived, hall⟩ := h.received
  cases hmigration : s.channel.migration with
  | false =>
    have hnone := hstream.migration hmigration
    rw [assign_off data hmigration] at hwritten hhand
    rw [plainOf_data hdata] at hhand
    have hzero : k = 0 := by
      simpa [hnone] using hk
    refine h.of_wires hwires hcursor howner (hwriter ▸ id) ?_ ?_ ⟨k, ?_⟩ <;>
      simp only [hwritten, hqueue, hpeer, numbered_concat_unnumbered hdata]
    · rw [hhand, unnumbered_concat hdata, hpipe]
    · exact fun _ => hnone
    · exact ⟨hk, hqueue', hreceived, by omega⟩
  | true =>
    have hne := hstream.assign_ne_zero data hmigration hshort
    rw [plainOf_numbered hne] at hhand
    refine h.of_wires hwires hcursor howner (hwriter ▸ id) ?_ (absurd hhand) ⟨k, ?_⟩ <;>
      simp only [hwritten, hqueue, hpeer, unnumbered_concat_numbered hne,
        numbered_concat hne, take_append_of_le_length hk]
    · rw [hhand, append_nil, hpipe]
    · refine ⟨?_, hqueue', hreceived, hall⟩
      rw [length_append]
      exact hk.trans (Nat.le_add_right ..)

/-! ## What arrives -/

theorem onWire_eq_cons (h : (s.wires w)[s.cursor w]? = some msg) :
    s.onWire w = msg :: (s.wires w).drop (s.cursor w + 1) := by
  obtain ⟨hlt, rfl⟩ := List.getElem?_eq_some_iff.mp h
  exact drop_eq_getElem_cons hlt

theorem Stream.accepted {peer : LogicalChannelState} {k : ℕ}
    (h : s.Stream) (hreceived : s.peer.received = UInt64.ofNat k)
    (hk : k ≤ (numbered s.written).length) (hm : m ∈ s.written)
    (hne : m.sequence ≠ 0) (haccept : s.peer.acceptData m.sequence = some peer) :
    (numbered s.written)[k]? = some m ∧ peer.received = UInt64.ofNat (k + 1) := by
  have hmem : m ∈ numbered s.written := mem_filter.mpr ⟨hm, by simpa using hne⟩
  have hshort : (numbered s.written).length < 2 ^ 64 :=
    (length_numbered_le s.written).trans_lt h.short
  exact accepted_next h.numbers hshort hk hreceived hmem haccept

/-- The relay has delivered its data without numbers when numbered data comes
in. -/
theorem Flow.relay_drained {room : Bool}
    (h : s.Flow r d) (hmsg : (s.wires w)[s.cursor w]? = some (.data m)) (hne : m.sequence ≠ 0)
    (hdrained : s.relayDrained r (.deliver w (s.cursor w) room) = true) :
    plainOf (s.onWire r) = [] := by
  simp only [relayDrained, hmsg, Bool.and_eq_true, Bool.or_eq_true,
    decide_eq_true_eq, List.isEmpty_iff] at hdrained
  obtain rfl | hempty := hdrained.2
  · have hsorted := h.sorted
    rw [onWire_eq_cons hmsg] at hsorted ⊢
    rw [plainOf_cons, plainOf_numbered hne, nil_append, plainOf, filterMap_eq_nil_iff]
    intro later hlater
    by_contra hplain
    exact hne ((List.pairwise_cons.mp hsorted).1 later hlater hplain m rfl)
  · exact hempty

/-- Once something is numbered, data without a number is on the queue or on the
relay. -/
theorem Upgraded.plain_settled (h : s.Upgraded r d) (hsome : numbered s.written ≠ []) :
    plainOf (s.onWire d) = [] ∧ s.hand = [] := by
  constructor
  · apply h.flow.owner
    by_contra howner
    rw [Bool.not_eq_true] at howner
    exact hsome (h.stream.migration (h.roles.follows howner))
  · by_contra hhand
    exact hsome (h.flow.early hhand)

section Deliver

variable {w : Writer} {room : Bool} {msg : BaseMessage}

section

variable (room) (hmsg : (s.wires w)[s.cursor w]? = some msg)
include hmsg

theorem onWire_delivered (w' : Writer) :
    s.onWire w' = (if w' = w then [msg] else []) ++ (s.delivered w msg room).onWire w' := by
  rw [delivered_eq]
  by_cases hw : w' = w
  · subst hw
    simpa [onWire] using onWire_eq_cons hmsg
  · simp [onWire, hw]

theorem plainOf_delivered_nil (w' : Writer) (hnil : plainOf (s.onWire w') = []) :
    plainOf ((s.delivered w msg room).onWire w') = [] := by
  rw [onWire_delivered room hmsg, plainOf_append] at hnil
  exact (append_eq_nil_iff.mp hnil).2

theorem plainOf_delivered (hplain : plainOf [msg] = []) (w' : Writer) :
    plainOf ((s.delivered w msg room).onWire w') = plainOf (s.onWire w') := by
  rw [onWire_delivered room hmsg w', plainOf_append]
  split
  · rw [hplain, nil_append]
  · rfl

end

/-- A message is gone from its wire, and what it changed at the receiving end
keeps the data in order. -/
theorem Flow.deliver (h : s.Flow r d) (hmsg : (s.wires w)[s.cursor w]? = some msg)
    (hpipe : unnumbered (s.receive msg room).queue ++ plainOf ((s.delivered w msg room).onWire r) ++
      plainOf ((s.delivered w msg room).onWire d) ++ s.hand = unnumbered s.written)
    (hreceived : ∃ k ≤ (numbered s.written).length,
      (s.receive msg room).queue = unnumbered (s.receive msg room).queue ++
        (numbered s.written).take k ∧ (s.receive msg room).peer.received = UInt64.ofNat k ∧
      (0 < k → unnumbered (s.receive msg room).queue = unnumbered s.written)) :
    (s.delivered w msg room).Flow r d := by
  have hempty := plainOf_delivered_nil room hmsg
  have hsorted := h.sorted
  rw [onWire_delivered room hmsg, pairwise_append] at hsorted
  rw [delivered_eq] at *
  refine ⟨?_, hpipe, fun w' hr hd => hempty w' (h.elsewhere w' hr hd), hsorted.2.1,
    h.early, fun howner => hempty d (h.owner howner),
    fun hrelay => hempty d (h.relay hrelay), hreceived⟩
  refine (Function.forall_update_iff s.cursor
    fun w' n => n ≤ (s.wires w').length).mpr ⟨?_, fun w' _ => h.cursor w'⟩
  exact (List.getElem?_eq_some_iff.mp hmsg).1

theorem Flow.delivered_control (h : s.Flow r d)
    (hmsg : (s.wires w)[s.cursor w]? = some msg) (hcontrol : ∀ m, msg ≠ .data m) :
    (s.delivered w msg room).Flow r d := by
  have hplain := plainOf_delivered room hmsg (plainOf_control hcontrol)
  have hsame : s.receive msg room = s := by
    cases msg <;> first | rfl | exact absurd rfl (hcontrol _)
  refine h.deliver hmsg ?_ ?_ <;> rw [hsame]
  · rw [hplain, hplain]
    exact h.pipe
  · exact h.received

/-- Numbered data is accepted after all data without a number. -/
theorem Upgraded.delivered_numbered {m : DataMessage} (h : s.Upgraded r d)
    (hmsg : (s.wires w)[s.cursor w]? = some (.data m)) (hne : m.sequence ≠ 0)
    (hdrained : s.relayDrained r (.deliver w (s.cursor w) room) = true) :
    (s.delivered w (.data m) room).Flow r d := by
  have hplain := plainOf_delivered room hmsg (plainOf_numbered hne)
  have hm : m ∈ s.written := h.stream.wires w m (mem_of_getElem? hmsg)
  obtain ⟨k, hk, hqueue, hreceived, hall⟩ := h.flow.received
  have hpipe := h.flow.pipe
  -- nothing changes unless the number is the next and there is room
  by_cases hsame : (s.receive (.data m) room).queue = s.queue ∧
      (s.receive (.data m) room).peer = s.peer
  · refine h.flow.deliver hmsg ?_ ?_ <;> rw [hsame.1]
    · rw [hplain, hplain]
      exact hpipe
    · rw [hsame.2]
      exact h.flow.received
  · cases haccept : s.peer.acceptData m.sequence with
    | none => simp [receive, deliverData, haccept] at hsame
    | some peer =>
      cases room with
      | false =>
        simp [receive, deliverData, haccept, rejectData_of_acceptData haccept] at hsame
      | true =>
        obtain ⟨hnext, hreceived'⟩ := h.stream.accepted hreceived hk hm hne haccept
        have hsome : numbered s.written ≠ [] := by
          intro hnone
          simp [hnone] at hnext
        obtain ⟨hdirect, hhand⟩ := h.plain_settled hsome
        have hrelay := h.flow.relay_drained hmsg hne hdrained
        have hreceive : s.receive (.data m) true =
            { s with peer := peer, queue := s.queue ++ [m] } := by
          simp [receive, deliverData, haccept]
        rw [hrelay, hdirect, hhand] at hpipe
        simp only [append_nil] at hpipe
        refine h.flow.deliver hmsg ?_
          ⟨k + 1, (List.getElem?_eq_some_iff.mp hnext).1, ?_, ?_, ?_⟩ <;>
          simp only [hreceive, unnumbered_concat_numbered hne]
        · rw [hplain, hplain, hrelay, hdirect, hhand]
          simpa using hpipe
        · rw [take_add_one, hnext, ← append_assoc, ← hqueue]
          rfl
        · exact hreceived'
        · exact fun _ => hpipe

/-- Data without a number is accepted before any numbered data. -/
theorem Upgraded.delivered_plain {m : DataMessage} (hrd : r ≠ d)
    (h : s.Upgraded r d) (hmsg : (s.wires w)[s.cursor w]? = some (.data m)) (hm : m.sequence = 0)
    (hdrained : s.relayDrained r (.deliver w (s.cursor w) room) = true) :
    (s.delivered w (.data m) room).Flow r d := by
  have honWire := onWire_delivered room hmsg
  simp only [relayDrained, hmsg, hm, ne_eq, not_true_eq_false, decide_false,
    Bool.false_or, Bool.and_eq_true, Bool.or_eq_true, decide_eq_true_eq,
    List.isEmpty_iff] at hdrained
  obtain ⟨rfl, hturn⟩ := hdrained
  have hreceive : s.receive (.data m) true = { s with queue := s.queue ++ [m] } := by
    simp [receive, deliverData, hm, acceptData_unsequenced]
  have hpipe : unnumbered (s.queue ++ [m]) ++ plainOf ((s.delivered w (.data m) true).onWire r) ++
      plainOf ((s.delivered w (.data m) true).onWire d) ++ s.hand = unnumbered s.written := by
    rw [unnumbered_concat hm, ← h.flow.pipe, honWire r, honWire d]
    by_cases hr : r = w
    · subst hr
      rw [if_pos rfl, if_neg hrd.symm, plainOf_append, plainOf_data hm]
      simp
    · rw [if_neg hr]
      by_cases hd : d = w
      · subst hd
        have hempty := hturn.resolve_left (Ne.symm hr)
        rw [honWire r, if_neg hr, nil_append] at hempty
        rw [if_pos rfl, plainOf_append [BaseMessage.data m], plainOf_data hm,
          List.nil_append, hempty]
        simp
      · have hnone := h.flow.elsewhere w (Ne.symm hr) (Ne.symm hd)
        rw [honWire w, if_pos rfl, plainOf_append, plainOf_data hm] at hnone
        simp at hnone
  obtain ⟨k, hk, hqueue, hreceived, hall⟩ := h.flow.received
  have hzero : k = 0 := by
    by_contra hk'
    have hlength := congrArg length hpipe
    rw [← hall (Nat.pos_of_ne_zero hk'), unnumbered_concat hm] at hlength
    simp at hlength
  subst hzero
  refine h.flow.deliver hmsg ?_ ⟨0, Nat.zero_le _, ?_⟩ <;> rw [hreceive]
  · exact hpipe
  · refine ⟨?_, hreceived, by omega⟩
    rw [unnumbered_concat hm]
    simpa using hqueue

end Deliver

/-! ## Where the goroutines are -/

theorem Place.mono {j : ℕ} (h : s.Place r d j pc)
    (howner : s'.channel.resumeOwner = s.channel.resumeOwner)
    (hmigration : s.channel.migration = true → s'.channel.migration = true)
    (hmu : s.writeMu = some j → s'.writeMu = some j ∧
      (s'.channel.writer = some r → s.channel.writer = some r) ∧
      (plainOf (s.onWire d) = [] → plainOf (s'.onWire d) = [])) : s'.Place r d j pc := by
  unfold Place at h
  split at h
  · trivial
  · exact h
  · exact ⟨(hmu h.1).1, h.2⟩
  · obtain ⟨hholds, ⟨hw, hdirect⟩ | ⟨hw, hwriter, hplain⟩⟩ := h
    · obtain ⟨hmu', -, hempty⟩ := hmu hholds
      exact ⟨hmu', .inl ⟨hw, fun hne => hempty (hdirect hne)⟩⟩
    · obtain ⟨hmu', hrelay, -⟩ := hmu hholds
      exact ⟨hmu', .inr ⟨hw, fun hr => hwriter (hrelay hr), fun hne => howner.trans (hplain hne)⟩⟩
  · exact h
  · exact ⟨h.1, howner.trans h.2⟩
  · exact ⟨h.1, howner.trans h.2⟩
  · exact ⟨h.1, howner.trans h.2.1, hmigration h.2.2⟩
  · exact ⟨h.1, howner.trans h.2.1, fun hresume => hmigration (h.2.2 hresume)⟩
  · trivial
  · trivial
  · exact h
  · exact h.elim

theorem Roles.setThread (h : s.Roles r d)
    (hplace : s.Place r d i pc) : (s.setThread i pc).Roles r d where
  place := by
    intro j
    by_cases hj : j = i
    · subst hj
      rw [setThread_self]
      exact hplace.mono rfl id fun hmu => ⟨hmu, id, id⟩
    · rw [setThread_of_ne s pc hj]
      exact (h.place j).mono rfl id fun hmu => ⟨hmu, id, id⟩
  writer := h.writer
  follows := h.follows
  resumed := h.resumed

theorem Roles.attempt (h : s.Roles r d) (hflow : s.Flow r d) (hmsg : plainOf [msg] = []) :
    (s.attempt w msg true taken).Roles r d where
  place := by
    intro j
    refine (h.place j).mono rfl id fun hmu => ⟨hmu, id, ?_⟩
    rw [hflow.plainOf_attempt hmsg]
    exact id
  writer := h.writer
  follows := h.follows
  resumed := h.resumed

theorem Roles.setChannel (h : s.Roles r d) (hkeeps : s.channel.KeepsData channel)
    (hrelay : channel.writer = some r → s.channel.writer = some r)
    (hwriter : channel.closed = false → channel.writer = some r ∨ channel.writer = some d)
    (hfollows : channel.resumeOwner = false → channel.migration = false)
    (hresumed : channel.resumeOwner = true → channel.writer = some d → channel.migration = true) :
    { s with channel := channel }.Roles r d where
  place := fun j => (h.place j).mono hkeeps.resumeOwner hkeeps.migration
    fun hmu => ⟨hmu, hrelay, id⟩
  writer := hwriter
  follows := hfollows
  resumed := hresumed

theorem Roles.lock (h : s.Roles r d) (hfree : s.writeMu = none)
    (hplace : { s.setThread i pc with writeMu := some i }.Place r d i pc) :
    { s.setThread i pc with writeMu := some i }.Roles r d where
  place := by
    intro j
    by_cases hj : j = i
    · subst hj
      simpa using hplace
    · have hthread : (s.setThread i pc).threads j = s.threads j := setThread_of_ne s pc hj
      rw [hthread]
      refine (h.place j).mono rfl id fun hmu => ?_
      cases hfree.symm.trans hmu
  writer := h.writer
  follows := h.follows
  resumed := h.resumed

/-- The goroutine that holds `writeMu` moves to `pc` or returns, and no other
depends on what it has changed. -/
theorem Roles.of_holder (h : s.Roles r d) (hmu : s.writeMu = some i)
    (howner : s'.channel.resumeOwner = s.channel.resumeOwner)
    (hmigration : s'.channel.migration = s.channel.migration)
    (hwriter : s'.channel.writer = s.channel.writer)
    (hclosed : s'.channel.closed = s.channel.closed)
    (hothers : ∀ j, j ≠ i → s'.threads j = s.threads j)
    (hplace : s'.Place r d i (s'.threads i)) : s'.Roles r d where
  place := by
    intro j
    by_cases hj : j = i
    · exact hj ▸ hplace
    · rw [hothers j hj]
      refine (h.place j).mono howner (fun h => hmigration.trans h) fun hmu' => ?_
      cases hmu.symm.trans hmu'
      exact absurd rfl hj
  writer := by
    rw [hclosed, hwriter]
    exact h.writer
  follows := by
    rw [howner, hmigration]
    exact h.follows
  resumed := by
    rw [howner, hwriter, hmigration]
    exact h.resumed

theorem Flow.roles_setThread (hflow : s.Flow r d) (hroles : s.Roles r d)
    (hplain : plainOf pc.inHand = plainOf (s.threads i).inHand) (hplace : s.Place r d i pc) :
    (s.setThread i pc).Flow r d ∧ (s.setThread i pc).Roles r d :=
  ⟨hflow.setThread hplain, hroles.setThread hplace⟩

theorem plainOf_replay {rest : List DataMessage} (h : ∀ m ∈ rest, m.sequence ≠ 0) :
    plainOf (ChannelPC.replay w rest .nothing).inHand = [] := by
  simpa [ChannelPC.inHand, AfterSwitch.inHand, plainOf, plainData] using h

/-! ## Steps -/

theorem Flow.unlock (h : s.Flow r d) (hmu : s.writeMu = some i)
    (hplain : plainOf (s.threads i).inHand = []) : (s.unlock i .idle).Flow r d := by
  have hflow : (s.setThread i .idle).Flow r d := h.setThread (hplain ▸ rfl)
  refine hflow.setWriteMu ?_ rfl
  rw [hand_setThread (hplain ▸ rfl), hand_of_writeMu hmu, hplain]

theorem Roles.unlock (h : s.Roles r d) (hmu : s.writeMu = some i) :
    (s.unlock i .idle).Roles r d := by
  refine h.of_holder hmu rfl rfl rfl rfl (fun j => setThread_of_ne s .idle) ?_
  rw [Transfer.unlock, setThread_self]
  trivial

theorem switch_writer {c c' : LogicalChannelState}
    {path : ChannelPath} (h : c.switch w path = some c') :
    c'.writer = some w ∧ c'.migration = c.migration := by
  rw [LogicalChannelState.switch] at h
  split at h <;> cases h
  exact ⟨rfl, rfl⟩

/-- The critical section of a write, with a number or without one. -/
theorem Upgraded.assign (hrd : r ≠ d) (h : s.Upgraded r d)
    (hpc : s.threads i = .assign msg retry again) (hshort : s.written.length + 1 < 2 ^ 64) :
    (s.assign i msg retry again).Flow r d ∧ (s.assign i msg retry again).Roles r d := by
  have hplace := h.roles.place i
  rw [hpc] at hplace
  obtain ⟨hmu, hunnumbered⟩ := hplace
  have hnothing : plainOf (s.threads i).inHand = [] := by
    rw [hpc]
    rfl
  cases hopen : s.channel.closed with
  | true =>
    rw [assign_closed hopen]
    exact ⟨h.flow.unlock hmu hnothing, h.roles.unlock hmu⟩
  | false =>
    -- where the message goes is read in the same critical section
    have hwrite : ∀ call : WriteCall, (s.channel.migration = true → plainOf [call.msg] = []) →
        s.Place r d i (.write call s.channel.writer) := by
      intro call hcall
      refine ⟨hmu, ?_⟩
      obtain hwriter | hwriter := h.roles.writer hopen
      · exact .inl ⟨hwriter, fun _ => h.flow.relay hwriter⟩
      · refine .inr ⟨hwriter, ?_, fun hne => ?_⟩
        · rw [hwriter]
          exact fun heq => hrd (some.inj heq).symm
        · by_contra howner
          rw [Bool.not_eq_false] at howner
          exact hne (hcall (h.roles.resumed howner hwriter))
    by_cases hmsg : ∃ data, msg = .data data
    · obtain ⟨data, rfl⟩ := hmsg
      have hdata := hunnumbered data rfl
      refine ⟨h.flow.assign h.stream hopen hmu hpc hdata hshort, ?_⟩
      have hkeeps := assign_keeps s.channel data
      rw [← assign_channel i data retry again hopen] at hkeeps
      obtain ⟨howner, hmigration, hwriter, -, hclosed⟩ := hkeeps
      have hframe : (s.assign i (.data data) retry again).threads i =
            .write ⟨.data (s.channel.assign data).2, s.channel.migration, retry⟩ s.channel.writer ∧
          (s.assign i (.data data) retry again).writeMu = s.writeMu ∧
          (s.assign i (.data data) retry again).onWire d = s.onWire d := by
        simp [Transfer.assign, hopen, Transfer.setThread, onWire]
      obtain ⟨hthread, hmu', honWire⟩ := hframe
      refine h.roles.of_holder hmu howner hmigration hwriter hclosed assign_stepSpec.others ?_
      rw [hthread]
      refine (hwrite _ fun hon => ?_).mono howner (fun hon => hmigration.trans hon)
        fun _ => ⟨hmu'.trans hmu, fun hr => hwriter ▸ hr, ?_⟩
      · exact plainOf_numbered (h.stream.assign_ne_zero data hon hshort)
      · rw [honWire]
        exact id
    · rw [not_exists] at hmsg
      rw [assign_control hopen hmsg]
      refine h.flow.roles_setThread h.roles ?_ (hwrite _ fun _ => ?_)
      · rw [hnothing]
        exact plainOf_control hmsg
      · exact plainOf_control hmsg

theorem Upgraded.write {call : WriteCall} (hrd : r ≠ d) (h : s.Upgraded r d)
    (hpc : s.threads i = .write call (some w)) :
    ((s.attempt w call.msg true taken).unlock i .idle).Flow r d ∧
      ((s.attempt w call.msg true taken).unlock i .idle).Roles r d := by
  have hplace := h.roles.place i
  have hmu : s.writeMu = some i := by
    rw [hpc] at hplace
    exact hplace.1
  constructor
  · by_cases hplain : plainOf [call.msg] = []
    · refine (h.flow.attempt hplain).unlock hmu ?_
      rw [attempt_threads, hpc]
      exact hplain
    · obtain ⟨m, hmsg, hm⟩ := exists_of_plainOf_ne_nil hplain
      exact h.flow.write_plain hrd h.stream hpc hmsg hm hplace
  · refine h.roles.of_holder hmu rfl rfl rfl rfl (fun j => setThread_of_ne _ .idle) ?_
    rw [Transfer.unlock, setThread_self]
    trivial

theorem Upgraded.lock (h : s.Upgraded r d)
    (hpc : s.threads i = .lock msg retry again) (hfree : s.writeMu = none) :
    { s.setThread i (.assign msg retry again) with writeMu := some i }.Flow r d ∧
      { s.setThread i (.assign msg retry again) with writeMu := some i }.Roles
        r d := by
  have hplace := h.roles.place i
  rw [hpc] at hplace
  refine ⟨(h.flow.setThread ?_).setWriteMu ?_ ?_, h.roles.lock hfree ⟨rfl, hplace⟩⟩
  · rw [hpc]
    rfl
  · simp [hand, Transfer.setThread, hfree]
  · simp [hand, Transfer.setThread, ChannelPC.inHand, plainOf]

theorem Stream.pending_ne_zero (h : s.Stream) :
    ∀ m ∈ s.channel.pendingMessages, m.sequence ≠ 0 := by
  intro m hm
  obtain ⟨n, hn⟩ := mem_pendingMessages.mp hm
  simpa using (mem_filter.mp (h.pending n m hn)).2

/-- The channel changes over to the stream. -/
theorem Upgraded.switchToDirect {resume : Bool} (hrd : r ≠ d)
    (h : s.Upgraded r d) (hpc : s.threads i = .switchToDirect w resume)
    (hstep : s.stepThread i (.switchToDirect w resume) .next = some s') :
    s'.Flow r d ∧ s'.Roles r d := by
  have hplace := h.roles.place i
  rw [hpc] at hplace
  obtain ⟨rfl, howner, hmigration⟩ := hplace
  have hnothing : plainOf (s.threads i).inHand = [] := by
    rw [hpc]
    rfl
  simp only [Transfer.stepThread] at hstep
  split at hstep
  · cases hstep
    exact h.flow.roles_setThread h.roles (hnothing ▸ rfl) trivial
  · rename_i channel hswitch
    cases hstep
    have hkeeps := keepsData_switch hswitch
    obtain ⟨hwriter, hsame⟩ := switch_writer hswitch
    have hrelay : channel.writer = some r → s.channel.writer = some r := by
      rw [hwriter]
      exact fun heq => absurd (some.inj heq).symm hrd
    refine (h.flow.setChannel hkeeps.resumeOwner hrelay).roles_setThread
      (h.roles.setChannel hkeeps hrelay (fun _ => .inr hwriter) ?_ ?_) ?_ ?_
    · rw [hkeeps.resumeOwner, hsame]
      exact h.roles.follows
    · rw [hkeeps.resumeOwner, hsame, howner]
      exact fun hresume _ => hmigration hresume
    · cases resume <;> exact hnothing.symm
    · cases resume <;> trivial

theorem Upgraded.enableMigration (h : s.Upgraded r d) (howner : s.channel.resumeOwner = true) :
    { s with channel := s.channel.enableMigration true }.Flow r d ∧
      { s with channel := s.channel.enableMigration true }.Roles r d := by
  refine ⟨h.flow.setChannel rfl id, h.roles.setChannel
    (keepsData_enableMigration s.channel) id h.roles.writer ?_
    (fun _ _ => rfl)⟩
  intro hfollows
  cases howner.symm.trans hfollows

theorem Upgraded.stepThread {label : ChannelLabel} (hrd : r ≠ d)
    (h : s.Upgraded r d) (hguard : s.upgrades d (.step i label) = true)
    (hstep : s.stepThread i (s.threads i) label = some s') : s'.Flow r d ∧ s'.Roles r d := by
  have hplace := h.roles.place i
  generalize hpc : s.threads i = pc at hplace hstep
  have hgoto : ∀ pc', plainOf pc'.inHand = plainOf pc.inHand → s.Place r d i pc' →
      (s.setThread i pc').Flow r d ∧ (s.setThread i pc').Roles r d :=
    fun pc' hplain => h.flow.roles_setThread h.roles (hpc ▸ hplain)
  unfold Transfer.stepThread at hstep
  -- one case for each equation of `stepThread`
  split at hstep
  case h_1 =>
    split at hstep <;> cases hstep
    exact h.lock hpc ‹_›
  case h_2 =>
    cases hstep
    exact h.assign hrd hpc (by simpa [upgrades] using hguard)
  case h_3 => obtain ⟨-, ⟨hw, -⟩ | ⟨hw, -⟩⟩ := hplace <;> cases hw
  case h_4 call w ok taken =>
    obtain rfl : ok = true := hguard
    cases hstep
    exact h.write hrd hpc
  case h_7 k =>
    cases k with
    | write call => exact hplace.elim
    | nothing => split at hstep <;> cases hstep <;> exact hgoto _ rfl trivial
  case h_8 w k =>
    cases k with
    | write call => exact hplace.elim
    | nothing =>
      cases hstep
      exact hgoto _ (plainOf_replay h.stream.pending_ne_zero) h.stream.pending_ne_zero
  case h_9 w k =>
    cases k with
    | write call => exact hplace.elim
    | nothing =>
      cases hstep
      exact hgoto _ rfl trivial
  case h_10 w m rest k ok taken =>
    cases k with
    | write call => exact hplace.elim
    | nothing =>
      obtain rfl : ok = true := hguard
      cases hstep
      obtain ⟨hm, hrest⟩ := forall_mem_cons.mp hplace
      refine (h.flow.attempt (plainOf_numbered hm)).roles_setThread
        (h.roles.attempt h.flow (plainOf_numbered hm)) ?_ hrest
      rw [attempt_threads, hpc]
      exact (plainOf_replay hrest).trans (plainOf_replay hplace).symm
  case h_17 => exact h.switchToDirect hrd hpc hstep
  case h_18 w =>
    cases hstep
    refine hgoto _ (by split <;> rfl) ?_
    split
    · rename_i hresume
      simp only [LogicalChannelState.canResume, Bool.and_eq_true] at hresume
      exact ⟨hplace, hresume.1.1⟩
    · trivial
  case h_19 w =>
    cases hstep
    refine hgoto _ (by split <;> rfl) ?_
    split
    · trivial
    · exact hplace
  case h_20 w =>
    cases hstep
    obtain ⟨hflow, hroles⟩ := h.enableMigration hplace.2
    exact hflow.roles_setThread hroles (hpc ▸ rfl) ⟨hplace.1, hplace.2, rfl⟩
  case h_21 w ok taken =>
    -- the request to resume carries no data
    obtain rfl : ok = true := hguard
    cases hstep
    have hconnect : plainOf [BaseMessage.connect
        { s.channel.request with resume := true }] = [] := rfl
    refine (h.flow.attempt hconnect).roles_setThread (h.roles.attempt h.flow hconnect) ?_
      ⟨hplace.1, hplace.2.1, fun _ => hplace.2.2⟩
    rw [attempt_threads, hpc]
    rfl
  case h_22 => cases hstep
  all_goals exact hplace.elim

theorem Upgraded.delivered {room : Bool} (hrd : r ≠ d) (h : s.Upgraded r d)
    (hmsg : (s.wires w)[s.cursor w]? = some msg)
    (hdrained : s.relayDrained r (.deliver w (s.cursor w) room) = true) :
    (s.delivered w msg room).Upgraded r d := by
  have hflow : (s.delivered w msg room).Flow r d := by
    by_cases hdata : ∃ m, msg = .data m
    · obtain ⟨m, rfl⟩ := hdata
      by_cases hm : m.sequence = 0
      · exact h.delivered_plain hrd hmsg hm hdrained
      · exact h.delivered_numbered hmsg hm hdrained
    · exact h.flow.delivered_control hmsg (not_exists.mp hdata)
  have hempty := plainOf_delivered_nil room hmsg d
  refine ⟨?_, hflow, ?_⟩ <;> rw [delivered_eq] at *
  · exact { h.stream with }
  · exact { h.roles with
      place := fun j => (h.roles.place j).mono rfl id fun hmu => ⟨hmu, id, hempty⟩ }

/-- Every step of an upgrade with a drained relay. -/
theorem upgraded_step {a : TransferAction} (hrd : r ≠ d) (h : s.Upgraded r d)
    (hguard : s.upgrades d a = true) (hdrained : s.relayDrained r a = true)
    (hstep : s.step a = some s') : s'.Upgraded r d := by
  cases a with
  | call i op =>
    simp only [Transfer.step] at hstep
    split at hstep <;> cases hstep
    rename_i hidle
    have hnothing : op.entry.inHand = [] := by
      cases op <;> rfl
    have hplace : s.Place r d i op.entry := by
      cases op with
      | writeMessage msg =>
        intro m hm
        subst hm
        simpa [upgrades] using hguard
      | writeWithTransportGrace data =>
        intro m hm
        cases hm
        simpa [upgrades] using hguard
      | switchToDirect w =>
        simp only [upgrades, Bool.and_eq_true, decide_eq_true_eq, Bool.not_eq_true'] at hguard
        exact ⟨hguard.1, hguard.2, by simp⟩
      | resume w =>
        have hw : w = d := by simpa [upgrades] using hguard
        exact hw
      | _ => cases hguard
    have hsame : plainOf op.entry.inHand = plainOf (s.threads i).inHand := by
      rw [hnothing, hidle]
      rfl
    refine ⟨?_, h.flow.setThread hsame, h.roles.setThread hplace⟩
    refine { h.stream with inHand := ?_ }
    intro j m hm
    by_cases hj : j = i
    · subst hj
      rw [setThread_self, hnothing] at hm
      cases hm
    · rw [setThread_of_ne s op.entry hj] at hm
      exact h.stream.inHand j m hm
  | step i label =>
    obtain ⟨hflow, hroles⟩ := h.stepThread hrd hguard hstep
    refine ⟨h.stream.stepThread ?_ hstep, hflow, hroles⟩
    intro data retry again hpc
    have hplace := h.roles.place i
    rw [hpc] at hplace
    refine ⟨hplace.2 data rfl, ?_⟩
    cases label with
    | written ok taken =>
      simp [Transfer.step, hpc, Transfer.stepThread] at hstep
    | _ => simpa [upgrades] using hguard
  | acknowledge sequence =>
    cases hstep
    refine ⟨{ h.stream with pending := ?_ }, { h.flow with }, { h.roles with place := ?_ }⟩
    · intro n m hm
      exact h.stream.pending n m (lookup_of_erase n m hm)
    · exact fun j => (h.roles.place j).mono rfl id fun hmu => ⟨hmu, id, id⟩
  | close =>
    cases hstep
    refine ⟨{ h.stream with }, { h.flow with relay := ?_ }, ⟨?_, ?_, h.roles.follows, ?_⟩⟩
    · intro hwriter
      cases hwriter
    · refine fun j => (h.roles.place j).mono rfl id fun hmu => ⟨hmu, ?_, id⟩
      intro hwriter
      cases hwriter
    · intro hopen
      cases hopen
    · intro _ hwriter
      cases hwriter
  | deliver w n room =>
    obtain ⟨msg, hmsg, rfl⟩ := map_eq_some_iff.mp hstep
    have hn : n = s.cursor w := by
      simpa [upgrades] using hguard
    subst hn
    exact h.delivered hrd hmsg hdrained

/-- What has been accepted is the beginning of what was written. -/
theorem Upgraded.queue_isPrefix (h : s.Upgraded r d) : s.queue <+: s.written := by
  obtain ⟨k, -, hqueue, -, hall⟩ := h.flow.received
  have hsplit : s.queue <+: unnumbered s.written ++ numbered s.written := by
    rw [hqueue]
    rcases Nat.eq_zero_or_pos k with rfl | hpos
    · rw [take_zero, append_nil, ← h.flow.pipe]
      simp only [append_assoc]
      exact prefix_append ..
    · rw [hall hpos]
      exact (prefix_append_right_inj _).mpr (List.take_prefix ..)
  rwa [← h.stream.order] at hsplit

end Steps

end Transfer

/-- In every run in which nothing comes in over the stream before the relay has
delivered its data without numbers, the queue of the receiving end holds the
first messages that were written, in order. -/
theorem run_upgraded_in_order (r d : Writer) (hrd : r ≠ d) (s : Transfer)
    (hinit : s.UpgradeInitial r) (actions : List TransferAction) (hguard : Guarded Transfer.step
      (fun s a => s.upgrades d a = true ∧ s.relayDrained r a = true) s actions)
    (t : Transfer) (hrun : run Transfer.step s actions = some t) : t.queue <+: t.written := by
  have h : t.Upgraded r d :=
    run_invariant (fun _ _ _ h hguard => Transfer.upgraded_step hrd h hguard.1 hguard.2)
      (Transfer.upgraded_initial hrd hinit) hguard hrun
  exact h.queue_isPrefix

/-! ## A channel that is resumed over a stream -/

def openedChannel : LogicalChannelState :=
  ((LogicalChannelState.newLogicalChannel (uuidOf 7) (some 0) (some 0)
    .relay).setRequest
      { LogicalChannelState.noRequest with channelID := uuidOf 7 }).markResumeOwner

def openedTransfer : Transfer :=
  { freshTransfer with
    channel := openedChannel
    peer := LogicalChannelState.newLogicalChannel (uuidOf 7) (some 0) (some 0) .relay }

theorem openedTransfer_initial : openedTransfer.UpgradeInitial 0 :=
  ⟨rfl, rfl, rfl, rfl, rfl, rfl, fun _ => rfl, fun _ => rfl, fun _ => rfl, rfl, rfl, rfl⟩

/-- Goroutine 9 resumes the channel over stream 1, with nothing to replay. -/
def resumeActions : List TransferAction :=
  [.call 9 (.resume 1), .step 9 .next, .step 9 .next, .step 9 .next,
    .step 9 (.written true true), .step 9 .next, .step 9 .next, .step 9 .next, .step 9 .next]

/-- One message over the relay, one over the stream. -/
def upgradeActions : List TransferAction :=
  writeActions 0 (chunk 1) ++ resumeActions ++ writeActions 0 (chunk 2)

def upgradeRun : List TransferAction :=
  upgradeActions ++ [.deliver 1 0 true, .deliver 0 0 true, .deliver 1 1 true]

theorem upgradeRun_in_order : (0 : Writer) ≠ 1 ∧ openedTransfer.UpgradeInitial 0 ∧
    Guarded Transfer.step (fun s a => s.upgrades 1 a = true ∧ s.relayDrained 0 a = true)
      openedTransfer upgradeRun ∧
    transferred openedTransfer upgradeRun = some ([[1], [2]], [[1], [2]], [1]) ∧
    ∃ t, run Transfer.step openedTransfer upgradeRun = some t ∧ t.queue <+: t.written := by
  refine ⟨by decide, openedTransfer_initial, ?guard, ?_, of_run_isSome ?_ fun t ht => ⟨t, ht,
    run_upgraded_in_order 0 1 (by decide) openedTransfer openedTransfer_initial upgradeRun ?guard
      t ht⟩⟩
  all_goals decide +kernel

def overtakingRun : List TransferAction :=
  upgradeActions ++ [.deliver 1 0 true, .deliver 1 1 true, .deliver 0 0 true]

/-- The message on the relay has no number, so it is taken in after the numbered
one. -/
theorem overtakingRun_out_of_order :
    Guarded Transfer.step (fun s a => s.upgrades 1 a = true) openedTransfer overtakingRun ∧
    transferred openedTransfer overtakingRun = some ([[2], [1]], [[1], [2]], [1]) ∧
    ∃ t, run Transfer.step openedTransfer overtakingRun = some t ∧ ¬ t.queue <+: t.written := by
  decide +kernel

end LinkSocks
