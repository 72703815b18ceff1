import LinkSocks.Client.Entry
import LinkSocks.Channel.Logical
import LinkSocks.Go.Machine

/-!
# A channel over the links of a client

A client has a link to the relay for each of its threads, and writes every message on the
next link in turn.  Each link has its own reader at the relay.  So the frames of one channel
are on several links at once, and only the frames of one link keep their order.
-/

namespace LinkSocks

open Go List Function

/-- What a frame of the channel is to its receiver. -/
inductive FrameKind where
  | data (sequence : UInt64)
  | sealed
  deriving DecidableEq

/-- A frame with its place among the frames written on the channel. -/
structure ChannelFrame where
  position : ℕ
  kind : FrameKind
  deriving DecidableEq

/-- Where the relay takes the frames of the channel. -/
inductive Route where
  /-- The relay is the peer: its queue or its session gets them. -/
  | own
  /-- To the link of the peer: a connector, or a provider bound without a
  pump. -/
  | link
  /-- Into the queue of the pump that writes to the provider's link. -/
  | pump
  deriving DecidableEq

/-- One channel from the client that writes to the peer.  No link fails, so a
thread connects once, and the relay has one link to the peer.  The link of a
thread has its index. -/
structure Striped where
  connected : List Link
  websockets : List (Option Link)
  currentIndex : ℕ
  /-- Frames on the way to the relay. -/
  uplink : Link → List ChannelFrame
  queue : List ChannelFrame
  /-- The pump has bound a provider. -/
  bound : Bool
  sending : Option ChannelFrame
  /-- Frames on the way from the relay to the peer. -/
  downlink : List ChannelFrame
  peer : LogicalChannelState
  /-- History: frames given to the peer's queue or session. -/
  handed : List ChannelFrame
  /-- History: how many frames were written. -/
  written : ℕ

inductive StripedAction where
  /-- A thread gets its link. -/
  | connect (index : Link)
  /-- Somebody else takes a link, for another channel or a label. -/
  | other
  | write (kind : FrameKind)
  /-- The reader of a link at the relay takes a frame and handles it before
  the next. -/
  | read (link : Link) (room : Bool)
  | bind
  | expire
  | take
  | send
  /-- The reader at the peer. -/
  | deliver (room : Bool)

namespace Striped

def next (s : Striped) : Option Link × ℕ :=
  nextWebSocket s.websockets s.websockets.length s.currentIndex

/-- A link goes to the slot of its thread, or to the end of a pool that is
shorter. -/
def connect (s : Striped) (index : Link) : Striped :=
  { s with
    connected := index :: s.connected
    websockets :=
      if s.websockets.length ≤ index then s.websockets ++ [some index]
      else s.websockets.set index (some index) }

/-- The write of a frame on the link that is next. -/
def writeOn (s : Striped) (link : Link) (kind : FrameKind) : Striped :=
  { s with
    currentIndex := s.next.2
    uplink := Function.update s.uplink link (s.uplink link ++ [⟨s.written, kind⟩])
    written := s.written + 1 }

/-- The frame is at the peer; without room in the queue it is dropped. -/
def hand (s : Striped) (frame : ChannelFrame) (room : Bool) : Striped :=
  if room then { s with handed := s.handed ++ [frame] } else s

/-- Cases `DataMessage` and `SealedMessage` of the dispatchers. -/
def dispatch (s : Striped) (route : Route) (frame : ChannelFrame) (room : Bool) : Striped :=
  match route with
  | .own => s.hand frame room
  | .link => { s with downlink := s.downlink ++ [frame] }
  | .pump =>
    if s.queue.length < orphanDataQueueSize then { s with queue := s.queue ++ [frame] }
    else s

/-- `deliverDataMessage` or `secureHub.deliver` of the client at the other
end. -/
def deliver (s : Striped) (frame : ChannelFrame) (room : Bool) : Striped :=
  match frame.kind with
  | .sealed => s.hand frame room
  | .data sequence =>
    match s.peer.acceptData sequence with
    | none => s
    | some accepted =>
      if room then { s with peer := accepted }.hand frame room
      else { s with peer := accepted.rejectData sequence }

def step (threads : ℕ) (route : Route) (s : Striped) : StripedAction → Option Striped
  | .connect index =>
    if index < threads ∧ index ∉ s.connected then some (s.connect index)
    else none
  | .other => some { s with currentIndex := s.next.2 }
  | .write kind =>
    match s.next.1 with
    -- the write returns an error
    | none => none
    | some link => some (s.writeOn link kind)
  | .read link room =>
    match s.uplink link with
    | [] => none
    | frame :: rest =>
      some ({ s with uplink := Function.update s.uplink link rest }.dispatch
        route frame room)
  | .bind => some { s with bound := true }
  | .expire => if s.bound then none else some { s with queue := [] }
  | .take =>
    match s.bound, s.sending, s.queue with
    | true, none, frame :: rest => some { s with sending := some frame, queue := rest }
    | _, _, _ => none
  | .send =>
    match s.sending with
    | none => none
    | some frame => some { s with sending := none, downlink := s.downlink ++ [frame] }
  | .deliver room =>
    match s.downlink with
    | [] => none
    | frame :: rest => some ({ s with downlink := rest }.deliver frame room)

/-- The frames are handed over in the order in which they were written; some
may be dropped on the way. -/
def InOrder (s : Striped) : Prop := (s.handed.map ChannelFrame.position).Pairwise (· < ·)

instance (s : Striped) : Decidable s.InOrder := inferInstanceAs (Decidable (List.Pairwise _ _))

end Striped

section OneLink

theorem mem_of_nextWebSocket {pool : List (Option Link)} {rounds index : ℕ}
    {link : Link} (h : (nextWebSocket pool rounds index).1 = some link) : some link ∈ pool := by
  induction rounds generalizing index with
  | zero => cases h
  | succ rounds ih =>
    rw [nextWebSocket] at h
    split at h
    · rename_i hpool
      cases h
      exact mem_of_getElem? hpool
    · exact ih h

/-- The frames between the two ends, the oldest first, if they are all on link
0. -/
def Striped.line (s : Striped) : List ChannelFrame :=
  s.handed ++ (s.downlink ++ (s.sending.toList ++ (s.queue ++ s.uplink 0)))

structure Striped.Lined (route : Route) (s : Striped) : Prop where
  pool : s.websockets = [] ∨ s.websockets = [some 0]
  uplink : ∀ link, link ≠ 0 → s.uplink link = []
  own : route = .own → s.downlink = []
  queue : route ≠ .pump → s.sending = none ∧ s.queue = []
  sorted : (s.line.map ChannelFrame.position ++ [s.written]).Pairwise (· < ·)

namespace Striped.Lined

variable {threads : ℕ} {route : Route} {s s' : Striped}

section

variable (h : s.Lined route)
include h

theorem of_sublist (hpool : s'.websockets = s.websockets)
    (huplink : ∀ link, link ≠ 0 → s'.uplink link = s.uplink link)
    (hown : route = .own → s'.downlink = [])
    (hqueue : route ≠ .pump → s'.sending = none ∧ s'.queue = [])
    (hwritten : s'.written = s.written) (hline : s'.line.Sublist s.line) : s'.Lined route where
  pool := by rw [hpool]; exact h.pool
  uplink := fun link hlink => (huplink link hlink).trans (h.uplink link hlink)
  own := hown
  queue := hqueue
  sorted := by
    rw [hwritten]
    exact h.sorted.sublist ((hline.map _).append_right _)

theorem connect : (s.connect 0).Lined route where
  pool := by
    obtain hpool | hpool := h.pool <;> simp [Striped.connect, hpool]
  uplink := h.uplink
  own := h.own
  queue := h.queue
  sorted := h.sorted

theorem link_eq_zero {link : Link} (hlink : s.next.1 = some link) : link = 0 := by
  have hmem := mem_of_nextWebSocket hlink
  obtain hpool | hpool := h.pool
  · rw [hpool] at hmem
    cases hmem
  · rw [hpool] at hmem
    simpa using hmem

theorem write (kind : FrameKind) : (s.writeOn 0 kind).Lined route where
  pool := h.pool
  uplink := fun link hlink => (update_of_ne hlink ..).trans (h.uplink link hlink)
  own := h.own
  queue := h.queue
  sorted := by
    have hline : (s.writeOn 0 kind).line = s.line ++ [⟨s.written, kind⟩] := by
      simp [line, writeOn]
    have hwritten : (s.writeOn 0 kind).written = s.written + 1 := rfl
    rw [hline, map_append]
    -- the new frame is the last, and the next one comes after it
    refine pairwise_append.mpr ⟨h.sorted, pairwise_singleton _ _, ?_⟩
    intro position hposition later hlater
    rw [mem_singleton.mp hlater]
    obtain hold | hnew := mem_append.mp hposition
    · have hlt := (pairwise_append.mp h.sorted).2.2 position hold s.written
        (mem_singleton_self _)
      omega
    · have heq : position = s.written := mem_singleton.mp hnew
      omega

theorem read {frame : ChannelFrame}
    {rest : List ChannelFrame} (huplink : s.uplink 0 = frame :: rest) (room : Bool) :
    ({ s with uplink := Function.update s.uplink 0 rest }.dispatch route frame
      room).Lined route := by
  have hother : ∀ link, link ≠ 0 → update s.uplink 0 rest link = s.uplink link :=
    fun link hlink => update_of_ne hlink ..
  cases route with
  | own =>
    obtain ⟨hsending, hqueue⟩ := h.queue (by decide)
    have hdownlink := h.own rfl
    cases room with
    | false | true =>
      refine h.of_sublist rfl hother h.own h.queue rfl ?_
      simp [dispatch, hand, line, huplink, hsending, hqueue, hdownlink]
  | link =>
    obtain ⟨hsending, hqueue⟩ := h.queue (by decide)
    refine h.of_sublist rfl hother (fun h => nomatch h) h.queue rfl ?_
    simp [dispatch, line, huplink, hsending, hqueue]
  | pump =>
    rw [dispatch]
    split
    · refine h.of_sublist rfl hother h.own (fun h => absurd rfl h) rfl ?_
      simp [line, huplink]
    · refine h.of_sublist rfl hother h.own (fun h => absurd rfl h) rfl ?_
      simp [line, huplink]

theorem deliver {frame : ChannelFrame}
    {rest : List ChannelFrame} (hdownlink : s.downlink = frame :: rest)
    (room : Bool) :
    ({ s with downlink := rest }.deliver frame room).Lined route := by
  have hroute : route ≠ .own := by
    intro hroute
    rw [h.own hroute] at hdownlink
    cases hdownlink
  have hown (t : Striped) : route = .own → t.downlink = [] := fun h => absurd h hroute
  have hkept (accepted : LogicalChannelState) : Striped.Lined route { s with
        downlink := rest, peer := accepted, handed := s.handed ++ [frame] } := by
    refine h.of_sublist rfl (fun _ _ => rfl) (hown _) h.queue rfl ?_
    simp [line, hdownlink]
  have hdropped (accepted : LogicalChannelState) :
      Striped.Lined route { s with downlink := rest, peer := accepted } := by
    refine h.of_sublist rfl (fun _ _ => rfl) (hown _) h.queue rfl ?_
    simp [line, hdownlink]
  rw [Striped.deliver]
  split
  · cases room with
    | false => exact hdropped s.peer
    | true => exact hkept s.peer
  · split
    · exact hdropped s.peer
    · rename_i accepted _
      cases room with
      | false => exact hdropped _
      | true => exact hkept accepted

end

theorem step (hthreads : threads ≤ 1) {a : StripedAction} (h : s.Lined route)
    (hstep : s.step threads route a = some s') : s'.Lined route := by
  revert hstep
  fun_cases Striped.step threads route s a <;> intro hstep <;> cases hstep
  case case1 index hindex =>
    obtain rfl : index = 0 := Nat.lt_one_iff.mp (hindex.1.trans_le hthreads)
    exact h.connect
  case case5 kind link hlink =>
    cases h.link_eq_zero hlink
    exact h.write kind
  case case7 link room frame rest huplink =>
    by_cases hlink : link = 0
    · subst hlink
      exact h.read huplink room
    · rw [h.uplink link hlink] at huplink
      cases huplink
  case case10 =>
    refine h.of_sublist rfl (fun _ _ => rfl) h.own ?_ rfl ?_
    · exact fun hroute => ⟨(h.queue hroute).1, rfl⟩
    · simp [line]
  case case11 frame rest hqueue hsending _ =>
    refine h.of_sublist rfl (fun _ _ => rfl) h.own ?_ rfl ?_
    · intro hroute
      rw [(h.queue hroute).2] at hqueue
      cases hqueue
    · simp [line, hsending, hqueue]
  case case14 frame hsending =>
    obtain rfl : route = .pump := by
      by_contra hroute
      rw [(h.queue hroute).1] at hsending
      cases hsending
    refine h.of_sublist rfl (fun _ _ => rfl) (fun h => nomatch h) (fun h => absurd rfl h) rfl ?_
    simp [line, hsending]
  case case16 room frame rest hdownlink => exact h.deliver hdownlink room
  all_goals exact h.of_sublist rfl (fun _ _ => rfl) h.own h.queue rfl (.refl _)

end Striped.Lined

end OneLink

/-! ## Several links -/

end LinkSocks
