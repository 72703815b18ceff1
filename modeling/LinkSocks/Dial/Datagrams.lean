import LinkSocks.Dial.Access
import LinkSocks.Secure.Endpoint

/-!
# Datagrams of a UDP channel

A `Connect` for UDP opens a socket, and is checked against the dial rules if it names an
address.  Each `Data` message on the channel then names its own target, which is resolved
and written to without a check.
-/

namespace LinkSocks

open Go Option

structure Datagram where
  ip : Bytes
  port : Int
  data : Bytes
  deriving DecidableEq

/-- A UDP channel of the side that dials.  Every `Connect` starts a loop of its
own, and all of them read the one queue of the channel. -/
structure UDPChannel where
  queue : List BaseMessage
  /-- The forwarding loops, and whether they run. -/
  loops : List Bool
  /-- How many times the resolver has been asked. -/
  queries : ℕ
  /-- History: the datagrams written to the network. -/
  sent : List Datagram
  responses : List ConnectResponseMessage

inductive UDPAction where
  /-- A Connect message: whether a socket can be opened, and the response
  written. -/
  | connect (m : ConnectMessage) (listen : Except GoString Unit) (written : Bool)
  /-- A message is put on the queue of the channel. -/
  | deliver (msg : BaseMessage)
  /-- A loop takes the next message. -/
  | forward (i : ℕ) (written : Bool)
  /-- The context of a loop is cancelled. -/
  | cancel (i : ℕ)

namespace UDPChannel

variable (E : DialEnv) (D : DialRules)

def respond (s : UDPChannel) (response : ConnectResponseMessage) : UDPChannel :=
  { s with responses := s.responses ++ [response] }

/-- The check of `HandleUDPConnection`: there is none without an address. -/
def checkAddress (s : UDPChannel) (m : ConnectMessage) : Option GoString × ℕ :=
  if m.address = [] then (none, s.queries)
  else E.checkDialAccess D s.queries m.address m.port

def handleUDPConnection (s : UDPChannel) (m : ConnectMessage)
    (listen : Except GoString Unit) (written : Bool) : UDPChannel :=
  match s.checkAddress E D m with
  | (some text, n) => { s with queries := n }.respond ⟨false, text, m.channelID⟩
  | (none, n) =>
    match listen with
    | .error text => { s with queries := n }.respond ⟨false, text, m.channelID⟩
    | .ok () =>
      { s with queries := n, loops := s.loops ++ [written] }.respond ⟨true, [], m.channelID⟩

/-- The address that a message is sent to.  A name stands for the first address
of the answer; no answer, or one that is not an address, is skipped. -/
def targetIP (s : UDPChannel) (m : DataMessage) : Option Bytes :=
  (E.lookup s.queries m.targetAddr).1.bind List.head?

/-- The datagram that a loop is about to write. -/
def nextDatagram (s : UDPChannel) (i : ℕ) : Option Datagram :=
  match s.loops[i]?, s.queue with
  | some true, .data m :: _ => (s.targetIP E m).map (⟨·, m.targetPort, m.data⟩)
  | _, _ => none

/-- The number of queries after a message has been handled. -/
def queriesAfter (s : UDPChannel) : BaseMessage → ℕ
  | .data m => (E.lookup s.queries m.targetAddr).2
  | _ => s.queries

/-- The loop of `HandleRemoteUDPForward`, for one message: anything but data is
skipped, and a write that fails ends the loop. -/
def forward (s : UDPChannel) (i : ℕ) (written : Bool) : Option UDPChannel :=
  match s.loops[i]?, s.queue with
  | some true, msg :: rest =>
    let s' := { s with queue := rest, queries := s.queriesAfter E msg }
    match s.nextDatagram E i with
    | none => some s'
    | some datagram =>
      if written then some { s' with sent := s.sent ++ [datagram] }
      else some { s' with loops := s.loops.set i false }
  | _, _ => none

def step (s : UDPChannel) : UDPAction → Option UDPChannel
  | .connect m listen written => some (s.handleUDPConnection E D m listen written)
  | .deliver msg =>
    if s.queue.length < messageQueueSize then some { s with queue := s.queue ++ [msg] }
    else some s
  | .forward i written => s.forward E i written
  | .cancel i => some { s with loops := s.loops.set i false }

/-! ## Where datagrams go -/

/-- All datagrams went to targets that the rules allow. -/
def Obeys (s : UDPChannel) : Prop :=
  ∀ d ∈ s.sent, AccessControl.allow D.effective (some [d.ip]) d.port = true

/-- The condition on one action: a message that a loop takes names a target that
the rules allow, with the address that the dialing side takes it for. -/
def TargetAllowed (s : UDPChannel) : UDPAction → Prop
  | .forward i true =>
    match s.loops[i]?, s.queue with
    | some true, .data m :: _ =>
      ∀ ips ∈ (E.lookup s.queries m.targetAddr).1, ∀ ip ∈ ips.head?,
        AccessControl.allow D.effective (some [ip]) m.targetPort = true
    | _, _ => True
  | _ => True

theorem targetAllowed_forward (s : UDPChannel) (i : ℕ) : s.TargetAllowed E D (.forward i true) ↔
      ∀ d ∈ s.nextDatagram E i, AccessControl.allow D.effective (some [d.ip]) d.port = true := by
  simp only [TargetAllowed, nextDatagram]
  split
  · simp only [targetIP, mem_def, map_eq_some_iff, bind_eq_some_iff]
    constructor
    · rintro hallowed d ⟨ip, ⟨ips, hips, hip⟩, rfl⟩
      exact hallowed ips hips ip hip
    · intro hallowed ips hips ip hip
      exact hallowed _ ⟨ip, ⟨ips, hips, hip⟩, rfl⟩
  · simp

instance (s : UDPChannel) : DecidablePred (s.TargetAllowed E D)
  | .forward i true => decidable_of_iff _ (targetAllowed_forward E D s i).symm
  | .forward _ false | .connect .. | .deliver _ | .cancel _ => isTrue trivial

variable {E D} {s s' : UDPChannel}

theorem step_sent {a : UDPAction} (hstep : s.step E D a = some s') :
    s'.sent = s.sent ∧ (∀ i, a = .forward i true → s.nextDatagram E i = none) ∨
      ∃ i d, a = .forward i true ∧ s.nextDatagram E i = some d ∧ s'.sent = s.sent ++ [d] := by
  cases a with
  | connect m listen written =>
    cases hstep
    refine .inl ⟨?_, by simp⟩
    rw [handleUDPConnection]
    split
    · rfl
    · split <;> rfl
  | deliver msg =>
    rw [step] at hstep
    split at hstep <;> cases hstep <;> exact .inl ⟨rfl, by simp⟩
  | cancel i =>
    cases hstep
    exact .inl ⟨rfl, by simp⟩
  | forward i written =>
    rw [step] at hstep
    revert hstep
    fun_cases forward E s i written <;> intro hstep
    case case4 => cases hstep
    all_goals obtain rfl := some.inj hstep
    case case1 hnone =>
      refine .inl ⟨rfl, fun j hj => ?_⟩
      cases hj
      exact hnone
    case case2 d hsome hwritten =>
      exact .inr ⟨i, d, by rw [hwritten], hsome, rfl⟩
    case case3 hwritten =>
      refine .inl ⟨rfl, fun j hj => ?_⟩
      cases hj
      exact absurd rfl hwritten

/-- Along every run, all datagrams go to targets that the rules allow if and only if the
messages that are forwarded name no others. -/
theorem datagrams_allowed_iff {t : UDPChannel} {actions : List UDPAction}
    (hfresh : s.sent = []) (hrun : run (step E D) s actions = some t) :
    Always (step E D) (Obeys D) s actions ↔ Guarded (step E D) (TargetAllowed E D) s actions := by
  refine always_iff_guarded (fun _ h => h) ?_ ?_ ?_ hrun
  · intro s a s' hobeys hguard hstep d hd
    obtain ⟨hsent, -⟩ | ⟨i, d', rfl, hnext, hsent⟩ := step_sent hstep
    · exact hobeys d (hsent ▸ hd)
    · rw [hsent, List.mem_append, List.mem_singleton] at hd
      rcases hd with hold | rfl
      · exact hobeys d hold
      · exact (targetAllowed_forward E D s i).mp hguard d hnext
  · intro s a s' hobeys hguard hstep hobeys'
    obtain ⟨-, hnone⟩ | ⟨i, d', rfl, hnext, hsent⟩ := step_sent hstep
    · apply hguard
      cases a with
      | forward i written =>
        cases written with
        | true => simp [targetAllowed_forward, hnone i rfl]
        | false => trivial
      | _ => trivial
    · apply hguard
      rw [targetAllowed_forward]
      rintro d hd
      cases hnext.symm.trans hd
      exact hobeys' d' (by simp [hsent])
  · intro d hd
    rw [hfresh] at hd
    cases hd

end UDPChannel

/-! ## A target that is not allowed -/

/-- An address is written as its last byte. -/
def lastByteEnv : DialEnv where
  parseIP host := host.head?.map ipLast
  resolve := fun _ _ => none
  upstreamProxy := none

def idleUDP : UDPChannel := ⟨[], [], 0, [], []⟩

/-- An association without an address, and one datagram for the address that
ends in `b`. -/
def datagramRun (b : UInt8) : List UDPAction :=
  [.connect ⟨udp, [], 0, uuidOf 9, false⟩ (.ok ()) true,
    .deliver (.data ⟨udp, uuidOf 9, [7], 0, [], 0, [b], 53, 0⟩), .forward 0 true]

def datagramsOf (actions : List UDPAction) : Option (List Datagram) :=
  (run (UDPChannel.step lastByteEnv ⟨none, some loopbackRules⟩) idleUDP actions).map UDPChannel.sent

/-- A datagram for the allowed address goes out. -/
theorem datagramRun_obeys : datagramsOf (datagramRun 1) = some [⟨ipLast 1, 53, [7]⟩] ∧
    Always (UDPChannel.step lastByteEnv ⟨none, some loopbackRules⟩)
      (UDPChannel.Obeys ⟨none, some loopbackRules⟩) idleUDP (datagramRun 1) :=
  ⟨by decide +kernel, of_run_isSome (by decide +kernel) fun _ hrun =>
    (UDPChannel.datagrams_allowed_iff rfl hrun).mpr (by decide +kernel)⟩

/-- So does a datagram for any other address. -/
theorem datagramRun_disobeys : loopbackRules.rules ≠ [] ∧
    datagramsOf (datagramRun 2) = some [⟨ipLast 2, 53, [7]⟩] ∧
    AccessControl.allow (some loopbackRules) (some [ipLast 2]) 53 = false := by
  decide +kernel

end LinkSocks
