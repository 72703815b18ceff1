import LinkSocks.Direct.Packet
import LinkSocks.Go.Machine

/-!
# Probing the direct path

Two peers that share a session key send each other probes over UDP.  A prober is ready when
a packet of the session arrives whose tag verifies.  A request is answered as well; neither
kind is compared with what the prober has sent.  The network belongs to an attacker without
the key, who delivers whatever he likes, except that a packet whose tag verifies has been
sent by one of the peers before.
-/

namespace LinkSocks

open Go List Option Function

inductive DirectSide where
  | near
  | far
  deriving DecidableEq

def DirectSide.other : DirectSide → DirectSide
  | .near => .far
  | .far => .near

theorem DirectSide.other_ne (side : DirectSide) : side.other ≠ side := by
  cases side <;> decide

/-! ## A prober -/

structure UDPAddr where
  ip : Bytes
  port : ℕ
  deriving DecidableEq

structure DirectProber where
  session : UUID
  sessionKey : Bytes
  ready : Bool
  lastFrom : Option UDPAddr

namespace DirectProber

variable (H : HMAC)

def markReady (p : DirectProber) (src : UDPAddr) : DirectProber :=
  if p.ready then p else { p with ready := true, lastFrom := some src }

/-- A packet of the prober, authenticated if there is a key. -/
def packet (p : DirectProber) (version type : UInt8) (nonce : Fixed 8) : DirectProbePacket :=
  if p.sessionKey = [] then ⟨⟨version, type, p.session, nonce⟩, Fixed.copy 16 [], false⟩
  else
    let f : DirectFields := ⟨2, type, p.session, nonce⟩
    ⟨f, computeDirectProbeMAC H p.sessionKey f, true⟩

/-- The packet is one of the session, with a valid tag if there is a key. -/
def accepts (p : DirectProber) (pkt : DirectProbePacket) : Bool :=
  pkt.sessionID = p.session && (p.sessionKey = [] || 2 ≤ pkt.version && pkt.hasMAC &&
        verifyDirectProbeMAC H p.sessionKey pkt.toDirectFields pkt.mac)

/-- A round of `Start`: the packet that is accepted, if the datagram has one. -/
def accepted (p : DirectProber) (datagram : Bytes) : Option DirectProbePacket :=
  (parseDirectProbePacket (datagram.take 2048)).filter (p.accepts H)

/-- The rest of the round, for an accepted packet: the prober and its response. -/
def handle (p : DirectProber) (pkt : DirectProbePacket) (src : UDPAddr) :
    DirectProber × Option DirectProbePacket :=
  if pkt.type = directProbeTypeRequest then
    (p.markReady src, some (p.packet H pkt.version directProbeTypeResponse pkt.nonce))
  else if pkt.type = directProbeTypeResponse then (p.markReady src, none)
  else (p, none)

end DirectProber

inductive ProbePC where
  | next (candidates : List DirectCandidate)
  | waiting (request : DirectProbePacket) (addr : UDPAddr) (candidates : List DirectCandidate)
  | returned (src : Option UDPAddr)
  deriving DecidableEq

/-- The candidates that `Probe` tries to resolve. -/
def DirectCandidate.usable (c : DirectCandidate) : Bool :=
  (c.kind = [] || c.kind = ascii "srflx" || c.kind = ascii "host") && c.addr ≠ [] && 0 < c.port

/-! ## Two probers and the network -/

structure ProbeSide where
  prober : DirectProber
  /-- `Start` is running. -/
  listening : Bool
  pc : ProbePC
  /-- History: what had been sent when the prober was made. -/
  since : ℕ
  /-- History: the packet that made the prober ready. -/
  cause : Option DirectProbePacket

structure ProbeNet where
  peer : DirectSide → ProbeSide
  /-- History: what the two peers have sent. -/
  wire : List (DirectSide × DirectProbePacket)

/-- What is fixed for a pair: the session and the key. -/
structure ProbeEnv where
  hmac : HMAC
  session : UUID
  sessionKey : Bytes

inductive ProbeAction where
  /-- `NewDirectProber`, `Start` and `Probe`. -/
  | start (side : DirectSide) (candidates : List DirectCandidate)
  /-- The next candidate, the address it resolves to and a nonce. -/
  | next (side : DirectSide) (addr : Option UDPAddr) (nonce : Fixed 8)
  | tick (side : DirectSide)
  | expire (side : DirectSide)
  | observe (side : DirectSide)
  | cancel (side : DirectSide)
  | stop (side : DirectSide)
  | deliver (side : DirectSide) (datagram : Bytes) (src : UDPAddr)

namespace ProbeEnv

def newProber (E : ProbeEnv) : DirectProber := ⟨E.session, E.sessionKey, false, none⟩

/-- A tag that verifies has been computed by a peer, who has sent the packet. -/
def Unforged (E : ProbeEnv) (s : ProbeNet) (datagram : Bytes) : Prop :=
  ∀ pkt ∈ parseDirectProbePacket (datagram.take 2048),
    verifyDirectProbeMAC E.hmac E.sessionKey pkt.toDirectFields pkt.mac = true →
      2 ≤ pkt.version → pkt ∈ s.wire.map Prod.snd

instance (E : ProbeEnv) (s : ProbeNet) (datagram : Bytes) : Decidable (E.Unforged s datagram) :=
  inferInstanceAs (Decidable (∀ pkt ∈ _, _ → _ → _))

end ProbeEnv

namespace ProbeNet

variable (E : ProbeEnv)

def put (s : ProbeNet) (side : DirectSide) (x : ProbeSide) : ProbeNet :=
  { s with peer := Function.update s.peer side x }

def send (s : ProbeNet) (side : DirectSide) (pkt : DirectProbePacket) : ProbeNet :=
  { s with wire := s.wire ++ [(side, pkt)] }

/-- An accepted packet, with what is remembered of it. -/
def handle (s : ProbeNet) (side : DirectSide) (pkt : DirectProbePacket) (src : UDPAddr) :
    ProbeNet :=
  let x := s.peer side
  let out := x.prober.handle E.hmac pkt src
  let cause := if out.1.ready && !x.prober.ready then some pkt else x.cause
  { peer := Function.update s.peer side { x with prober := out.1, cause := cause }
    wire := s.wire ++ (out.2.map fun response => (side, response)).toList }

def step (s : ProbeNet) : ProbeAction → Option ProbeNet
  | .start side candidates =>
    some (s.put side ⟨E.newProber, true, .next candidates, s.wire.length, none⟩)
  | .next side addr nonce =>
    let x := s.peer side
    match x.pc with
    | .next [] => some (s.put side { x with pc := .returned none })
    | .next (c :: candidates) =>
      match addr with
      | some addr =>
        if c.usable then
          let request := x.prober.packet E.hmac 1 directProbeTypeRequest nonce
          some (s.put side { x with pc := .waiting request addr candidates })
        else some (s.put side { x with pc := .next candidates })
      | none => some (s.put side { x with pc := .next candidates })
    | _ => none
  | .tick side =>
    match (s.peer side).pc with
    | .waiting request _ _ => some (s.send side request)
    | _ => none
  | .expire side =>
    match (s.peer side).pc with
    | .waiting _ _ candidates => some (s.put side { s.peer side with pc := .next candidates })
    | _ => none
  | .observe side =>
    match (s.peer side).pc, (s.peer side).prober.ready with
    | .waiting .., true =>
      some (s.put side { s.peer side with pc := .returned (s.peer side).prober.lastFrom })
    | _, _ => none
  | .cancel side =>
    match (s.peer side).pc with
    | .waiting .. => some (s.put side { s.peer side with pc := .returned none })
    | _ => none
  | .stop side => some (s.put side { s.peer side with listening := false })
  | .deliver side datagram src =>
    if (s.peer side).listening = true ∧ E.Unforged s datagram then
      match (s.peer side).prober.accepted E.hmac datagram with
      | some pkt => some (s.handle E side pkt src)
      | none => some s
    else none

def idle : ProbeNet := ⟨fun _ => ⟨E.newProber, false, .returned none, 0, none⟩, []⟩

/-- The peer has sent the packet during this probe, and a response is for a
request of this probe. -/
def Answers (s : ProbeNet) (side : DirectSide) (pkt : DirectProbePacket) : Prop :=
  (side.other, pkt) ∈ s.wire.drop (s.peer side).since ∧ (pkt.type = directProbeTypeResponse →
      ∃ e ∈ s.wire.drop (s.peer side).since,
        e.1 = side ∧ e.2.type = directProbeTypeRequest ∧ e.2.nonce = pkt.nonce)

instance (s : ProbeNet) (side : DirectSide) (pkt : DirectProbePacket) :
    Decidable (s.Answers side pkt) := inferInstanceAs (Decidable (_ ∧ (_ → _)))

/-- Whoever is ready has been answered. -/
def Answered (s : ProbeNet) : Prop :=
  ∀ side, (s.peer side).prober.ready = true →
    ∃ pkt, (s.peer side).cause = some pkt ∧ s.Answers side pkt

/-- A peer that is not ready gets no packet that it has sent itself or that is older than its
probe, and no response to a request that is not its own. -/
def Proper (s : ProbeNet) : ProbeAction → Prop
  | .deliver side datagram _ =>
    (s.peer side).prober.ready = false →
      ∀ e ∈ s.wire, packDirectProbePacket e.2 <+: datagram.take 2048 → s.Answers side e.2
  | _ => True

instance (s : ProbeNet) : DecidablePred s.Proper := by
  intro action
  unfold ProbeNet.Proper
  split <;> infer_instance

end ProbeNet

/-! ## Packets of the peers -/

/-- A packet as a peer makes it. -/
structure ProbeEnv.Genuine (E : ProbeEnv) (pkt : DirectProbePacket) : Prop where
  version : pkt.version = 2
  hasMAC : pkt.hasMAC = true
  session : pkt.sessionID = E.session
  mac : pkt.mac = computeDirectProbeMAC E.hmac E.sessionKey pkt.toDirectFields
  type : pkt.type = directProbeTypeRequest ∨ pkt.type = directProbeTypeResponse

namespace DirectProber

variable {E : ProbeEnv} {p : DirectProber} {pkt : DirectProbePacket} {datagram : Bytes}

/-- The prober has the session and the key of the pair. -/
structure Of (E : ProbeEnv) (p : DirectProber) : Prop where
  session : p.session = E.session
  sessionKey : p.sessionKey = E.sessionKey

@[simp] theorem ready_markReady (p : DirectProber) (src : UDPAddr) :
    (p.markReady src).ready = true := by
  rw [markReady]
  split
  · assumption
  · rfl

theorem Of.markReady (h : p.Of E) (src : UDPAddr) : (p.markReady src).Of E := by
  rw [DirectProber.markReady]
  split
  · exact h
  · exact ⟨h.session, h.sessionKey⟩

section

variable (h : p.Of E) (hkey : E.sessionKey ≠ [])
include h hkey

theorem Of.genuine_packet (version : UInt8) {type : UInt8} (nonce : Fixed 8)
    (htype : type = directProbeTypeRequest ∨ type = directProbeTypeResponse) :
    E.Genuine (p.packet E.hmac version type nonce) := by
  rw [packet, if_neg (h.sessionKey ▸ hkey)]
  exact ⟨rfl, rfl, h.session, by rw [h.sessionKey], htype⟩

theorem Of.accepts_iff : p.accepts E.hmac pkt = true ↔
      pkt.sessionID = E.session ∧ 2 ≤ pkt.version ∧ pkt.hasMAC = true ∧
        verifyDirectProbeMAC E.hmac E.sessionKey pkt.toDirectFields pkt.mac = true := by
  simp [accepts, h.session, h.sessionKey, hkey, and_assoc]

/-- A datagram that begins with a packet of a peer is accepted as that packet. -/
theorem Of.accepted_of_isPrefix (hpkt : E.Genuine pkt)
    (hfront : packDirectProbePacket pkt <+: datagram.take 2048) :
    p.accepted E.hmac datagram = some pkt := by
  obtain ⟨rest, hrest⟩ := hfront
  rw [accepted, ← hrest, parseDirectProbePacket_append hpkt.version hpkt.hasMAC]
  refine filter_eq_some_iff.mpr ⟨rfl, (h.accepts_iff hkey).mpr ⟨hpkt.session, ?_, hpkt.hasMAC, ?_⟩⟩
  · rw [hpkt.version]
    decide
  · exact (if_neg hkey).trans (decide_eq_true hpkt.mac.symm)

/-- What a prober accepts has been sent by a peer. -/
theorem Of.mem_wire_of_accepted {s : ProbeNet}
    (hunforged : E.Unforged s datagram) (haccepted : p.accepted E.hmac datagram = some pkt) :
    pkt ∈ s.wire.map Prod.snd ∧ packDirectProbePacket pkt <+: datagram.take 2048 := by
  obtain ⟨hparse, haccepts⟩ := filter_eq_some_iff.mp haccepted
  obtain ⟨-, hversion, -, hverify⟩ := (h.accepts_iff hkey).mp haccepts
  exact ⟨hunforged pkt hparse hverify hversion, (pack_isPrefix_of_parse hparse hversion).2.2⟩

end

end DirectProber

/-! ## What holds along a run -/

namespace ProbeNet

variable {E : ProbeEnv} {s s' : ProbeNet} {side : DirectSide} {pkt : DirectProbePacket}

structure Kept (E : ProbeEnv) (s : ProbeNet) : Prop where
  prober : ∀ side, (s.peer side).prober.Of E
  wire : ∀ e ∈ s.wire, E.Genuine e.2
  waiting : ∀ side request addr candidates,
    (s.peer side).pc = .waiting request addr candidates → E.Genuine request
  answered : s.Answered

theorem kept_idle : (idle E).Kept E where
  prober := fun _ => ⟨rfl, rfl⟩
  wire := fun _ he => nomatch he
  waiting := fun _ _ _ _ hpc => nomatch hpc
  answered := fun _ hready => nomatch hready

theorem peer_put_self (s : ProbeNet) (side : DirectSide) (x : ProbeSide) :
    (s.put side x).peer side = x := update_self ..

theorem Answers.mono (h : s.Answers side pkt) {sent : List (DirectSide × DirectProbePacket)}
    (hwire : s'.wire = s.wire ++ sent) (hsince : (s'.peer side).since = (s.peer side).since) :
    s'.Answers side pkt := by
  have hdrop : s.wire.drop (s.peer side).since ⊆ s'.wire.drop (s'.peer side).since := by
    rw [hwire, hsince, drop_append]
    exact subset_append_left _ _
  refine ⟨hdrop h.1, fun htype => ?_⟩
  obtain ⟨e, he, hrest⟩ := h.2 htype
  exact ⟨e, hdrop he, hrest⟩

/-- One side has changed and something may have been sent. -/
theorem Kept.change (h : s.Kept E) (side : DirectSide)
    {sent : List (DirectSide × DirectProbePacket)} (hwire : s'.wire = s.wire ++ sent)
    (hother : ∀ side', side' ≠ side → s'.peer side' = s.peer side')
    (hsent : ∀ e ∈ sent, E.Genuine e.2) (hprober : (s'.peer side).prober.Of E)
    (hwaiting : ∀ request addr candidates,
      (s'.peer side).pc = .waiting request addr candidates → E.Genuine request)
    (hanswered : (s'.peer side).prober.ready = true →
      ∃ pkt, (s'.peer side).cause = some pkt ∧ s'.Answers side pkt) : s'.Kept E := by
  refine ⟨fun side' => ?_, fun e he => ?_, fun side' => ?_, fun side' hready => ?_⟩
  · by_cases hside : side' = side
    · exact hside ▸ hprober
    · exact hother side' hside ▸ h.prober side'
  · rw [hwire, mem_append] at he
    exact he.elim (h.wire e) (hsent e)
  · by_cases hside : side' = side
    · exact hside ▸ hwaiting
    · exact hother side' hside ▸ h.waiting side'
  · by_cases hside : side' = side
    · subst hside
      exact hanswered hready
    · rw [hother side' hside] at hready ⊢
      obtain ⟨pkt, hpkt, hanswers⟩ := h.answered side' hready
      exact ⟨pkt, hpkt, hanswers.mono hwire (by rw [hother side' hside])⟩

theorem Kept.put (h : s.Kept E) {x : ProbeSide} (hprober : x.prober = (s.peer side).prober)
    (hcause : x.cause = (s.peer side).cause) (hsince : x.since = (s.peer side).since)
    (hwaiting : ∀ request addr candidates,
      x.pc = .waiting request addr candidates → E.Genuine request) : (s.put side x).Kept E := by
  have hself := s.peer_put_self side x
  refine h.change side (append_nil _).symm (fun _ hside => update_of_ne hside ..)
    (by simp) ?_ ?_ ?_
  · rw [hself, hprober]
    exact h.prober side
  · rw [hself]
    exact hwaiting
  · rw [hself, hprober, hcause]
    intro hready
    obtain ⟨pkt, hpkt, hanswers⟩ := h.answered side hready
    exact ⟨pkt, hpkt, hanswers.mono (append_nil _).symm (by rw [hself, hsince])⟩

theorem Kept.advance (h : s.Kept E) {pc : ProbePC}
    (hpc : ∀ request addr candidates, pc ≠ .waiting request addr candidates) :
    (s.put side { s.peer side with pc := pc }).Kept E :=
  h.put rfl rfl rfl fun _ _ _ hwaiting => absurd hwaiting (hpc _ _ _)

theorem Kept.next (h : s.Kept E) (hkey : E.sessionKey ≠ []) {addr : Option UDPAddr}
    {nonce : Fixed 8} (hstep : s.step E (.next side addr nonce) = some s') : s'.Kept E := by
  rw [ProbeNet.step] at hstep
  split at hstep
  · cases hstep
    exact h.advance (by simp)
  · split at hstep
    · split at hstep
      · cases hstep
        refine h.put rfl rfl rfl ?_
        rintro _ _ _ ⟨⟩
        exact (h.prober side).genuine_packet hkey 1 nonce (.inl rfl)
      · cases hstep
        exact h.advance (by simp)
    · cases hstep
      exact h.advance (by simp)
  · cases hstep

theorem Kept.tick (h : s.Kept E) (hstep : s.step E (.tick side) = some s') : s'.Kept E := by
  rw [ProbeNet.step] at hstep
  split at hstep <;> cases hstep
  rename_i request addr candidates hpc
  refine h.change side rfl (fun _ _ => rfl) ?_ (h.prober side) (h.waiting side) ?_
  · intro e he
    rw [mem_singleton.mp he]
    exact h.waiting side request addr candidates hpc
  · intro hready
    obtain ⟨pkt, hpkt, hanswers⟩ := h.answered side hready
    exact ⟨pkt, hpkt, hanswers.mono rfl rfl⟩

/-! ### Packets that are accepted -/

/-- The side that has got a packet of a peer. -/
def readySide (x : ProbeSide) (pkt : DirectProbePacket) (src : UDPAddr) : ProbeSide where
  prober := x.prober.markReady src
  listening := x.listening
  pc := x.pc
  since := x.since
  cause := if x.prober.ready then x.cause else some pkt

theorem handle_eq (side : DirectSide) (hpkt : E.Genuine pkt) (src : UDPAddr) :
    ∃ sent : List (DirectSide × DirectProbePacket), s.handle E side pkt src =
        ⟨Function.update s.peer side (readySide (s.peer side) pkt src), s.wire ++ sent⟩ ∧
      (∀ e ∈ sent, e = (side, (s.peer side).prober.packet E.hmac pkt.version
        directProbeTypeResponse pkt.nonce)) ∧ (pkt.type = directProbeTypeResponse → sent = []) := by
  have hcause : (if ((s.peer side).prober.markReady src).ready && !(s.peer side).prober.ready
      then some pkt else (s.peer side).cause) =
      if (s.peer side).prober.ready then (s.peer side).cause else some pkt := by
    cases (s.peer side).prober.ready <;> simp
  by_cases hrequest : pkt.type = directProbeTypeRequest
  · refine ⟨[(side, (s.peer side).prober.packet E.hmac pkt.version directProbeTypeResponse
      pkt.nonce)], ?_, by simp, fun hresponse => ?_⟩
    · simp only [handle, DirectProber.handle, if_pos hrequest, hcause, map_some,
        toList_some, readySide]
    · rw [hrequest] at hresponse
      exact absurd hresponse (by decide)
  · have hresponse := hpkt.type.resolve_left hrequest
    refine ⟨[], ?_, by simp, fun _ => rfl⟩
    simp only [handle, DirectProber.handle, if_neg hrequest, if_pos hresponse, hcause,
      map_none, toList_none, readySide]

theorem Kept.handle (h : s.Kept E) (hkey : E.sessionKey ≠ []) (hpkt : E.Genuine pkt)
    (hproper : (s.peer side).prober.ready = false → s.Answers side pkt) (src : UDPAddr) :
    (s.handle E side pkt src).Kept E := by
  obtain ⟨sent, heq, hsent, -⟩ := handle_eq (s := s) side hpkt src
  have hself : (s.handle E side pkt src).peer side = readySide (s.peer side) pkt src := by
    rw [heq]
    exact update_self ..
  have hwire : (s.handle E side pkt src).wire = s.wire ++ sent := by rw [heq]
  have hsince : ((s.handle E side pkt src).peer side).since = (s.peer side).since := by
    rw [hself, readySide]
  refine h.change side hwire (fun side' hside => ?_) ?_ ?_ ?_ fun _ => ?_
  · exact update_of_ne hside ..
  · intro e he
    rw [hsent e he]
    exact (h.prober side).genuine_packet hkey _ _ (.inr rfl)
  · rw [hself]
    exact (h.prober side).markReady src
  · rw [hself]
    exact h.waiting side
  · rw [hself]
    cases hready : (s.peer side).prober.ready with
    | true =>
      obtain ⟨cause, hcause, hanswers⟩ := h.answered side hready
      exact ⟨cause, (if_pos hready).trans hcause, hanswers.mono hwire hsince⟩
    | false =>
      exact ⟨pkt, if_neg (by simp [hready]), (hproper hready).mono hwire hsince⟩

/-- A packet that is not an answer makes the prober ready all the same. -/
theorem not_answered_handle (hpkt : E.Genuine pkt) (hready : (s.peer side).prober.ready = false)
    (hanswers : ¬ s.Answers side pkt) (src : UDPAddr) : ¬ (s.handle E side pkt src).Answered := by
  obtain ⟨sent, heq, hsent, hresponse⟩ := handle_eq (s := s) side hpkt src
  intro hanswered
  rw [heq] at hanswered
  obtain ⟨cause, hcause, hpeer, hrequest⟩ := hanswered side (by simp [readySide])
  simp only [update_self, readySide] at hcause hpeer hrequest
  rw [if_neg (by simp [hready])] at hcause
  cases hcause
  apply hanswers
  have hdrop : ∀ e, e ∈ (s.wire ++ sent).drop (s.peer side).since →
      e ∈ s.wire.drop (s.peer side).since ∨ e ∈ sent := by
    intro e he
    rw [drop_append, mem_append] at he
    exact he.imp_right mem_of_mem_drop
  refine ⟨(hdrop _ hpeer).resolve_right fun hnew => ?_, fun htype => ?_⟩
  · exact side.other_ne (congrArg Prod.fst (hsent _ hnew))
  · obtain ⟨e, he, hrest⟩ := hrequest htype
    rw [hresponse htype, append_nil] at he
    exact ⟨e, he, hrest⟩

/-! ### One action -/

/-- Every action that brings a prober what is meant for it. -/
theorem Kept.step (h : s.Kept E) (hkey : E.sessionKey ≠ []) {a : ProbeAction}
    (hproper : s.Proper a) (hstep : s.step E a = some s') : s'.Kept E := by
  cases a with
  | start side candidates =>
    cases hstep
    refine h.change side (append_nil _).symm
      (fun _ hside => update_of_ne hside ..) (by simp) ?_ ?_ ?_
    all_goals rw [peer_put_self]
    · exact ⟨rfl, rfl⟩
    · exact fun _ _ _ hpc => nomatch hpc
    · exact fun hready => nomatch hready
  | next side addr nonce => exact h.next hkey hstep
  | tick side => exact h.tick hstep
  | expire side | observe side | cancel side =>
    rw [ProbeNet.step] at hstep
    split at hstep <;> cases hstep
    exact h.advance (by simp)
  | stop side =>
    cases hstep
    exact h.put rfl rfl rfl (h.waiting side)
  | deliver side datagram src =>
    rw [ProbeNet.step] at hstep
    split_ifs at hstep with hdelivered
    split at hstep
    · rename_i pkt haccepted
      cases hstep
      obtain ⟨hmem, hfront⟩ := (h.prober side).mem_wire_of_accepted hkey hdelivered.2 haccepted
      obtain ⟨e, he, rfl⟩ := mem_map.mp hmem
      exact h.handle hkey (h.wire e he) (fun hready => hproper hready e he hfront) src
    · cases hstep
      exact h

/-- A step that does not meet the condition leaves a peer ready for no reason. -/
theorem Kept.not_answered (h : s.Kept E) (hkey : E.sessionKey ≠ []) {a : ProbeAction}
    (hproper : ¬ s.Proper a) (hstep : s.step E a = some s') : ¬ s'.Answered := by
  cases a with
  | deliver side datagram src =>
    simp only [Proper, not_forall] at hproper
    obtain ⟨hready, e, he, hfront, hanswers⟩ := hproper
    have haccepted := (h.prober side).accepted_of_isPrefix hkey (h.wire e he) hfront
    rw [ProbeNet.step, haccepted] at hstep
    split_ifs at hstep
    cases hstep
    exact not_answered_handle (h.wire e he) hready hanswers src
  | start | next | tick | expire | observe | cancel | stop => exact absurd trivial hproper

/-- Along a run, whoever is ready has been answered exactly if every datagram
meets the condition. -/
theorem answered_iff (hkey : E.sessionKey ≠ []) {actions : List ProbeAction} {t : ProbeNet}
    (hrun : run (step E) (idle E) actions = some t) :
    Always (step E) Answered (idle E) actions ↔ Guarded (step E) Proper (idle E) actions :=
  always_iff_guarded (fun _ h => h.answered) (fun _ _ _ h => h.step hkey)
    (fun _ _ _ h => h.not_answered hkey) kept_idle hrun

end ProbeNet

/-! ## Runs -/

/-- A tag for computing: the message backwards. -/
def backwardsHMAC : HMAC :=
  ⟨fun _ data => (Fixed.copy 32 data.reverse).bytes, fun _ _ => Fixed.length_bytes _⟩

def probeEnv : ProbeEnv := ⟨backwardsHMAC, uuidOf 3, [7]⟩

def hostCandidate : DirectCandidate := ⟨ascii "10.0.0.2", 5000, ascii "host"⟩

def hostAddr (b : UInt8) : UDPAddr := ⟨[10, 0, 0, b], 5000⟩

def nonceOf (b : UInt8) : Fixed 8 := ⟨List.replicate 8 b, List.length_replicate⟩

/-- The datagram with a peer's request or response. -/
def probeBytes (type b : UInt8) : Bytes :=
  packDirectProbePacket (probeEnv.newProber.packet probeEnv.hmac 2 type (nonceOf b))

def exchangeRun : List ProbeAction :=
  [.start .near [hostCandidate], .start .far [],
    .next .near (some (hostAddr 2)) (nonceOf 1), .tick .near,
    .deliver .far (probeBytes directProbeTypeRequest 1) (hostAddr 1),
    .deliver .near (probeBytes directProbeTypeResponse 1) (hostAddr 2), .observe .near]

theorem exchangeRun_answered : (∃ s ∈ run (ProbeNet.step probeEnv) (.idle probeEnv) exchangeRun,
      (s.peer .near).pc = .returned (some (hostAddr 2))) ∧
      Always (ProbeNet.step probeEnv) ProbeNet.Answered (.idle probeEnv) exchangeRun :=
  ⟨by decide +kernel, of_run_isSome (by decide +kernel) fun _ hrun =>
    (ProbeNet.answered_iff (by decide) hrun).mpr (by decide +kernel)⟩

/-- A prober is ready when its own request comes back from anywhere.  And it is
ready on a response to a request of an earlier probe. -/
theorem reflectedRequest_ready : (∃ s ∈ run (ProbeNet.step probeEnv) (.idle probeEnv)
        [.start .near [hostCandidate], .next .near (some (hostAddr 2)) (nonceOf 1), .tick .near,
          .deliver .near (probeBytes directProbeTypeRequest 1) (hostAddr 66)],
      (s.peer .near).prober.ready = true ∧
      (s.peer .near).prober.lastFrom = some (hostAddr 66) ∧ ∀ e ∈ s.wire, e.1 = .near) ∧
    (∃ s ∈ run (ProbeNet.step probeEnv) (.idle probeEnv)
        [.start .far [], .start .near [hostCandidate],
          .next .near (some (hostAddr 2)) (nonceOf 1), .tick .near,
          .start .near [hostCandidate], .next .near (some (hostAddr 2)) (nonceOf 2), .tick .near,
          .deliver .far (probeBytes directProbeTypeRequest 1) (hostAddr 1),
          .deliver .near (probeBytes directProbeTypeResponse 1) (hostAddr 2)],
      (s.peer .near).prober.ready = true ∧
      ∃ pkt ∈ (s.peer .near).cause, pkt.type = directProbeTypeResponse ∧
        ∀ e ∈ s.wire.drop (s.peer .near).since, e.1 = .near → e.2.nonce ≠ pkt.nonce) := by
  decide +kernel

end LinkSocks
