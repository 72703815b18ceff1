import LinkSocks.Go.Tables
import LinkSocks.Relay.Buffers
import LinkSocks.Relay.Pairing

/-!
# The forward path of a pump

A pump takes the payloads of its channel out of the buffer, one at a time, and
writes them to the provider.  A payload whose write fails is kept for the next
provider.  So what was written, what the pump holds and what waits in the
buffer are together what was accepted, in this order.  Only a buffer that
expires before there is a provider breaks the sequence.
-/

namespace LinkSocks

open Go Server List Option

/-! ## Histories -/

/-- The messages that `routeConnectorPayload` is called for, with their
channel. -/
def payloadOf : BaseMessage → Option (UUID × BaseMessage)
  | .data m => some (m.channelID, .data m)
  | .sealed m => some (m.channelID, .sealed m)
  | _ => none

/-- The payload that an action routes. -/
def Relay.routed (E : RelayEnv) (r : Relay) : RelayAction → Option (UUID × BaseMessage)
  | .receive clientID data handled =>
    match r.sessions.lookup clientID, parseMessageWithVersion E.w E.lib data with
    | some session, (.ok msg, _) =>
      if handled && session.auth.roles.connector then payloadOf msg else none
    | _, _ => none
  | _ => none

/-- What comes into the channel's buffer when a payload is routed. -/
def Server.acceptedOf (s : Server) (id : UUID) : Option (UUID × BaseMessage) → List BaseMessage
  | some (channelID, msg) => if channelID = id ∧ s.accepts id = true then [msg] else []
  | none => []

/-- Whether an action takes the buffer away that the channel has. -/
def Relay.expires (id : UUID) (r : Relay) : RelayAction → Bool
  | .expireOrphanData channelID =>
    decide (channelID = id) && (r.server.orphanQueues.lookup id).isSome &&
      (r.server.channelIDToClient.lookup id).isNone
  | _ => false

/-- What an action of the channel's pump has written to its provider.  A write
that fails delivers nothing. -/
def Relay.deliveredBy (E : RelayEnv) (id : UUID) (r : Relay) :
    RelayAction → List (WriteKind × BaseMessage × Link)
  | .pump m (.written true) =>
    match r.pumps[m]? with
    | some p =>
      if p.request.channelID = id then
        ((p.step E r.server (.written true)).bind PumpMove.wrote).toList
      else []
    | none => []
  | _ => []

/-- The relay, with what was accepted for one channel and what its pump has
written.  `dropped` is how much had been accepted when the channel's buffer
last expired. -/
structure Forwarding where
  relay : Relay
  accepted : List BaseMessage
  dropped : ℕ
  wire : List (WriteKind × BaseMessage × Link)

def Forwarding.step (E : RelayEnv) (id : UUID) (f : Forwarding)
    (a : RelayAction) : Option Forwarding :=
  (f.relay.step E a).map fun relay =>
    { relay := relay
      accepted := f.accepted ++ f.relay.server.acceptedOf id (f.relay.routed E a)
      dropped := if f.relay.expires id a then f.accepted.length else f.dropped
      wire := f.wire ++ f.relay.deliveredBy E id a }

def payloads (wire : List (WriteKind × BaseMessage × Link)) : List BaseMessage :=
  (wire.filter fun w => w.1 = .payload).map fun w => w.2.1

/-- On every link a bind comes before the first payload. -/
def BindsFirst (wire : List (WriteKind × BaseMessage × Link)) : Prop :=
  ∀ (i : ℕ) msg provider, wire[i]? = some (WriteKind.payload, msg, provider) →
    ∃ j < i, ∃ bind, wire[j]? = some (WriteKind.bind, bind, provider)

/-- No cleanup of the channel, no removal of a token that takes the channel
away, and no second pump for it. -/
def Relay.serves (id : UUID) (n : ℕ) (r : Relay) : RelayAction → Bool
  | .cleanupConnectorChannel channelID => channelID ≠ id
  | .removeToken token =>
    (r.server.removeToken token).orphanQueues.lookup id = r.server.orphanQueues.lookup id &&
      (r.server.removeToken token).channelIDToClient.lookup id =
        r.server.channelIDToClient.lookup id
  | .pump m _ =>
    match r.pumps[m]? with
    | none => true
    | some p =>
      if p.request.channelID = id then
        match p.pc with
        | .cleanup => false
        | .start => decide (m = n) || (r.pumpActive.lookup id).isSome
        | _ => true
      else true
  | _ => true

/-! ## What a step of a pump does to payloads -/

/-- The pump has taken the buffer of its channel. -/
def PumpPC.attached : PumpPC → Bool
  | .bind | .drain | .send _ => true
  | _ => false

def PumpPC.sending : PumpPC → List BaseMessage
  | .send msg => [msg]
  | _ => []

/-- The payload that was taken out of the buffer and is not written. -/
def Pump.holds (p : Pump) : List BaseMessage := p.pc.sending ++ p.pending.toList

/-- The goroutine is on its way, and not about to write a payload or to clean
up. -/
def PumpPC.quiet : PumpPC → Bool
  | .start | .send _ | .cleanup | .done => false
  | _ => true

variable {pc : PumpPC} {move : PumpMove} {wire : List (WriteKind × BaseMessage × Link)}

theorem PumpPC.sending_of_quiet (h : pc.quiet = true) : pc.sending = [] := by
  cases pc <;> first | rfl | cases h

theorem PumpPC.sending_of_not_attached (h : pc.attached = false) : pc.sending = [] := by
  cases pc <;> first | rfl | cases h

/-- A write has come back without an error. -/
def PumpLabel.delivers : PumpLabel → Bool
  | .written ok => ok
  | _ => false

/-- Everything that a step of a pump can do, as far as payloads go. -/
inductive Pump.Moves (s : Server) (p : Pump) : PumpLabel → PumpMove → Prop where
  | idle {label : PumpLabel} {s' : Server} {pc : PumpPC} {boundBefore : Bool}
      {reverseWS : Option Link} {resolved : Option (List Bytes)}
      {wrote : Option (WriteKind × BaseMessage × Link)}
      (label_silent : label.delivers = false) (same : s.SameChannels s')
      (before : p.pc.quiet = true) (after : pc.attached = false) : Moves s p label
        ⟨s', { p with
          pc := pc, boundBefore := boundBefore, reverseWS := reverseWS,
          resolved := resolved }, wrote⟩
  | publish (provider : Link) (pc : p.pc = .publish) : Moves s p .next ⟨(p.publish s provider).1,
        { p with pc := .bind, queue := (p.publish s provider).2 }, none⟩
  | again (msg : BaseMessage) (pc : p.pc = .drain)
      (pending : p.pending = some msg) :
      Moves s p .next ⟨s, { p with pc := .send msg, pending := none }, none⟩
  | take (msg : BaseMessage) (items : List BaseMessage) (closed : Bool)
      (pc : p.pc = .drain) (pending : p.pending = none)
      (queue : s.queues[p.queue]? = some ⟨msg :: items, closed⟩) : Moves s p .next
        ⟨s.takeQueue p.queue items closed, { p with pc := .send msg }, none⟩
  | bound (provider : Link) (pc : p.pc = .bind)
      (reverseWS : p.reverseWS = some provider) : Moves s p (.written true)
        ⟨s, { p with pc := .drain, boundBefore := true },
          some (.bind, p.request.bindMessage p.boundBefore, provider)⟩
  | sent (msg : BaseMessage) (provider : Link) (pc : p.pc = .send msg)
      (reverseWS : p.reverseWS = some provider) : Moves s p (.written true)
        ⟨s, { p with pc := .drain }, some (.payload, msg, provider)⟩
  | sendFailed (msg : BaseMessage) (provider : Link) (pc : p.pc = .send msg) :
      Moves s p (.written false)
        ⟨s, { p with pc := .loop, pending := retained msg, reverseWS := none },
          some (.payload, msg, provider)⟩
  | cleanup (pc : p.pc = .cleanup) : Moves s p .next
        ⟨s.cleanupConnectorChannel p.request.channelID, { p with pc := .done }, none⟩

variable {label : PumpLabel} {s : Server} {p : Pump}

/-- Every step of a pump is one of its moves. -/
theorem Pump.step_moves {E : RelayEnv} {m : PumpMove} (h : p.step E s label = some m) :
    p.Moves s label m := by
  have hlookup := s.getNextWebSocketLocked_same p.reverseToken
  revert h
  fun_cases Pump.step E s p label <;> intro h
  case case8 major _ _ _ hnext | case9 major _ _ _ hnext _
      | case10 major _ _ _ hnext _ =>
    cases h
    have hsame := hlookup major
    rw [hnext] at hsame
    exact .idle rfl hsame (by simp [*, PumpPC.quiet]) rfl
  case case13 hpc =>
    obtain ⟨provider, -, rfl⟩ := map_eq_some_iff.mp h
    exact .publish provider hpc
  case case14 hpc msg hpending =>
    cases h
    exact .again msg hpc hpending
  case case16 hpc hpending msg items closed hqueue =>
    cases h
    exact .take msg items closed hpc hpending hqueue
  case case19 hpc =>
    cases h
    exact .cleanup hpc
  case case21 provider hprovider hpc _ =>
    cases h
    exact .bound provider hpc hprovider
  case case23 msg provider hprovider hpc _ =>
    cases h
    exact .sent msg provider hpc hprovider
  case case24 ok msg provider _ hpc _ hfailed =>
    cases h
    rw [Bool.not_eq_true] at hfailed
    subst hfailed
    exact .sendFailed msg provider hpc
  -- the other steps only move on
  all_goals cases h
  all_goals
    refine .idle ?_ ⟨⟨rfl, rfl, rfl⟩, rfl, rfl, rfl⟩ ?_ rfl <;>
      simp [*, PumpLabel.delivers, PumpPC.quiet]

/-- The goroutine has entered and not ended. -/
def PumpPC.live : PumpPC → Bool
  | .start | .done => false
  | _ => true

theorem Pump.Moves.live (h : p.Moves s label move) : p.pc.live = true := by
  cases h with
  | idle _ _ hquiet _ =>
    cases hpc : p.pc <;> rw [hpc] at hquiet <;> first | rfl | cases hquiet
  | publish _ hpc | again _ hpc | take _ _ _ hpc | bound _ hpc | sent _ _ hpc
  | sendFailed _ _ hpc | cleanup hpc => rw [hpc]; rfl

theorem Pump.Moves.aside {id : UUID} (h : p.Moves s label move)
    (hown : s.OwnBuffers) (hbuffer : p.pc.attached = true → s.BufferOf p.queue p.request.channelID)
    (hid : id ≠ p.request.channelID) :
    s.Keeps move.server ∧ Server.Spares id s move.server ∧ move.pump.request = p.request ∧
      (move.pump.pc.attached = true →
        move.server.BufferOf move.pump.queue p.request.channelID) := by
  have hsame : s.Keeps s ∧ Server.Spares id s s := ⟨.of_eq rfl rfl, .of_eq rfl rfl rfl⟩
  cases h with
  | idle _ hsame _ hafter =>
    refine ⟨hsame.keeps, hsame.spares, rfl, ?_⟩
    intro hattached
    rw [hafter] at hattached
    cases hattached
  | publish provider hpc =>
    have hkeeps := p.publish_keeps s provider
    refine ⟨hkeeps, p.publish_spares hown provider, rfl, fun _ => ?_⟩
    exact (hkeeps.own hown).belongsTo (p.lookup_publish s provider)
  | again msg hpc | bound provider hpc | sent msg provider hpc =>
    exact ⟨hsame.1, hsame.2, rfl, fun _ => hbuffer (by rw [hpc]; rfl)⟩
  | take msg items closed hpc =>
    have hq := hbuffer (by rw [hpc]; rfl)
    have hkeeps := s.takeQueue_keeps p.queue items closed
    refine ⟨hkeeps, .of_buffer rfl ?_ rfl, rfl, fun _ => hkeeps.bufferOf _ _ hq⟩
    exact hq.deref_of_ne hid fun _ hm => getElem?_set_ne hm.symm
  | sendFailed msg provider =>
    exact ⟨hsame.1, hsame.2, rfl, fun h => absurd h Bool.false_ne_true⟩
  | cleanup =>
    exact ⟨s.cleanupConnectorChannel_keeps _, cleanupConnectorChannel_spares hown hid, rfl,
      fun h => absurd h Bool.false_ne_true⟩

/-! ## The invariant -/

/-- What the pump numbered `n` holds, if it is one of the channel. -/
def Relay.held (id : UUID) (n : ℕ) (r : Relay) : List BaseMessage :=
  ((r.pumps[n]?).map fun p => if p.request.channelID = id then p.holds else []).getD []

/-- The pump that serves a channel: it drains the channel's buffer, and to a
link on which it has bound the channel. -/
structure Pump.Serving (s : Server) (wire : List (WriteKind × BaseMessage × Link))
    (p : Pump) : Prop where
  queue : p.pc.attached = true → s.orphanQueues.lookup p.request.channelID = some p.queue ∧
      (s.channelIDToClient.lookup p.request.channelID).isSome = true
  sending : p.pc.sending ≠ [] → p.pending = none
  bound : p.pc = .drain ∨ p.pc.sending ≠ [] →
    ∃ provider bind, p.reverseWS = some provider ∧ (WriteKind.bind, bind, provider) ∈ wire

structure Forwarding.Kept (id : UUID) (n : ℕ) (f : Forwarding) : Prop where
  own : f.relay.server.OwnBuffers
  attached : ∀ (m : ℕ) p, f.relay.pumps[m]? = some p → p.pc.attached = true →
    f.relay.server.BufferOf p.queue p.request.channelID
  single : ∀ (m : ℕ) p, f.relay.pumps[m]? = some p → p.request.channelID = id →
    m ≠ n → p.pc = .start ∨ p.pc = .done
  serving : ∀ p, f.relay.pumps[n]? = some p → p.request.channelID = id →
    p.Serving f.relay.server f.wire
  payload : ∀ msg ∈ f.accepted, retained msg = some msg
  dropped : f.dropped ≤ f.accepted.length
  stream : payloads f.wire ++ (f.relay.held id n ++ f.relay.server.items id) =
    f.accepted.drop f.dropped
  /-- As long as there is no provider nothing was taken. -/
  unbound : f.relay.server.channelIDToClient.lookup id = none →
    payloads f.wire ++ f.relay.held id n = []
  binds : BindsFirst f.wire

/-- A pump that an action leaves alone, or moves on without a payload. -/
inductive Pump.Settled (id : UUID) (n : ℕ) (pumps : List Pump) (s : Server)
    (m : ℕ) (p' : Pump) : Prop where
  | same (p : Pump) (mem : pumps[m]? = some p)
      (eq : p' = { p with joined := p'.joined })
  | quiet (pc : p'.pc.attached = false)
      (single : p'.request.channelID = id → m ≠ n → p'.pc = .start ∨ p'.pc = .done)
  | other (ne : p'.request.channelID ≠ id)
      (bufferOf : p'.pc.attached = true → s.BufferOf p'.queue p'.request.channelID)

theorem Pump.Serving.of_quiet (h : p.pc.attached = false) : p.Serving s wire := by
  have hsending := PumpPC.sending_of_not_attached h
  refine ⟨fun hpc => ?_, fun hpc => absurd hsending hpc, ?_⟩
  · rw [h] at hpc
    cases hpc
  · rintro (hpc | hpc)
    · rw [hpc] at h
      cases h
    · exact absurd hsending hpc

namespace Forwarding

variable {E : RelayEnv} {id : UUID} {n : ℕ} {f : Forwarding} {r : Relay}

/-- Everything but the payloads of the channel may change. -/
theorem Kept.frame (h : f.Kept id n) (hkeeps : f.relay.server.Keeps r.server)
    (hspares : Server.Spares id f.relay.server r.server)
    (hpumps : ∀ (m : ℕ) p', r.pumps[m]? = some p' → p'.Settled id n f.relay.pumps r.server m)
    (hheld : r.held id n = f.relay.held id n) : Kept id n { f with relay := r } where
  own := hkeeps.own h.own
  attached := by
    intro m p' hp' hattached
    cases hpumps m p' hp' with
    | same p hp heq =>
      rw [heq] at hattached ⊢
      exact hkeeps.bufferOf _ _ (h.attached m p hp hattached)
    | quiet hpc _ =>
      rw [hpc] at hattached
      cases hattached
    | other _ hbuffer => exact hbuffer hattached
  single := by
    intro m p' hp' hid hm
    cases hpumps m p' hp' with
    | same p hp heq =>
      rw [heq] at hid ⊢
      exact h.single m p hp hid hm
    | quiet _ hsingle => exact hsingle hid hm
    | other hne _ => exact absurd hid hne
  serving := by
    intro p' hp' hid
    cases hpumps n p' hp' with
    | same p hp heq =>
      rw [heq] at hid ⊢
      have hserving := h.serving p hp hid
      refine ⟨fun hattached => ?_, hserving.sending, hserving.bound⟩
      obtain ⟨hlookup, hclient⟩ := hserving.queue hattached
      subst hid
      exact ⟨hspares.ref _ hlookup, hspares.client hclient⟩
    | quiet hpc _ => exact .of_quiet hpc
    | other hne _ => exact absurd hid hne
  payload := h.payload
  dropped := h.dropped
  stream := by
    rw [hheld, hspares.items]
    exact h.stream
  unbound := by
    intro hnone
    rw [hheld]
    refine h.unbound ?_
    by_contra hsome
    have hclient := hspares.client (isSome_iff_ne_none.mpr hsome)
    rw [hnone] at hclient
    cases hclient
  binds := h.binds

theorem held_of_pump {p : Pump} (hp : r.pumps[n]? = some p)
    (hid : p.request.channelID = id) : r.held id n = p.holds := by
  rw [Relay.held, hp]
  simp [hid]

theorem held_set {r' : Relay} {m : ℕ} {p p' : Pump}
    (hp : r.pumps[m]? = some p) (hpumps : r'.pumps = r.pumps.set m p')
    (hrequest : p'.request = p.request) (hholds : p.request.channelID = id → p'.holds = p.holds) :
    r'.held id n = r.held id n := by
  have hlt := (List.getElem?_eq_some_iff.mp hp).1
  by_cases hm : m = n
  · subst hm
    simp only [Relay.held, hpumps, getElem?_set_self hlt, hp, map_some, hrequest]
    split
    · rw [hholds ‹_›]
    · rfl
  · simp only [Relay.held, hpumps, getElem?_set_ne hm]

theorem settled_set {s : Server} {pumps pumps' : List Pump} {m : ℕ} {p' : Pump}
    (hpumps : pumps' = pumps.set m p') (hp' : p'.Settled id n pumps s m) (i : ℕ)
    (q : Pump) (hq : pumps'[i]? = some q) : q.Settled id n pumps s i := by
  rw [hpumps] at hq
  rcases getElem?_set_cases hq with ⟨rfl, rfl⟩ | ⟨-, hold⟩
  · exact hp'
  · exact .same q hold rfl

end Forwarding

/-! ## Payloads and binds of a log -/

theorem BindsFirst.snoc
    (h : BindsFirst wire) {w : WriteKind × BaseMessage × Link} (hw : w.1 = .payload →
      ∃ bind, (WriteKind.bind, bind, w.2.2) ∈ wire) : BindsFirst (wire ++ [w]) := by
  have hkept {j : ℕ} {x : WriteKind × BaseMessage × Link}
      (hj : wire[j]? = some x) : j < wire.length ∧ (wire ++ [w])[j]? = some x := by
    have hlt := (List.getElem?_eq_some_iff.mp hj).1
    exact ⟨hlt, (getElem?_append_left hlt).trans hj⟩
  intro i msg provider hi
  rcases getElem?_concat_cases hi with hold | ⟨rfl, rfl⟩
  · obtain ⟨j, hj, bind, hbind⟩ := h i msg provider hold
    exact ⟨j, hj, bind, (hkept hbind).2⟩
  · obtain ⟨bind, hbind⟩ := hw rfl
    obtain ⟨j, hj⟩ := mem_iff_getElem?.mp hbind
    exact ⟨j, (hkept hj).1, bind, (hkept hj).2⟩

/-! ## Steps of the pump that serves the channel -/

namespace Forwarding

section Serve

variable {n : ℕ} {f : Forwarding} {p : Pump} {move : PumpMove} {label : PumpLabel}
  {msg : BaseMessage} {provider : Link}

section Own

variable (h : f.Kept p.request.channelID n) (hp : f.relay.pumps[n]? = some p)

include h hp

theorem Kept.serve {wire : List (WriteKind × BaseMessage × Link)}
    (hrequest : move.pump.request = p.request) (hkeeps : f.relay.server.Keeps move.server)
    (hserving : move.pump.Serving move.server wire)
    (hstream : payloads wire ++ (move.pump.holds ++ move.server.items p.request.channelID) =
      f.accepted.drop f.dropped)
    (hclient : (move.server.channelIDToClient.lookup p.request.channelID).isSome = true)
    (hbinds : BindsFirst wire) : Kept p.request.channelID n
      { f with relay := f.relay.movePump n p move, wire := wire } := by
  have hself : (f.relay.pumps.set n move.pump)[n]? = some move.pump := getElem?_set_of_some hp
  have hother (m : ℕ) (hm : m ≠ n) : (f.relay.pumps.set n move.pump)[m]? = f.relay.pumps[m]? :=
    getElem?_set_ne hm.symm
  have hid : move.pump.request.channelID = p.request.channelID := by rw [hrequest]
  refine ⟨hkeeps.own h.own, ?_, ?_, ?_, h.payload, h.dropped, ?_, ?_, hbinds⟩
  · intro m q hq hattached
    by_cases hm : m = n
    · subst hm
      cases hself.symm.trans hq
      exact (hkeeps.own h.own).belongsTo (hserving.queue hattached).1
    · exact hkeeps.bufferOf _ _ (h.attached m q ((hother m hm).symm.trans hq) hattached)
  · exact fun m q hq hqid hm =>
      h.single m q ((hother m hm).symm.trans hq) hqid hm
  · intro q hq _
    cases hself.symm.trans hq
    exact hserving
  · rw [held_of_pump hself hid]
    exact hstream
  · intro hnone
    cases hclient.symm.trans (congrArg isSome hnone)

theorem Kept.publish (hpc : p.pc = .publish) : Kept p.request.channelID n { f with
      relay := f.relay.movePump n p ⟨(p.publish f.relay.server provider).1,
          { p with pc := .bind, queue := (p.publish f.relay.server provider).2 }, none⟩ } := by
  have hstream := h.stream
  rw [held_of_pump hp rfl, Pump.holds, hpc] at hstream
  have hclient : (AList.lookup p.request.channelID
      (p.publish f.relay.server provider).1.channelIDToClient).isSome = true := by
    rw [p.client_publish f.relay.server provider]
    rfl
  refine h.serve hp rfl (p.publish_keeps _ provider) ?_ ?_ hclient h.binds
  · refine ⟨fun _ => ⟨p.lookup_publish f.relay.server provider, hclient⟩,
      fun hpc => absurd rfl hpc, ?_⟩
    rintro (hpc | hpc)
    · cases hpc
    · exact absurd rfl hpc
  · rw [(Pump.publish_spares h.own p provider).items]
    exact hstream

theorem Kept.again (hpc : p.pc = .drain) (hpending : p.pending = some msg) :
    Kept p.request.channelID n { f with
      relay := f.relay.movePump n p
        ⟨f.relay.server, { p with pc := .send msg, pending := none }, none⟩ } := by
  have hserving := h.serving p hp rfl
  have hstream := h.stream
  rw [held_of_pump hp rfl, Pump.holds, hpc, hpending] at hstream
  have hqueue := hserving.queue (by rw [hpc]; rfl)
  exact h.serve hp rfl (.of_eq rfl rfl)
    ⟨fun _ => hqueue, fun _ => rfl, fun _ => hserving.bound (.inl hpc)⟩ hstream
    hqueue.2 h.binds

theorem Kept.take (hpc : p.pc = .drain) (hpending : p.pending = none)
    {items : List BaseMessage} {closed : Bool}
    (hqueue : f.relay.server.queues[p.queue]? = some ⟨msg :: items, closed⟩) :
    Kept p.request.channelID n { f with
      relay := f.relay.movePump n p
        ⟨f.relay.server.takeQueue p.queue items closed, { p with pc := .send msg },
          none⟩ } := by
  have hserving := h.serving p hp rfl
  have hstream := h.stream
  obtain ⟨hlookup, hclient⟩ := hserving.queue (by rw [hpc]; rfl)
  rw [held_of_pump hp rfl, Pump.holds, hpc, hpending, items_takeQueue hlookup hqueue] at hstream
  refine h.serve hp rfl (takeQueue_keeps ..) ⟨fun _ => ⟨hlookup, hclient⟩, fun _ => hpending,
      fun _ => hserving.bound (.inl hpc)⟩ ?_ hclient h.binds
  rw [hpending]
  exact hstream

theorem Kept.bound (hpc : p.pc = .bind) (hprovider : p.reverseWS = some provider)
    (bind : BaseMessage) : Kept p.request.channelID n { f with
      relay := f.relay.movePump n p ⟨f.relay.server,
        { p with pc := .drain, boundBefore := true }, some (.bind, bind, provider)⟩
      wire := f.wire ++ [(.bind, bind, provider)] } := by
  have hstream := h.stream
  rw [held_of_pump hp rfl, Pump.holds, hpc] at hstream
  have hqueue := (h.serving p hp rfl).queue (by rw [hpc]; rfl)
  refine h.serve hp rfl (.of_eq rfl rfl) ?_ ?_ hqueue.2 (h.binds.snoc (by simp))
  · exact ⟨fun _ => hqueue, fun hpc => absurd rfl hpc,
      fun _ => ⟨provider, bind, hprovider, by simp⟩⟩
  · simpa [payloads, Pump.holds, PumpPC.sending] using hstream

theorem Kept.sending (hpc : p.pc = .send msg) : p.pending = none ∧ payloads f.wire ++
        (msg :: f.relay.server.items p.request.channelID) = f.accepted.drop f.dropped := by
  have hnone := (h.serving p hp rfl).sending (by rw [hpc]; exact cons_ne_nil _ _)
  have hstream := h.stream
  rw [held_of_pump hp rfl, Pump.holds, hpc, hnone] at hstream
  exact ⟨hnone, hstream⟩

theorem Kept.sent (hpc : p.pc = .send msg) (hprovider : p.reverseWS = some provider) :
    Kept p.request.channelID n { f with
      relay := f.relay.movePump n p
        ⟨f.relay.server, { p with pc := .drain }, some (.payload, msg, provider)⟩
      wire := f.wire ++ [(.payload, msg, provider)] } := by
  have hserving := h.serving p hp rfl
  obtain ⟨hnone, hstream⟩ := h.sending hp hpc
  have hqueue := hserving.queue (by rw [hpc]; rfl)
  obtain ⟨provider', bind, hprovider', hbind⟩ :=
    hserving.bound (.inr (by rw [hpc]; exact cons_ne_nil _ _))
  cases hprovider.symm.trans hprovider'
  refine h.serve hp rfl (.of_eq rfl rfl) ?_ ?_ hqueue.2 (h.binds.snoc fun _ => ⟨bind, hbind⟩)
  · exact ⟨fun _ => hqueue, fun hpc => absurd rfl hpc,
      fun _ => ⟨provider, bind, hprovider, mem_append_left _ hbind⟩⟩
  · rw [Pump.holds, hnone]
    simpa [payloads, PumpPC.sending] using hstream

theorem Kept.sendFailed (hpc : p.pc = .send msg) : Kept p.request.channelID n { f with
      relay := f.relay.movePump n p ⟨f.relay.server,
          { p with pc := .loop, pending := retained msg, reverseWS := none },
          some (.payload, msg, provider)⟩ } := by
  obtain ⟨-, hstream⟩ := h.sending hp hpc
  have hqueue := (h.serving p hp rfl).queue (by rw [hpc]; rfl)
  have haccepted : msg ∈ f.accepted.drop f.dropped := by
    rw [← hstream]
    simp
  refine h.serve hp rfl (.of_eq rfl rfl) (.of_quiet rfl) ?_ hqueue.2 h.binds
  rw [h.payload msg (mem_of_mem_drop haccepted)]
  exact hstream

/-- A step of the pump of the channel, up to its cleanup. -/
theorem Kept.moves {delivered : List (WriteKind × BaseMessage × Link)}
    (hpc : p.pc ≠ .cleanup) (hmoves : p.Moves f.relay.server label move)
    (hwritten : label.delivers = true → delivered = move.wrote.toList)
    (hnothing : label.delivers = false → delivered = []) : Kept p.request.channelID n
      { f with relay := f.relay.movePump n p move, wire := f.wire ++ delivered } := by
  cases hmoves with
  | idle hlabel hsame hbefore hafter =>
    rw [hnothing hlabel, append_nil]
    refine h.frame hsame.keeps hsame.spares
      (settled_set rfl (.quiet hafter fun _ hn => absurd rfl hn))
      (held_set hp rfl rfl fun _ => ?_)
    rw [Pump.holds, Pump.holds, PumpPC.sending_of_quiet hbefore,
      PumpPC.sending_of_not_attached hafter]
  | publish provider hpublish =>
    rw [hnothing rfl, append_nil]
    exact h.publish hp hpublish
  | again msg hdrain hpending =>
    rw [hnothing rfl, append_nil]
    exact h.again hp hdrain hpending
  | take msg items closed hdrain hpending hqueue =>
    rw [hnothing rfl, append_nil]
    exact h.take hp hdrain hpending hqueue
  | bound provider hbind hprovider =>
    rw [hwritten rfl]
    exact h.bound hp hbind hprovider _
  | sent msg provider hsend hprovider =>
    rw [hwritten rfl]
    exact h.sent hp hsend hprovider
  | sendFailed msg provider hsend =>
    rw [hnothing rfl, append_nil]
    exact h.sendFailed hp hsend
  | cleanup hcleanup => exact absurd hcleanup hpc

end Own

/-- A step of the pump of another channel. -/
theorem Kept.moves_other {id : UUID} {m : ℕ} (h : f.Kept id n)
    (hp : f.relay.pumps[m]? = some p) (hid : id ≠ p.request.channelID)
    (hmoves : p.Moves f.relay.server label move) :
    Kept id n { f with relay := f.relay.movePump m p move } := by
  obtain ⟨hkeeps, hspares, hrequest, hbuffer⟩ := hmoves.aside h.own (h.attached m p hp) hid
  refine h.frame hkeeps hspares (settled_set rfl (.other ?_ ?_))
    (held_set hp rfl hrequest fun heq => absurd heq.symm hid)
  · rw [hrequest]
    exact hid.symm
  · rw [hrequest]
    exact hbuffer

end Serve

/-! ## Other actions -/

section Actions

variable {E : RelayEnv} {id : UUID} {n : ℕ} {f : Forwarding} {r : Relay}
  {label : PumpLabel} {m : ℕ} {p : Pump} {f' : Forwarding}

section

variable (h : f.Kept id n)
include h

theorem Kept.spared (hpumps : r.pumps = f.relay.pumps)
    (hkeeps : f.relay.server.Keeps r.server) (hspares : Server.Spares id f.relay.server r.server) :
    Kept id n { f with relay := r } := by
  refine h.frame hkeeps hspares (fun m p hp => ?_) ?_
  · rw [hpumps] at hp
    exact .same p hp rfl
  · rw [Relay.held, hpumps]
    rfl

/-- A second request joins a pump. -/
theorem Kept.joined {owner : ℕ} {ws : Link}
    (hpumps : r.pumps = f.relay.pumps.modify owner fun q => { q with joined := ws :: q.joined })
    (hkeeps : f.relay.server.Keeps r.server) (hspares : Server.Spares id f.relay.server r.server) :
    Kept id n { f with relay := r } := by
  refine h.frame hkeeps hspares (fun m q hq => ?_) ?_
  · rw [hpumps, getElem?_modify] at hq
    obtain ⟨p, hp, rfl⟩ := map_eq_some_iff.mp hq
    refine .same p hp ?_
    split <;> rfl
  · rw [Relay.held, hpumps, List.getElem?_modify]
    simp only [Option.map_eq_map, Option.map_map, Relay.held]
    split <;> rfl

/-- A pump starts, or finds that the channel has one. -/
theorem Kept.startPump (hp : f.relay.pumps[m]? = some p) (hpc : p.pc = .start)
    (hserves : p.request.channelID = id → m = n ∨ (f.relay.pumpActive.lookup id).isSome = true) :
    Kept id n { f with relay := f.relay.startPump m p } := by
  have hholds {pc : PumpPC} (hquiet : pc.attached = false) :
      Pump.holds { p with pc := pc } = p.holds := by
    rw [Pump.holds, Pump.holds, hpc, PumpPC.sending_of_not_attached hquiet]
    rfl
  rw [Relay.startPump]
  split
  · rename_i hactive
    refine h.frame (.of_eq rfl rfl) (.of_eq rfl rfl rfl)
      (settled_set rfl (.quiet rfl ?_)) (held_set hp rfl rfl fun _ => hholds rfl)
    -- without an active pump this is the one that serves the channel
    intro hid hm
    subst hid
    rcases hserves rfl with heq | hsome
    · exact absurd heq hm
    · rw [hactive] at hsome
      cases hsome
  · have hdone : Kept id n { f with relay := { f.relay with
        pumps := f.relay.pumps.set m { p with pc := .done } } } :=
      h.frame (.of_eq rfl rfl) (.of_eq rfl rfl rfl)
        (settled_set rfl (.quiet rfl fun _ _ => .inr rfl))
        (held_set hp rfl rfl fun _ => hholds rfl)
    exact hdone.joined rfl (.of_eq rfl rfl) (.of_eq rfl rfl rfl)

theorem Kept.leavePump (hp : f.relay.pumps[m]? = some p) (hpc : p.pc = .leave) :
    Kept id n { f with relay := f.relay.leavePump m p } := by
  refine h.frame (.of_eq rfl rfl) (.of_eq rfl rfl rfl)
    (settled_set rfl (.quiet rfl fun hid hm => ?_))
    (held_set hp rfl rfl fun _ => ?_)
  · rcases h.single m p hp hid hm with hstart | hdone
    · exact nomatch hpc.symm.trans hstart
    · exact nomatch hpc.symm.trans hdone
  · rw [Pump.holds, Pump.holds, hpc]
    rfl

theorem Kept.request {session : Session} {clientID : UUID} {request : ChannelRequest} :
    Kept id n { f with relay := f.relay.request session clientID request } := by
  refine h.frame (reserveOrphanQueue_keeps ..)
    (reserveOrphanQueue_spares h.own _) (fun m q hq => ?_) ?_
  · rcases getElem?_concat_cases hq with hold | ⟨-, rfl⟩
    · exact .same q hold rfl
    · exact .quiet rfl fun _ _ => .inl rfl
  · rw [Relay.held, Relay.held, Relay.request]
    rcases Nat.lt_trichotomy n f.relay.pumps.length with hlt | heq | hgt
    · rw [getElem?_append_left hlt]
    · -- the new pump is the one that will serve the channel
      subst heq
      simp [Session.pump, Pump.holds, PumpPC.sending]
    · have hlength : (f.relay.pumps ++ [session.pump clientID request]).length ≤ n := by
        rw [length_append]
        exact hgt
      rw [getElem?_eq_none hlength, getElem?_eq_none hgt.le]

theorem Kept.route_self {msg : BaseMessage} (hpayload : retained msg = some msg) :
    Kept id n { f with
        relay := { f.relay with
          server := f.relay.server.routeConnectorPayload id msg }
        accepted := f.accepted ++ if f.relay.server.accepts id then [msg] else [] } where
  own := (routeConnectorPayload_keeps ..).own h.own
  attached := fun m p hp hattached =>
    (routeConnectorPayload_keeps ..).bufferOf _ _ (h.attached m p hp hattached)
  single := h.single
  serving := by
    intro p hp hid
    have hserving := h.serving p hp hid
    refine ⟨fun hattached => ?_, hserving.sending, hserving.bound⟩
    obtain ⟨hlookup, hclient⟩ := hserving.queue hattached
    subst hid
    rw [(routeConnectorPayload_sameMapping ..).client]
    refine ⟨?_, hclient⟩
    simp only [routeConnectorPayload, hlookup]
    exact hlookup
  payload := by
    intro other hother
    rcases mem_append.mp hother with hold | hnew
    · exact h.payload other hold
    · split at hnew
      · rw [mem_singleton.mp hnew]
        exact hpayload
      · cases hnew
  dropped := by
    rw [length_append]
    exact Nat.le_add_right_of_le h.dropped
  stream := by
    rw [items_routeConnectorPayload h.own, drop_append_of_le_length h.dropped, ← h.stream]
    simp only [append_assoc]
    rfl
  unbound := by
    rw [(routeConnectorPayload_sameMapping ..).client]
    exact h.unbound
  binds := h.binds

/-- A payload is routed to its channel. -/
theorem Kept.route (channelID : UUID) {msg : BaseMessage}
    (hpayload : retained msg = some msg) : Kept id n { f with
        relay := { f.relay with
          server := f.relay.server.routeConnectorPayload channelID msg }
        accepted := f.accepted ++
          f.relay.server.acceptedOf id (some (channelID, msg)) } := by
  by_cases hid : channelID = id
  · subst hid
    simp only [Server.acceptedOf, true_and]
    exact h.route_self hpayload
  · simp only [Server.acceptedOf, hid, false_and, if_false, append_nil]
    exact h.spared rfl (routeConnectorPayload_keeps ..)
      (routeConnectorPayload_spares h.own (Ne.symm hid) msg)

theorem Kept.connectorMessage (session : Session)
    (clientID : UUID) (msg : BaseMessage) : Kept id n { f with
        relay := f.relay.connectorMessage session clientID msg
        accepted := f.accepted ++
          f.relay.server.acceptedOf id (payloadOf msg) } := by
  have hnothing (hnone : payloadOf msg = none) :
      f.accepted ++ f.relay.server.acceptedOf id (payloadOf msg) = f.accepted := by
    rw [hnone]
    exact append_nil _
  cases msg with
  | data m => exact h.route m.channelID rfl
  | «sealed» m => exact h.route m.channelID rfl
  | connect m | channelOpen m =>
    rw [hnothing rfl]
    exact h.request
  | _ =>
    rw [hnothing rfl]
    exact h

/-- The channel's buffer expires: nothing of what was in it was taken. -/
theorem Kept.expire {q : ℕ} (hlookup : f.relay.server.orphanQueues.lookup id = some q)
    (hclient : f.relay.server.channelIDToClient.lookup id = none) : Kept id n { f with
        relay := { f.relay with server := f.relay.server.expireOrphanData id }
        dropped := f.accepted.length } := by
  have hserver : f.relay.server.expireOrphanData id = { f.relay.server with
        orphanQueues := f.relay.server.orphanQueues.erase id }.closeQueue q := by
    simp only [Server.expireOrphanData, hlookup, hclient]
  have hkeeps := f.relay.server.expireOrphanData_keeps id
  have hitems : (f.relay.server.expireOrphanData id).items id = [] := by
    refine items_of_lookup_none ?_
    rw [hserver]
    exact AList.lookup_erase ..
  refine ⟨hkeeps.own h.own, ?_, h.single, ?_, h.payload, le_rfl, ?_, ?_, h.binds⟩
  · exact fun m p hp hattached =>
      hkeeps.bufferOf _ _ (h.attached m p hp hattached)
  · intro p hp hid
    have hserving := h.serving p hp hid
    refine ⟨fun hattached => ?_, hserving.sending, hserving.bound⟩
    -- a pump that is attached has given the channel a provider
    have hsome := (hserving.queue hattached).2
    rw [hid, hclient] at hsome
    cases hsome
  · rw [hitems, drop_length, append_nil]
    exact h.unbound hclient
  · exact fun _ => h.unbound hclient

end

theorem deliveredBy_eq_nil
    (h : label.delivers = false) : r.deliveredBy E id (.pump m label) = [] := by
  cases label with
  | written ok =>
    have hok : ok = false := h
    rw [hok]
    rfl
  | _ => rfl

theorem deliveredBy_other (hp : r.pumps[m]? = some p) (hid : p.request.channelID ≠ id) :
    r.deliveredBy E id (.pump m label) = [] := by
  cases hlabel : label.delivers with
  | false => exact deliveredBy_eq_nil hlabel
  | true =>
    cases label with
    | written ok =>
      have hok : ok = true := hlabel
      rw [hok]
      simp only [Relay.deliveredBy, hp, if_neg hid]
    | _ => cases hlabel

theorem deliveredBy_step {move : PumpMove}
    (hp : r.pumps[m]? = some p) (hid : p.request.channelID = id)
    (hmove : p.step E r.server label = some move) (hlabel : label.delivers = true) :
    r.deliveredBy E id (.pump m label) = move.wrote.toList := by
  cases label with
  | written ok =>
    have hok : ok = true := hlabel
    subst hok
    simp only [Relay.deliveredBy, hp, if_pos hid, hmove, bind_some]
  | _ => cases hlabel

theorem Kept.pump (h : f.Kept id n) (hserves : f.relay.serves id n (.pump m label) = true)
    (hstep : f.relay.stepPump E m label = some r) : Kept id n { f with
      relay := r
      wire := f.wire ++ f.relay.deliveredBy E id (.pump m label) } := by
  obtain ⟨p, hp, hcases⟩ := Relay.stepPump_spec hstep
  simp only [Relay.serves, hp] at hserves
  rcases hcases with ⟨hpc, rfl, rfl⟩ | ⟨hpc, rfl, rfl⟩ | ⟨move, hmove, rfl⟩
  · have hnothing : f.relay.deliveredBy E id (.pump m .next) = [] := rfl
    rw [hnothing, append_nil]
    refine h.startPump hp hpc fun hid => ?_
    simpa [hid, hpc] using hserves
  · have hnothing : f.relay.deliveredBy E id (.pump m .next) = [] := rfl
    rw [hnothing, append_nil]
    exact h.leavePump hp hpc
  · have hmoves := Pump.step_moves hmove
    by_cases hid : p.request.channelID = id
    · have hm : m = n := by
        by_contra hm
        have hlive := hmoves.live
        rcases h.single m p hp hid hm with hpc | hpc
        · rw [hpc] at hlive
          cases hlive
        · rw [hpc] at hlive
          cases hlive
      subst hm
      have hpc : p.pc ≠ .cleanup := by
        intro hpc
        simp [hid, hpc] at hserves
      subst hid
      exact h.moves hp hpc hmoves (deliveredBy_step hp rfl hmove) deliveredBy_eq_nil
    · rw [deliveredBy_other hp hid, append_nil]
      exact h.moves_other hp (Ne.symm hid) hmoves

theorem Kept.receive (h : f.Kept id n) {clientID : UUID} {data : Bytes}
    {handled : Bool} (hstep : f.relay.receive E clientID data handled = some r) : Kept id n { f with
      relay := r
      accepted := f.accepted ++ f.relay.server.acceptedOf id
        (f.relay.routed E (.receive clientID data handled)) } := by
  rw [Relay.receive] at hstep
  split at hstep
  · rename_i session msg version hsession hparse
    have hversion : Kept id n { f with relay := { f.relay with
        server := f.relay.server.setProtocolVersion session.link version } } :=
      h.spared rfl (.of_eq rfl rfl) (.of_eq rfl rfl rfl)
    simp only [Relay.routed, hsession, hparse]
    split at hstep
    · split at hstep
      · rename_i hconnector
        cases hstep
        rw [if_pos hconnector]
        exact hversion.connectorMessage session clientID msg
      · rename_i hconnector
        cases hstep
        rw [if_neg hconnector]
        exact (append_nil f.accepted).symm ▸ hversion
    · cases hstep
  · cases hstep

theorem step_of_silent {a : RelayAction} (hrouted : f.relay.routed E a = none)
    (hexpires : f.relay.expires id a = false) (hdelivered : f.relay.deliveredBy E id a = [])
    (hstep : f.step E id a = some f') :
    ∃ r, f.relay.step E a = some r ∧ f' = { f with relay := r } := by
  obtain ⟨r, hr, rfl⟩ := map_eq_some_iff.mp hstep
  refine ⟨r, hr, ?_⟩
  simp [hrouted, hexpires, hdelivered, Server.acceptedOf]

/-- A timer that fires while the channel has a provider does nothing. -/
theorem Kept.expireOrphanData (h : f.Kept id n)
    (hstep : f.step E id (.expireOrphanData id) = some f') : f'.Kept id n := by
  have hunchanged (hserver : f.relay.server.expireOrphanData id = f.relay.server)
      (hexpires : f.relay.expires id (.expireOrphanData id) = false) : f'.Kept id n := by
    obtain ⟨r, hr, rfl⟩ := step_of_silent rfl hexpires rfl hstep
    cases hr
    exact h.spared rfl (.of_eq (by rw [hserver]) (by rw [hserver]))
      (.of_eq (by rw [hserver]) (by rw [hserver]) (by rw [hserver]))
  cases hlookup : f.relay.server.orphanQueues.lookup id with
  | none =>
    exact hunchanged (by simp only [Server.expireOrphanData, hlookup])
      (by simp [Relay.expires, hlookup])
  | some q =>
    cases hclient : f.relay.server.channelIDToClient.lookup id with
    | some client =>
      exact hunchanged (by simp only [Server.expireOrphanData, hlookup, hclient])
        (by simp [Relay.expires, hclient])
    | none =>
      cases hstep
      have hkept := h.expire hlookup hclient
      simpa [Relay.routed, Server.acceptedOf, Relay.expires, hlookup, hclient,
        Relay.deliveredBy] using hkept

/-- Every action that leaves the channel to its pump. -/
theorem Kept.step (h : f.Kept id n) {a : RelayAction} (hserves : f.relay.serves id n a = true)
    (hstep : f.step E id a = some f') : f'.Kept id n := by
  cases a with
  | receive clientID data handled =>
    obtain ⟨r, hr, rfl⟩ := map_eq_some_iff.mp hstep
    have hkept := h.receive hr
    simpa [Relay.expires, Relay.deliveredBy] using hkept
  | pump m label =>
    obtain ⟨r, hr, rfl⟩ := map_eq_some_iff.mp hstep
    have hkept := h.pump hserves hr
    simpa [Relay.routed, Relay.expires, Server.acceptedOf] using hkept
  | expireOrphanData channelID =>
    by_cases hid : channelID = id
    · subst hid
      exact h.expireOrphanData hstep
    · obtain ⟨r, hr, rfl⟩ := step_of_silent rfl (by simp [Relay.expires, hid]) rfl hstep
      cases hr
      exact h.spared rfl (expireOrphanData_keeps ..)
        (expireOrphanData_spares h.own (Ne.symm hid))
  | cleanupConnectorChannel channelID =>
    obtain ⟨r, hr, rfl⟩ := step_of_silent rfl rfl rfl hstep
    cases hr
    have hne : channelID ≠ id := by simpa [Relay.serves] using hserves
    exact h.spared rfl (cleanupConnectorChannel_keeps ..)
      (cleanupConnectorChannel_spares h.own hne.symm)
  | removeToken token =>
    obtain ⟨r, hr, rfl⟩ := step_of_silent rfl rfl rfl hstep
    cases hr
    have hforgets := f.relay.server.removeToken_forgets token
    simp only [Relay.serves, Bool.and_eq_true, decide_eq_true_eq] at hserves
    exact h.spared rfl hforgets.keeps (hforgets.spares hserves.1 hserves.2)
  | authenticate | register | disconnect | updateTokens =>
    obtain ⟨r, hr, rfl⟩ := step_of_silent rfl rfl rfl hstep
    obtain ⟨server, sessions, rfl, hsame⟩ := Relay.step_registers hr rfl
    exact h.spared rfl hsame.keeps hsame.spares
  | bindChannel channelID client connector =>
    obtain ⟨r, hr, rfl⟩ := step_of_silent rfl rfl rfl hstep
    cases hr
    exact h.spared rfl (.of_eq rfl rfl) (bindChannel_spares ..)

end Actions

end Forwarding

/-! ## Whole runs -/

structure Relay.Fresh (r : Relay) : Prop where
  pumps : r.pumps = []
  orphanQueues : r.server.orphanQueues = ∅
  queues : r.server.queues = []

def newForwarding (r : Relay) : Forwarding := ⟨r, [], 0, []⟩

theorem newForwarding_kept {r : Relay} (h : r.Fresh) (id : UUID) (n : ℕ) :
    (newForwarding r).Kept id n := by
  have hpump {m : ℕ} {p : Pump} {P : Prop} (hp : r.pumps[m]? = some p) : P := by
    rw [h.pumps] at hp
    cases hp
  have hown : r.server.OwnBuffers := by
    rw [Server.OwnBuffers, h.orphanQueues, h.queues]
    exact .empty
  have hheld : r.held id n = [] := by
    rw [Relay.held, h.pumps]
    rfl
  have hitems : r.server.items id = [] := by
    refine items_of_lookup_none ?_
    rw [h.orphanQueues]
    rfl
  refine ⟨hown, fun m p hp => hpump hp, fun m p hp => hpump hp,
    fun p hp => hpump hp, by simp [newForwarding], le_rfl, ?_, fun _ => hheld,
    by simp [newForwarding, BindsFirst]⟩
  exact (congrArg₂ _ hheld hitems).trans rfl

/-- Whatever becomes of links and providers, the pump of a channel writes the
payloads that were accepted since its buffer last expired, in order and each
one once, and binds a provider before it writes to it. -/
theorem run_forwards_in_order (E : RelayEnv) {id : UUID} {n : ℕ} {r : Relay}
    {actions : List RelayAction} {f : Forwarding} (hfresh : r.Fresh)
    (hguard : Guarded (Forwarding.step E id)
      (fun f a => f.relay.serves id n a = true) (newForwarding r) actions)
    (hrun : run (Forwarding.step E id) (newForwarding r) actions = some f) :
    payloads f.wire <+: f.accepted.drop f.dropped ∧ BindsFirst f.wire := by
  have hkept : f.Kept id n := run_invariant (fun _ _ _ h => h.step)
      (newForwarding_kept hfresh id n) hguard hrun
  refine ⟨?_, hkept.binds⟩
  rw [← hkept.stream]
  exact prefix_append ..

/-! ## Runs with one connector -/

def waitingEnv : RelayEnv := { relayEnv with connectorWait := 60 }

def sealedPayload (b : UInt8) : BaseMessage := .sealed ⟨UUID.nil, [b]⟩

def sealedFrame (b : UInt8) : Bytes :=
  protocolVersionV2 :: binaryTypeSealed :: (UUID.nil.bytes ++ [0, 0, 0, 1, b])

def joinProvider (link : Link) (clientID : UUID) : List RelayAction :=
  [.authenticate link clientID
      (.frame (authFrame protocolVersionV2 (ascii "r") true)) (ascii "r"),
    .register clientID]

/-- The connector opens a channel and sends a first payload; the pump looks
for a provider. -/
def lookingRun : List RelayAction :=
  [.authenticate 2 (uuidOf 2)
      (.frame (authFrame protocolVersionV2 (ascii "c") false)) (ascii "c"),
    .register (uuidOf 2), .receive (uuidOf 2) openFrame true,
    .receive (uuidOf 2) (sealedFrame 1) true, .pump 0 .next, .pump 0 (.resolved none),
    .pump 0 .next, .pump 0 .next, .pump 0 .next]

/-- The first provider takes one payload; the write of the next one fails, and
the second provider gets it. -/
def rebindRun : List RelayAction :=
  joinProvider 1 (uuidOf 1) ++ joinProvider 3 (uuidOf 3) ++ lookingRun ++
    [.receive (uuidOf 2) (sealedFrame 2) true, .pump 0 .next, .pump 0 (.written true),
      .pump 0 .next, .pump 0 (.written true), .pump 0 .next, .pump 0 (.written false),
      .pump 0 .next, .pump 0 .next, .pump 0 .next, .pump 0 .next, .pump 0 (.written true),
      .pump 0 .next, .pump 0 (.written true)]

def forwarded (actions : List RelayAction) : Option (List BaseMessage × List BaseMessage × ℕ) :=
  (run (Forwarding.step waitingEnv UUID.nil)
    (newForwarding (idleRelay pairRegistry protocolVersionV2)) actions).map
      fun f => (payloads f.wire, f.accepted, f.dropped)

theorem rebindRun_forwards : ∃ f, run (Forwarding.step waitingEnv UUID.nil)
        (newForwarding (idleRelay pairRegistry protocolVersionV2)) rebindRun = some f ∧
      payloads f.wire = [sealedPayload 1, sealedPayload 2] ∧
      payloads f.wire <+: f.accepted.drop f.dropped ∧ BindsFirst f.wire := by
  have hforwarded : forwarded rebindRun = some ([sealedPayload 1, sealedPayload 2],
        [sealedPayload 1, sealedPayload 2], 0) := by
    decide +kernel
  obtain ⟨f, hrun, hf⟩ := map_eq_some_iff.mp hforwarded
  refine ⟨f, hrun, congrArg Prod.fst hf, ?_⟩
  exact run_forwards_in_order (n := 0) waitingEnv ⟨rfl, rfl, rfl⟩ (by decide +kernel) hrun

/-- The buffer expires while the pump waits, and a provider comes after the
next payload. -/
def expiredRun : List RelayAction :=
  lookingRun ++ [.expireOrphanData UUID.nil,
      .receive (uuidOf 2) (sealedFrame 2) true] ++ joinProvider 1 (uuidOf 1) ++
    [.pump 0 .woken, .pump 0 .next, .pump 0 .next, .pump 0 (.written true), .pump 0 .next,
      .pump 0 (.written true)]

theorem expiredRun_skips_payload : Guarded (Forwarding.step waitingEnv UUID.nil)
        (fun f a => f.relay.serves UUID.nil 0 a = true)
        (newForwarding (idleRelay pairRegistry protocolVersionV2)) expiredRun ∧
      ∃ f, run (Forwarding.step waitingEnv UUID.nil)
          (newForwarding (idleRelay pairRegistry protocolVersionV2)) expiredRun = some f ∧
        f.accepted = [sealedPayload 1, sealedPayload 2] ∧ payloads f.wire = [sealedPayload 2] ∧
        ¬ payloads f.wire <+: f.accepted := ⟨by decide +kernel, exists_run (by decide +kernel)⟩

end LinkSocks
