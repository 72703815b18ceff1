import LinkSocks.Relay.Forwarding

/-!
# One pump after another

A pump that returns gives up its channel in one critical section
(`delete(pumpActive, …)`) and destroys the channel's state in a later one
(`cleanupConnectorChannel`).  A channel has one working pump at a time; but a
request that begins between the two sections gets a pump of its own, whose
mapping and queue the old pump then takes away, and a request that begins
before them is absorbed by a pump that will serve nobody any more.
-/

namespace LinkSocks

open Go Relay List Option AList

deriving instance DecidableEq for PumpPC

/-- The goroutine owns its channel in `pumpActive`. -/
def PumpPC.working : PumpPC → Bool
  | .start | .cleanup | .done => false
  | _ => true

theorem PumpPC.live_of_working {pc : PumpPC} (h : pc.working = true) : pc.live = true := by
  cases pc <;> trivial

/-- The goroutine is about to return, and has not cleaned up yet. -/
def PumpPC.exiting : PumpPC → Bool
  | .leave | .cleanup => true
  | _ => false

def PumpPC.atBind : PumpPC → Bool
  | .bind => true
  | _ => false

theorem PumpPC.ne_bind {pc : PumpPC} (h : pc.atBind = false) : pc ≠ .bind := by
  rintro rfl
  contradiction

theorem PumpPC.working_or_cleanup {pc : PumpPC} (h : pc.live = true) :
    pc.working = true ∨ pc = .cleanup := by
  cases pc
  case start => cases h
  case done => cases h
  case cleanup => exact .inr rfl
  all_goals exact .inl rfl

/-! ## What an action does to the pumps -/

/-- The request whose goroutine begins with an action. -/
def Relay.beginning (r : Relay) : RelayAction → Option ChannelRequest
  | .pump n .next =>
    match r.pumps[n]? with
    | some p =>
      match p.pc with
      | .start => some p.request
      | _ => none
    | none => none
  | _ => none

/-- Everything that an action can do to the pumps. -/
inductive Relay.PumpsStep (E : RelayEnv) (r : Relay) : RelayAction → Relay → Prop where
  | aside {a : RelayAction} {r' : Relay}
      (action : ∀ n label, a ≠ .pump n label) (pumps : r'.pumps = r.pumps)
      (active : r'.pumpActive = r.pumpActive) (silent : r.arriving E a = none) : PumpsStep E r a r'
  | request {a : RelayAction} {r' : Relay} (session : Session)
      (clientID : UUID) (request : ChannelRequest)
      (action : ∀ n label, a ≠ .pump n label)
      (arrives : r.arriving E a = some request)
      (pumps : r'.pumps = r.pumps ++ [session.pump clientID request])
      (active : r'.pumpActive = r.pumpActive) : PumpsStep E r a r'
  | enter (n : ℕ) (p : Pump) (pump : r.pumps[n]? = some p) (pc : p.pc = .start)
      (free : r.pumpActive.lookup p.request.channelID = none) :
      PumpsStep E r (.pump n .next) (r.startPump n p)
  | join (n : ℕ) (p : Pump) (owner : ℕ) (pump : r.pumps[n]? = some p)
      (pc : p.pc = .start)
      (owned : r.pumpActive.lookup p.request.channelID = some owner) :
      PumpsStep E r (.pump n .next) (r.startPump n p)
  | leave (n : ℕ) (p : Pump) (pump : r.pumps[n]? = some p) (pc : p.pc = .leave) :
      PumpsStep E r (.pump n .next) (r.leavePump n p)
  | move (n : ℕ) (p : Pump) (label : PumpLabel) (m : PumpMove)
      (pump : r.pumps[n]? = some p) (step : p.step E r.server label = some m) :
      PumpsStep E r (.pump n label) (r.movePump n p m)

section Steps

variable {E : RelayEnv} {r r' : Relay} {a : RelayAction}

theorem Relay.step_pumpActive (h : r.step E a = some r') (hpump : ∀ n label, a ≠ .pump n label) :
    r'.pumpActive = r.pumpActive := by
  cases a with
  | pump n label => exact absurd rfl (hpump n label)
  | receive clientID data handled =>
    obtain ⟨-, -, -, -, -, -, -, hactive, -⟩ := receive_spec h
    exact hactive
  | authenticate | register | disconnect | updateTokens =>
    obtain ⟨server, sessions, rfl, -⟩ := step_registers h rfl
    rfl
  | _ =>
    cases h
    rfl

/-- What a step does to the pumps. -/
theorem Relay.step_pumps (h : r.step E a = some r') : r.PumpsStep E a r' := by
  cases a with
  | pump n label =>
    obtain ⟨p, hp, hcase⟩ := stepPump_spec h
    rcases hcase with ⟨hpc, rfl, rfl⟩ | ⟨hpc, rfl, rfl⟩ | ⟨m, hm, rfl⟩
    · cases hactive : r.pumpActive.lookup p.request.channelID with
      | none => exact .enter n p hp hpc hactive
      | some owner => exact .join n p owner hp hpc hactive
    · exact .leave n p hp hpc
    · exact .move n p label m hp hm
  | receive clientID data handled =>
    obtain ⟨session, -, -, -, -, -, -, hactive, hpumps⟩ := receive_spec h
    rcases hpumps with ⟨hsame, hsilent⟩ | ⟨request, harrives, hadded⟩
    · exact .aside nofun hsame hactive hsilent
    · exact .request session clientID request nofun harrives hadded hactive
  | _ =>
    exact .aside nofun (step_other h nofun nofun).2.1 (step_pumpActive h nofun) rfl

theorem Relay.startPump_enter {n : ℕ} {p : Pump}
    (hfree : r.pumpActive.lookup p.request.channelID = none) : r.startPump n p = { r with
        pumpActive := r.pumpActive.insert p.request.channelID n
        pumps := r.pumps.set n { p with pc := .access } } := by
  rw [Relay.startPump, hfree]

theorem Relay.step_start {n : ℕ} {p : Pump} (h : r.step E (.pump n .next) = some r')
    (hp : r.pumps[n]? = some p) (hpc : p.pc = .start) : r' = r.startPump n p := by
  have hstart : r.step E (.pump n .next) = some (r.startPump n p) := by
    simp only [Relay.step, Relay.stepPump, hp, hpc]
  exact some.inj (h.symm.trans hstart)

theorem Relay.step_length (h : r.step E a = some r') : r.pumps.length ≤ r'.pumps.length := by
  cases step_pumps h with
  | aside _ hpumps => rw [hpumps]
  | request session clientID request _ _ hpumps => simp [hpumps]
  | enter n p | join n p =>
    rw [Relay.startPump]
    split <;> simp
  | leave | move => exact (length_set ..).ge

/-- A pump keeps its request. -/
theorem Relay.step_request (h : r.step E a = some r') {m : ℕ} {q : Pump}
    (hq : r'.pumps[m]? = some q) : (∃ p, r.pumps[m]? = some p ∧ q.request = p.request) ∨
      (r.pumps[m]? = none ∧ r.arriving E a = some q.request) := by
  cases step_origin h hq with
  | kept hold => exact .inl ⟨q, hold, rfl⟩
  | arrived _ _ _ _ harrives hlast => exact .inr ⟨getElem?_eq_none hlast.ge, harrives⟩
  | entered p _ hp | joined p _ _ hp | left p _ hp => exact .inl ⟨p, hp, rfl⟩
  | absorbed _ _ o _ _ _ _ ho => exact .inl ⟨o, ho, rfl⟩
  | moved p _ _ _ hp hmove => exact .inl ⟨p, hp, (Pump.step_spec hmove).request⟩

end Steps

/-! ## What a step does to a pump -/

/-- The step has sent a bind. -/
def PumpMove.binds (m : PumpMove) : Bool :=
  match m.wrote with
  | some (.bind, _, _) => true
  | _ => false

/-- A pump keeps its channel until it leaves, and ends when it has cleaned up.
It remembers that it has tried to bind, and gets a provider by a lookup. -/
structure Pump.Course (s : Server) (p : Pump) (label : PumpLabel) (m : PumpMove) : Prop where
  pc : (p.pc.working = true ∧ m.pump.pc.working = true) ∨
    (p.pc = .cleanup ∧ label = .next ∧ m.pump.pc = .done ∧
      m.server = s.cleanupConnectorChannel p.request.channelID)
  binding : (∃ provider ok, p.pc = .bind ∧ label = .written ok ∧ p.reverseWS = some provider ∧
      m.wrote = some (.bind, p.request.bindMessage p.boundBefore, provider) ∧
      m.pump.boundBefore = true ∧ m.pump.reverseWS = if ok then some provider else none) ∨
    (p.pc ≠ .bind ∧ m.binds = false ∧ m.pump.boundBefore = p.boundBefore ∧
      (m.pump.reverseWS = p.reverseWS ∨ m.pump.reverseWS = none ∨
        ∃ major conn, p.pc = .wait major ∧ label = .next ∧ m.pump.reverseWS = some conn ∧
          (s.getNextWebSocketLocked p.reverseToken major).1 = .ok conn))

section Course

variable {E : RelayEnv} {s s' : Server} {p q : Pump} {label : PumpLabel}
  {m : PumpMove} {pc : PumpPC}

theorem Pump.Course.onward {wrote : Option (WriteKind × BaseMessage × Link)}
    (hpc : p.pc = pc) (hbefore : pc.working = true) (hbind : pc.atBind = false)
    (hafter : q.pc.working = true) (hbound : q.boundBefore = p.boundBefore)
    (hwrote : PumpMove.binds ⟨s', q, wrote⟩ = false)
    (hprovider : q.reverseWS = p.reverseWS ∨ q.reverseWS = none) :
    p.Course s label ⟨s', q, wrote⟩ where
  pc := .inl ⟨hpc ▸ hbefore, hafter⟩
  binding := by
    refine .inr ⟨PumpPC.ne_bind (hpc ▸ hbind), hwrote, hbound, ?_⟩
    rcases hprovider with hsame | hnone
    · exact .inl hsame
    · exact .inr (.inl hnone)

theorem Pump.Course.working_of_working (h : p.Course s label m)
    (hafter : m.pump.pc.working = true) : p.pc.working = true := by
  rcases h.pc with ⟨hbefore, -⟩ | ⟨-, -, hdone, -⟩
  · exact hbefore
  · rw [hdone] at hafter
    contradiction

/-- Every step of a pump keeps to its course. -/
theorem Pump.step_course (h : p.step E s label = some m) : p.Course s label m := by
  revert h
  fun_cases Pump.step E s p label <;> intro h
  case case8 major hpc conn _ hnext =>
    cases h
    refine ⟨.inl (by simp [hpc, PumpPC.working]), .inr ⟨by simp [hpc], rfl, rfl, ?_⟩⟩
    exact .inr (.inr ⟨major, conn, hpc, rfl, rfl, by rw [hnext]⟩)
  case case13 hpc =>
    obtain ⟨provider, -, rfl⟩ := map_eq_some_iff.mp h
    exact .onward hpc rfl rfl rfl rfl rfl (.inl rfl)
  case case19 hpc =>
    cases h
    exact ⟨.inr ⟨hpc, rfl, rfl, rfl⟩, .inr ⟨by simp [hpc], rfl, rfl, .inl rfl⟩⟩
  case case21 provider hprovider hpc _ =>
    cases h
    exact ⟨.inl (by simp [hpc, PumpPC.working]),
      .inl ⟨provider, true, hpc, rfl, hprovider, rfl, rfl, hprovider⟩⟩
  case case22 ok provider hprovider hpc _ hfailed =>
    cases h
    exact ⟨.inl (by simp [hpc, PumpPC.working]),
      .inl ⟨provider, ok, hpc, rfl, hprovider, rfl, rfl, (if_neg hfailed).symm⟩⟩
  -- the other steps only move on
  all_goals cases h
  all_goals exact .onward ‹p.pc = _› rfl rfl rfl rfl rfl (by simp)

end Course

section Life

variable {E : RelayEnv} {r r' : Relay} {a : RelayAction} {m : ℕ} {p q : Pump}
  (h : r.step E a = some r')
include h

/-- A pump that is live has been live before the step, and has worked if it works now, or
it has just entered. -/
theorem Relay.step_live (hq : r'.pumps[m]? = some q) (hlive : q.pc.live = true) :
    ∃ p, r.pumps[m]? = some p ∧ q.ws = p.ws ∧ q.request = p.request ∧
      ((p.pc.live = true ∧ (q.pc.working = true → p.pc.working = true)) ∨
        (a = .pump m .next ∧ p.pc = .start ∧
          r.pumpActive.lookup p.request.channelID = none)) := by
  cases step_origin h hq with
  | kept hold => exact ⟨q, hold, rfl, rfl, .inl ⟨hlive, id⟩⟩
  | arrived | joined => contradiction
  | entered p haction hp hpc hfree => exact ⟨p, hp, rfl, rfl, .inr ⟨haction, hpc, hfree⟩⟩
  | absorbed _ _ o _ _ _ _ ho => exact ⟨o, ho, rfl, rfl, .inl ⟨hlive, id⟩⟩
  | left p _ hp hpc => exact ⟨p, hp, rfl, rfl, .inl ⟨by rw [hpc]; rfl, nofun⟩⟩
  | moved p label move _ hp hmove =>
    have hspec := Pump.step_spec hmove
    exact ⟨p, hp, hspec.ws, hspec.request,
      .inl ⟨(Pump.step_moves hmove).live, (Pump.step_course hmove).working_of_working⟩⟩

/-- A working pump goes on working, until it leaves. -/
theorem Relay.step_keeps (hp : r.pumps[m]? = some p) (hworking : p.pc.working = true)
    (hstays : a = .pump m .next → p.pc ≠ .leave) :
    ∃ q, r'.pumps[m]? = some q ∧ q.request = p.request ∧ q.pc.working = true := by
  obtain ⟨hlt, -⟩ := List.getElem?_eq_some_iff.mp hp
  obtain ⟨q, hq⟩ : ∃ q, r'.pumps[m]? = some q :=
    ⟨_, List.getElem?_eq_getElem (hlt.trans_le (step_length h))⟩
  refine ⟨q, hq, ?_⟩
  cases step_origin h hq with
  | kept hold =>
    cases hp.symm.trans hold
    exact ⟨rfl, hworking⟩
  | arrived _ _ _ _ _ hlast => exact absurd hlast hlt.ne
  | entered o _ ho hpc | joined o _ _ ho hpc =>
    cases hp.symm.trans ho
    rw [hpc] at hworking
    contradiction
  | absorbed _ _ o _ _ _ _ ho =>
    cases hp.symm.trans ho
    exact ⟨rfl, hworking⟩
  | left o haction ho hpc =>
    cases hp.symm.trans ho
    exact absurd hpc (hstays haction)
  | moved o label move _ ho hmove =>
    cases hp.symm.trans ho
    refine ⟨(Pump.step_spec hmove).request, ?_⟩
    rcases (Pump.step_course hmove).pc with ⟨-, hafter⟩ | ⟨hpc, -⟩
    · exact hafter
    · rw [hpc] at hworking
      contradiction

end Life

/-! ## One working pump for each channel -/

/-- `pumpActive` names the working pump of each channel. -/
structure Relay.Owned (r : Relay) : Prop where
  owner : ∀ id n, r.pumpActive.lookup id = some n →
    ∃ p, r.pumps[n]? = some p ∧ p.request.channelID = id ∧ p.pc.working = true
  active : ∀ n p, r.pumps[n]? = some p → p.pc.working = true →
    r.pumpActive.lookup p.request.channelID = some n

/-- No other pump of a channel is between its beginning and its end. -/
def Relay.Alone (r : Relay) : Prop :=
  ∀ (n m : ℕ) (p q : Pump), n ≠ m → r.pumps[n]? = some p → r.pumps[m]? = some q →
    p.request.channelID = q.request.channelID → p.pc.live = true → q.pc.live = false

/-- The channel has an open buffer, and it is the one that the pump drains, or
will take. -/
def Pump.serves (s : Server) (p : Pump) : Bool :=
  (s.orphanQueues.lookup p.request.channelID).any fun q =>
    (s.queues[q]?).any (!·.closed) && (!p.pc.attached || p.queue == q)

/-- The pump is exiting: it is about to return, or has lost the buffer of its
channel. -/
def Pump.exits (s : Server) (p : Pump) : Bool :=
  p.pc.exiting || (decide (p.pc ≠ .done) && !p.serves s)

/-- A pump of the channel is exiting. -/
def Relay.exiting (r : Relay) (id : UUID) : Bool :=
  r.pumps.any fun p => p.exits r.server && decide (p.request.channelID = id)

/-- No request arrives or begins while a pump of its channel is exiting. -/
def Relay.handsOver (E : RelayEnv) (r : Relay) (a : RelayAction) : Bool :=
  ((r.arriving E a).toList ++ (r.beginning a).toList).all fun request =>
    !r.exiting request.channelID

section Ownership

variable {E : RelayEnv} {r r' : Relay} {a : RelayAction} {n : ℕ} {p p' : Pump}

theorem Pump.exits_of_pc {s : Server} (h : p.pc.exiting = true) : p.exits s = true := by
  rw [Pump.exits, h, Bool.true_or]

theorem Relay.exiting_of_pump {id : UUID} (hp : r.pumps[n]? = some p)
    (hexits : p.exits r.server = true) (hid : p.request.channelID = id) : r.exiting id = true := by
  refine any_eq_true.mpr ⟨p, mem_of_getElem? hp, ?_⟩
  rw [hexits, hid]
  exact decide_eq_true rfl

theorem Relay.handsOver_arriving {request : ChannelRequest}
    (h : r.handsOver E a = true) (harrives : r.arriving E a = some request) :
    r.exiting request.channelID = false := by
  have hall := all_eq_true.mp h request
    (mem_append_left _ (by rw [harrives]; exact mem_singleton_self _))
  exact Bool.not_eq_true' _ ▸ hall

theorem Relay.handsOver_beginning
    (h : r.handsOver E (.pump n .next) = true) (hp : r.pumps[n]? = some p)
    (hpc : p.pc = .start) : r.exiting p.request.channelID = false := by
  have hbegins : r.beginning (.pump n .next) = some p.request := by
    simp only [Relay.beginning, hp, hpc]
  have hall := all_eq_true.mp h p.request
    (mem_append_right _ (by rw [hbegins]; exact mem_singleton_self _))
  exact Bool.not_eq_true' _ ▸ hall

theorem Relay.Initial.owned (h : r.Initial) : r.Owned where
  owner := by
    intro id n hn
    rw [h.pumpActive] at hn
    cases hn
  active := by
    intro n p hp
    rw [h.pumps] at hp
    cases hp

theorem Relay.Initial.alone (h : r.Initial) : r.Alone := by
  intro n m p q _ hp
  rw [h.pumps] at hp
  cases hp

namespace Relay.Owned

theorem kept (h : r.Owned) (hstep : r.step E a = some r') {id : UUID}
    (hn : r.pumpActive.lookup id = some n)
    (hstays : ∀ p, a = .pump n .next → r.pumps[n]? = some p → p.pc ≠ .leave) :
    ∃ q, r'.pumps[n]? = some q ∧ q.request.channelID = id ∧ q.pc.working = true := by
  obtain ⟨p, hp, rfl, hwork⟩ := h.owner id n hn
  obtain ⟨q, hq, hrequest, hafter⟩ := step_keeps hstep hp hwork fun haction => hstays p haction hp
  exact ⟨q, hq, by rw [hrequest], hafter⟩

theorem step (h : r.Owned) (hstep : r.step E a = some r') : r'.Owned where
  owner := by
    intro id m hm
    have hstays : ∀ {n : ℕ} {p : Pump}, r.pumps[n]? = some p → p.pc ≠ .leave →
        ∀ q label, RelayAction.pump n label = .pump m .next → r.pumps[m]? = some q →
          q.pc ≠ .leave := by
      rintro n p hp hpc q label ⟨⟩ hq
      cases hp.symm.trans hq
      exact hpc
    cases step_pumps hstep with
    | aside haction _ hactive | request _ _ _ haction _ _ hactive =>
      exact h.kept hstep (hactive ▸ hm) fun _ heq => absurd heq (haction _ _)
    | enter n p hp hpc hfree =>
      rw [startPump_enter hfree] at hm
      rcases lookup_insert_cases hm with ⟨rfl, rfl⟩ | ⟨-, hold⟩
      · rw [startPump_enter hfree]
        exact ⟨_, getElem?_set_of_some hp, rfl, rfl⟩
      · exact h.kept hstep hold fun q => hstays hp (by rw [hpc]; nofun) q _
    | join n p owner hp hpc howned =>
      rw [Relay.startPump, howned] at hm
      exact h.kept hstep hm fun q => hstays hp (by rw [hpc]; nofun) q _
    | leave n p hp hpc =>
      have hid : id ≠ p.request.channelID := by
        rintro rfl
        cases hm.symm.trans (lookup_erase _ r.pumpActive)
      have hold := (lookup_erase_ne hid).symm.trans hm
      refine h.kept hstep hold fun q heq hq => ?_
      cases heq
      obtain ⟨o, ho, hoid, -⟩ := h.owner id m hold
      cases hp.symm.trans ho
      exact absurd hoid.symm hid
    | move n p label move hp hmove =>
      refine h.kept hstep hm fun q => hstays hp (fun hpc => ?_) q _
      cases label <;> simp [Pump.step, hpc] at hmove
  active := by
    intro m q hq hwork
    obtain ⟨p, hp, -, hrequest, ⟨-, hbefore⟩ | ⟨rfl, hpc, hfree⟩⟩ :=
      step_live hstep hq (PumpPC.live_of_working hwork)
    swap
    · rw [hrequest, step_start hstep hp hpc, startPump_enter hfree]
      exact lookup_insert r.pumpActive
    have howns := h.active m p hp (hbefore hwork)
    rw [hrequest]
    cases step_pumps hstep with
    | aside _ _ hactive | request _ _ _ _ _ _ hactive => rwa [hactive]
    | enter n o ho _ hfree =>
      rw [startPump_enter hfree]
      refine (lookup_insert_ne fun hid => ?_).trans howns
      rw [hid, hfree] at howns
      contradiction
    | join n o owner _ _ howned =>
      rw [Relay.startPump, howned]
      exact howns
    | leave n o ho hpc =>
      -- the pump that leaves is the one that owns the channel
      refine (lookup_erase_ne fun hid => ?_).trans howns
      rw [hid, h.active n o ho (by rw [hpc]; rfl)] at howns
      cases howns
      cases (getElem?_set_of_some ho).symm.trans hq
      contradiction
    | move => exact howns

end Relay.Owned

namespace Relay.Alone

/-- Where a request begins, another live pump would be working, and own the
channel, or be exiting. -/
theorem not_live_of_begins (hown : r.Owned) (hguard : r.handsOver E (.pump n .next) = true)
    (hp : r.pumps[n]? = some p) (hpc : p.pc = .start)
    (hfree : r.pumpActive.lookup p.request.channelID = none) {m : ℕ} {q : Pump}
    (hq : r.pumps[m]? = some q) (hid : q.request.channelID = p.request.channelID) :
    q.pc.live = false := by
  refine Bool.eq_false_iff.mpr fun hlive => ?_
  rcases PumpPC.working_or_cleanup hlive with hwork | hcleanup
  · have howns := hown.active m q hq hwork
    rw [hid, hfree] at howns
    contradiction
  · have hquiet := handsOver_beginning hguard hp hpc
    rw [exiting_of_pump hq (Pump.exits_of_pc (by rw [hcleanup]; rfl)) hid] at hquiet
    contradiction

theorem step (h : r.Alone) (hown : r.Owned)
    (hguard : r.handsOver E a = true) (hstep : r.step E a = some r') : r'.Alone := by
  intro i j x y hij hx hy hid hxlive
  refine Bool.eq_false_iff.mpr fun hylive => ?_
  obtain ⟨p, hp, -, hpr, hplive⟩ := step_live hstep hx hxlive
  obtain ⟨q, hq, -, hqr, hqlive⟩ := step_live hstep hy hylive
  rw [hpr, hqr] at hid
  rcases hplive with ⟨hplive, -⟩ | ⟨rfl, hpc, hfree⟩
  · rcases hqlive with ⟨hqlive, -⟩ | ⟨rfl, hqc, hfree⟩
    · rw [h i j p q hij hp hq hid hplive] at hqlive
      contradiction
    · rw [not_live_of_begins hown hguard hq hqc hfree hp hid] at hplive
      contradiction
  · rcases hqlive with ⟨hqlive, -⟩ | ⟨heq, -⟩
    · rw [not_live_of_begins hown hguard hp hpc hfree hq hid.symm] at hqlive
      contradiction
    · cases heq
      exact hij rfl

end Relay.Alone

end Ownership

/-! ## A pump cleans up after itself -/

/-- The relay, with the number of requests that had arrived when each pump
began to exit. -/
structure Exits where
  relay : Relay
  exitAt : ℕ → Option ℕ

/-- The pump is exiting in the second relay, and was not in the first. -/
def Relay.turnsToExit (r r' : Relay) (n : ℕ) : Bool :=
  !(r.pumps[n]?).any (Pump.exits r.server) && (r'.pumps[n]?).any (Pump.exits r'.server)

def Exits.step (E : RelayEnv) (x : Exits) (a : RelayAction) : Option Exits :=
  (x.relay.step E a).map fun r =>
    ⟨r, fun n => if x.relay.turnsToExit r n then some r.pumps.length else x.exitAt n⟩

/-- No request of a channel has arrived since a pump of it began to exit. -/
def Exits.Quiet (x : Exits) : Prop :=
  ∀ (n : ℕ) (p : Pump), x.relay.pumps[n]? = some p → p.exits x.relay.server = true →
    ∃ k, x.exitAt n = some k ∧ ∀ (m : ℕ) (q : Pump), k ≤ m →
      x.relay.pumps[m]? = some q → q.request.channelID ≠ p.request.channelID

section CleansUp

variable {E : RelayEnv} {x x' : Exits} {a : RelayAction}

theorem Exits.step_relay (h : x.step E a = some x') : x.relay.step E a = some x'.relay := by
  obtain ⟨r, hr, rfl⟩ := map_eq_some_iff.mp h
  exact hr

theorem Exits.Quiet.step (h : x.Quiet) (hguard : x.relay.handsOver E a = true)
    (hstep : x.step E a = some x') : x'.Quiet := by
  obtain ⟨r', hr', rfl⟩ := map_eq_some_iff.mp hstep
  intro n p' hp' hexits
  by_cases hold : (x.relay.pumps[n]?).any (Pump.exits x.relay.server) = true
  · cases hp : x.relay.pumps[n]? with
    | none =>
      rw [hp] at hold
      contradiction
    | some p =>
      have hpexits : p.exits x.relay.server = true := by rwa [hp, any_some] at hold
      obtain ⟨k, hk, hlate⟩ := h n p hp hpexits
      have hrequest : p'.request = p.request := by
        rcases step_request hr' hp' with ⟨o, ho, hsame⟩ | ⟨hnone, -⟩
        · cases hp.symm.trans ho
          exact hsame
        · cases hp.symm.trans hnone
      refine ⟨k, ?_, fun m q' hm hq' hid => ?_⟩
      · simp only [Relay.turnsToExit, hold, Bool.not_true, Bool.false_and, Bool.false_eq_true,
          if_false, hk]
      · rw [hrequest] at hid
        rcases step_request hr' hq' with ⟨q, hq, hsame⟩ | ⟨-, harrives⟩
        · exact hlate m q hm hq (hsame ▸ hid)
        · -- an arrival for the channel would break the guard
          have hquiet := handsOver_arriving hguard harrives
          rw [exiting_of_pump hp hpexits hid.symm] at hquiet
          contradiction
  · -- the pump begins to exit with this step
    refine ⟨r'.pumps.length, ?_, fun m q' hm hq' => ?_⟩
    · simp only [Relay.turnsToExit, hold, hp', any_some, hexits, Bool.not_false, Bool.and_self,
        if_true]
    · rw [getElem?_eq_none hm] at hq'
      contradiction

/-- The state of the channel that a pump works on: the mapping it has published
and the queue that is reserved for it, or that it has taken. -/
structure Pump.Undisturbed (q : Pump) (s s' : Server) : Prop where
  client : s'.channelIDToClient.lookup q.request.channelID =
    s.channelIDToClient.lookup q.request.channelID
  connector : s'.channelIDToConnector.lookup q.request.channelID =
    s.channelIDToConnector.lookup q.request.channelID
  reserved : s'.orphanQueues.lookup q.request.channelID = s.orphanQueues.lookup q.request.channelID
  queue : s'.queues[q.queue]? = s.queues[q.queue]?

structure Exits.Orderly (x : Exits) : Prop where
  owned : x.relay.Owned
  alone : x.relay.Alone
  quiet : x.Quiet

theorem Exits.Orderly.step (h : x.Orderly)
    (hguard : x.relay.handsOver E a = true) (hstep : x.step E a = some x') : x'.Orderly where
  owned := h.owned.step (Exits.step_relay hstep)
  alone := h.alone.step h.owned hguard (Exits.step_relay hstep)
  quiet := h.quiet.step hguard hstep

def exitsOf (r : Relay) : Exits := ⟨r, fun _ => none⟩

theorem Relay.Initial.orderly {r : Relay} (h : r.Initial) : (exitsOf r).Orderly where
  owned := h.owned
  alone := h.alone
  quiet := by
    intro n p hp
    have hnil : (exitsOf r).relay.pumps = [] := h.pumps
    rw [hnil] at hp
    cases hp

end CleansUp

/-! ## A connector that comes back too early, or in time -/

def joinConnector (link : Link) (clientID : UUID) : List RelayAction :=
  [.authenticate link clientID
      (.frame (authFrame protocolVersionV2 (ascii "c") false)) (ascii "c"),
    .register clientID]

/-- A pump begins, and binds a provider that is there. -/
def bindActions (n : ℕ) : List RelayAction :=
  [.pump n .next, .pump n (.resolved none), .pump n .next, .pump n .next,
    .pump n .next, .pump n .next, .pump n (.written true)]

end LinkSocks
