import LinkSocks.Relay.Handover

/-!
# Resume binds

The first bind of a pump carries the request as it came; every later one
carries Resume, so that the provider switches the channel that it has instead
of dialing again.  The pump remembers one bit for this, which it sets when the
first bind fails as well; and it finds the provider of every bind by the
round-robin lookup of the whole token.  So a resume bind may reach a provider
that has never heard of the channel: when the first bind failed, and when the
token has another provider.
-/

namespace LinkSocks

open Go Relay List Option AList

/-- How a channel was opened: by a request with Resume or without, and whether
a bind without Resume has been written since. -/
structure Opening where
  resume : Bool
  bound : Bool
  deriving DecidableEq

/-- A resume bind, with what was known of its channel when it was sent. -/
structure ResumeBind where
  channelID : UUID
  provider : Link
  boundTo : Option Link
  opening : Option Opening
  deriving DecidableEq

/-- The relay with the history of its channels: the provider of the latest bind
that was written, and how the channel was opened. -/
structure Resuming where
  relay : Relay
  boundTo : GoMap UUID Link
  openings : GoMap UUID Opening
  resumes : List ResumeBind

namespace Resuming

/-- A request opens its channel if there was none before it.  One without Resume
opens it anew while no pump serves it. -/
def opened (f : Resuming) (request : ChannelRequest) : Resuming :=
  let id := request.channelID
  if (f.openings.lookup id).isNone ||
      (!request.resume && (f.relay.pumpActive.lookup id).isNone) then
    { f with openings := f.openings.insert id ⟨request.resume, false⟩ }
  else f

/-- The request starts a pump. -/
def entered (f : Resuming) (request : ChannelRequest) : Resuming :=
  { f.opened request with
    boundTo := if request.resume then f.boundTo else f.boundTo.erase request.channelID }

def bound (f : Resuming) (p : Pump) (provider : Link) (ok : Bool) : Resuming :=
  let id := p.request.channelID
  { f with
    boundTo := if ok then f.boundTo.insert id provider else f.boundTo
    openings :=
      if ok && !p.boundBefore then f.openings.insert id ⟨false, true⟩
      else f.openings
    resumes :=
      if p.boundBefore then f.resumes ++ [⟨id, provider, f.boundTo.lookup id, f.openings.lookup id⟩]
      else f.resumes }

/-- A channel is opened when the request is read, whichever goroutine runs
first. -/
def record (E : RelayEnv) (f : Resuming) (a : RelayAction) : Resuming :=
  match a with
  | .pump n label =>
    match f.relay.pumps[n]? with
    | none => f
    | some p =>
      match p.pc, label, p.reverseWS with
      | .start, .next, _ =>
        if (f.relay.pumpActive.lookup p.request.channelID).isNone then f.entered p.request
        else f
      | .bind, .written ok, some provider => f.bound p provider ok
      | _, _, _ => f
  | a => (f.relay.arriving E a).elim f f.opened

def step (E : RelayEnv) (f : Resuming) (a : RelayAction) : Option Resuming :=
  (f.relay.step E a).map fun r => { f.record E a with relay := r }

/-! ## What is kept of the pumps -/

/-- Requests that have not begun have no provider. -/
def Fresh (f : Resuming) : Prop :=
  ∀ (n : ℕ) (p : Pump), f.relay.pumps[n]? = some p → p.pc = .start →
    p.boundBefore = p.request.resume ∧ p.reverseWS = none

/-- Something holds of every working pump: of the history of its channel, the
bit that it remembers, and its provider. -/
def Kept (Q : Option Link → Option Opening → Bool → Option Link → Prop) (f : Resuming) : Prop :=
  ∀ (n : ℕ) (p : Pump), f.relay.pumps[n]? = some p → p.pc.working = true →
    Q (f.boundTo.lookup p.request.channelID)
      (f.openings.lookup p.request.channelID) p.boundBefore p.reverseWS

section Steps

variable {E : RelayEnv} {f f' : Resuming} {a : RelayAction} {n : ℕ} {p : Pump}
  {id : UUID}

theorem opened_of_ne {request : ChannelRequest} (hid : id ≠ request.channelID) :
    (f.opened request).openings.lookup id = f.openings.lookup id := by
  simp only [opened]
  split
  · exact lookup_insert_ne hid
  · rfl

/-- The channel of a working pump is opened only if nothing is known of it. -/
theorem opened_of_active (request : ChannelRequest) {owner : ℕ}
    (hactive : f.relay.pumpActive.lookup id = some owner) :
    (f.opened request).openings.lookup id = f.openings.lookup id ∨
      f.openings.lookup id = none ∧ ∃ o, (f.opened request).openings.lookup id = some o := by
  by_cases hid : id = request.channelID
  · subst hid
    simp only [opened, hactive, isNone_some, Bool.and_false, Bool.or_false, isNone_iff_eq_none]
    split
    · rename_i hnone
      exact .inr ⟨hnone, _, lookup_insert _⟩
    · exact .inl rfl
  · exact .inl (opened_of_ne hid)

theorem opened_log (request : ChannelRequest) :
    (f.opened request).boundTo = f.boundTo ∧ (f.opened request).resumes = f.resumes := by
  rw [opened]
  split <;> exact ⟨rfl, rfl⟩

theorem entered_of_ne {request : ChannelRequest} (hid : id ≠ request.channelID) :
    (f.entered request).boundTo.lookup id = f.boundTo.lookup id ∧
      (f.entered request).openings.lookup id = f.openings.lookup id := by
  refine ⟨?_, opened_of_ne hid⟩
  simp only [entered]
  split
  · rfl
  · exact lookup_erase_ne hid

theorem bound_of_ne {provider : Link} {ok : Bool} (hid : id ≠ p.request.channelID) :
    (f.bound p provider ok).boundTo.lookup id = f.boundTo.lookup id ∧
      (f.bound p provider ok).openings.lookup id = f.openings.lookup id := by
  simp only [bound]
  constructor
  · split
    · exact lookup_insert_ne hid
    · rfl
  · split
    · exact lookup_insert_ne hid
    · rfl

section

variable (hp : f.relay.pumps[n]? = some p)
include hp

theorem record_of_ne (label : PumpLabel) (hid : id ≠ p.request.channelID) :
    (f.record E (.pump n label)).boundTo.lookup id = f.boundTo.lookup id ∧
      (f.record E (.pump n label)).openings.lookup id = f.openings.lookup id := by
  simp only [record, hp]
  split
  · split
    · exact entered_of_ne hid
    · exact ⟨rfl, rfl⟩
  · exact bound_of_ne hid
  · exact ⟨rfl, rfl⟩

theorem record_enter (hpc : p.pc = .start)
    (hfree : f.relay.pumpActive.lookup p.request.channelID = none) :
    f.record E (.pump n .next) = f.entered p.request := by
  simp only [record, hp, hpc, hfree, isNone_none, if_true]

theorem record_bind (hpc : p.pc = .bind)
    {provider : Link} (hprovider : p.reverseWS = some provider) (ok : Bool) :
    f.record E (.pump n (.written ok)) = f.bound p provider ok := by
  simp only [record, hp, hpc, hprovider]

theorem record_of_pc {label : PumpLabel}
    (hstart : p.pc ≠ .start) (hbind : p.pc ≠ .bind) : f.record E (.pump n label) = f := by
  simp only [record, hp]
  split
  · rename_i hpc
    exact absurd hpc hstart
  · rename_i hpc _
    exact absurd hpc hbind
  · rfl

theorem record_join (hpc : p.pc = .start) {owner : ℕ}
    (howned : f.relay.pumpActive.lookup p.request.channelID = some owner) :
    f.record E (.pump n .next) = f := by
  simp only [record, hp, hpc, howned, isNone_some, Bool.false_eq_true, if_false]

theorem record_of_idle (label : PumpLabel) (hidle : p.pc.working = false) {owner : ℕ}
    (howned : f.relay.pumpActive.lookup p.request.channelID = some owner) :
    f.record E (.pump n label) = f := by
  by_cases hpc : p.pc = .start
  · cases label with
    | next => exact record_join hp hpc howned
    | _ => simp only [record, hp, hpc]
  · refine record_of_pc hp hpc fun hbind => ?_
    rw [hbind] at hidle
    contradiction

end

theorem record_of_other (haction : ∀ n label, a ≠ .pump n label) :
    f.record E a = (f.relay.arriving E a).elim f f.opened := by
  cases a
  case pump n label => exact absurd rfl (haction n label)
  all_goals rfl

theorem Fresh.step (h : f.Fresh) (hstep : f.step E a = some f') : f'.Fresh := by
  obtain ⟨r', hr', rfl⟩ := map_eq_some_iff.mp hstep
  intro m q hq hpc
  cases step_origin hr' hq with
  | kept hp => exact h m q hp hpc
  | arrived => exact ⟨rfl, rfl⟩
  | entered | joined | left => contradiction
  | absorbed _ _ o _ _ _ _ ho => exact h m o ho hpc
  | moved p label move _ _ hmove =>
    rcases (Pump.step_course hmove).pc with ⟨-, hworking⟩ | ⟨-, -, hdone, -⟩
    · rw [hpc] at hworking
      contradiction
    · rw [hpc] at hdone
      contradiction

variable {Q : Option Link → Option Opening → Bool → Option Link → Prop}

/-- What holds of a working pump is kept while it stays, if it is kept where a
channel is opened. -/
theorem Kept.aside (h : f.Kept Q) (hown : f.relay.Owned)
    (hopen : ∀ l o b ws, Q l none b ws → Q l (some o) b ws) {m : ℕ} {q : Pump}
    (hq : f.relay.pumps[m]? = some q) (hwork : q.pc.working = true)
    (hstill : ∀ label, a ≠ .pump m label) :
    Q ((f.record E a).boundTo.lookup q.request.channelID)
      ((f.record E a).openings.lookup q.request.channelID) q.boundBefore q.reverseWS := by
  have hkept := h m q hq hwork
  have hactive := hown.active m q hq hwork
  by_cases haction : ∃ n label, a = .pump n label
  · obtain ⟨n, label, rfl⟩ := haction
    cases hp : f.relay.pumps[n]? with
    | none => simpa only [record, hp] using hkept
    | some p =>
      by_cases hid : q.request.channelID = p.request.channelID
      · -- the pump that moves does not work for the channel, nor begin to
        have hidle : p.pc.working = false := by
          refine Bool.eq_false_iff.mpr fun hpwork => hstill label ?_
          rw [hid, hown.active n p hp hpwork] at hactive
          rw [some.inj hactive]
        rwa [record_of_idle hp label hidle (hid ▸ hactive)]
      · obtain ⟨hbound, hopening⟩ := record_of_ne (E := E) hp label hid
        rwa [hbound, hopening]
  · rw [record_of_other fun n label heq => haction ⟨n, label, heq⟩]
    cases f.relay.arriving E a with
    | none => exact hkept
    | some request =>
      rw [elim_some, (opened_log request).1]
      obtain hsame | ⟨hnone, o, ho⟩ := opened_of_active request hactive
      · rwa [hsame]
      · rw [ho]
        exact hopen _ _ _ _ (hnone ▸ hkept)

/-- One action keeps what holds of the working pumps, if it is kept where a
channel is opened, where a pump begins, where it binds, where it finds a provider
and where it gives one up. -/
theorem Kept.step (h : f.Kept Q) (hown : f.relay.Owned) (hfresh : f.Fresh)
    (hstep : f.step E a = some f') (hdrop : ∀ l o b ws, Q l o b ws → Q l o b none)
    (hopen : ∀ l o b ws, Q l none b ws → Q l (some o) b ws)
    (henter : ∀ n p, a = .pump n .next → f.relay.pumps[n]? = some p →
      p.pc = .start → f.relay.pumpActive.lookup p.request.channelID = none →
      Q ((f.entered p.request).boundTo.lookup p.request.channelID)
        ((f.entered p.request).openings.lookup p.request.channelID) p.request.resume none)
    (hbind : ∀ n p provider ok, a = .pump n (.written ok) →
      f.relay.pumps[n]? = some p → p.pc = .bind → p.reverseWS = some provider →
      Q ((f.bound p provider ok).boundTo.lookup p.request.channelID)
        ((f.bound p provider ok).openings.lookup p.request.channelID)
        true (if ok then some provider else none))
    (hwait : ∀ n p major conn, a = .pump n .next → f.relay.pumps[n]? = some p → p.pc = .wait major →
      (f.relay.server.getNextWebSocketLocked p.reverseToken major).1 = .ok conn →
      Q (f.boundTo.lookup p.request.channelID)
        (f.openings.lookup p.request.channelID) p.boundBefore (some conn)) : f'.Kept Q := by
  obtain ⟨r', hr', rfl⟩ := map_eq_some_iff.mp hstep
  intro m q hq hwork
  cases step_origin hr' hq with
  | kept hold hstill => exact h.aside hown hopen hold hwork hstill
  | absorbed n p o haction hp hpc _ ho =>
    refine h.aside hown hopen (q := o) ho hwork fun label heq => ?_
    cases haction.symm.trans heq
    cases hp.symm.trans ho
    rw [hpc] at hwork
    contradiction
  | arrived | joined | left => contradiction
  | entered p haction hp hpc hfree =>
    subst haction
    obtain ⟨hremembers, hnone⟩ := hfresh m p hp hpc
    rw [record_enter hp hpc hfree, hremembers, hnone]
    exact henter m p rfl hp hpc hfree
  | moved p label move haction hp hmove =>
    subst haction
    have hcourse := Pump.step_course hmove
    rw [(Pump.step_spec hmove).request]
    rcases hcourse.binding with
      ⟨provider, ok, hpc, rfl, hprovider, -, hremembers, hnext⟩ | ⟨hpc, -, hremembers, hnext⟩
    · rw [record_bind hp hpc hprovider, hremembers, hnext]
      exact hbind m p provider ok rfl hp hpc hprovider
    · have hbefore := hcourse.working_of_working hwork
      have hstart : p.pc ≠ .start := by
        intro heq
        rw [heq] at hbefore
        contradiction
      rw [record_of_pc hp hstart hpc, hremembers]
      rcases hnext with hsame | hnone | ⟨major, conn, hpc, rfl, hfound, hlookup⟩
      · rw [hsame]
        exact h m p hp hbefore
      · rw [hnone]
        exact hdrop _ _ _ _ (h m p hp hbefore)
      · rw [hfound]
        exact hwait m p major conn rfl hp hpc hlookup

/-- A new bind with Resume is that of a pump that has bound before. -/
theorem mem_resumes_step (hstep : f.step E a = some f') {b : ResumeBind} (hb : b ∈ f'.resumes) :
    b ∈ f.resumes ∨ ∃ (n : ℕ) (p : Pump) (provider : Link), f.relay.pumps[n]? = some p ∧
      p.pc = .bind ∧ p.reverseWS = some provider ∧ p.boundBefore = true ∧
      b = ⟨p.request.channelID, provider, f.boundTo.lookup p.request.channelID,
        f.openings.lookup p.request.channelID⟩ := by
  obtain ⟨r', -, rfl⟩ := map_eq_some_iff.mp hstep
  by_cases haction : ∃ n label, a = .pump n label
  · obtain ⟨n, label, rfl⟩ := haction
    simp only [record] at hb
    split at hb
    · exact .inl hb
    · rename_i p hp
      split at hb
      · left
        split at hb
        · exact (opened_log p.request).2 ▸ hb
        · exact hb
      · rename_i ok provider hpc hprovider
        by_cases hremembers : p.boundBefore = true
        · simp only [bound, hremembers, if_true] at hb
          rcases mem_append.mp hb with hold | hnew
          · exact .inl hold
          · exact .inr ⟨n, p, provider, hp, hpc, hprovider, hremembers, mem_singleton.mp hnew⟩
        · simp only [bound, hremembers] at hb
          exact .inl hb
      · exact .inl hb
  · rw [record_of_other fun n label heq => haction ⟨n, label, heq⟩] at hb
    cases hrequest : f.relay.arriving E a with
    | none =>
      rw [hrequest] at hb
      exact .inl hb
    | some request =>
      rw [hrequest, elim_some, (opened_log request).2] at hb
      exact .inl hb

end Steps

/-! ## The rule for runs -/

/-- What is kept of the working pumps shows in every resume bind. -/
structure Faithful (Q : Option Link → Option Opening → Bool → Option Link → Prop)
    (f : Resuming) : Prop where
  owned : f.relay.Owned
  fresh : f.Fresh
  kept : f.Kept Q
  resumes : ∀ b ∈ f.resumes, Q b.boundTo b.opening true (some b.provider)

theorem Faithful.step {Q : Option Link → Option Opening → Bool → Option Link → Prop}
    {E : RelayEnv} {f f' : Resuming} {a : RelayAction} (h : f.Faithful Q)
    (hstep : f.step E a = some f') (hkept : f'.Kept Q) : f'.Faithful Q where
  owned := by
    obtain ⟨r', hr', rfl⟩ := map_eq_some_iff.mp hstep
    exact h.owned.step hr'
  fresh := h.fresh.step hstep
  kept := hkept
  resumes := by
    intro b hb
    rcases mem_resumes_step hstep hb with
      hold | ⟨n, p, provider, hp, hpc, hprovider, hremembers, rfl⟩
    · exact h.resumes b hold
    · have hp' := h.kept n p hp (by rw [hpc]; rfl)
      rw [hremembers, hprovider] at hp'
      exact hp'

end Resuming

/-- A relay whose channels have no history yet. -/
def resumingOf (r : Relay) : Resuming := ⟨r, ∅, ∅, []⟩

theorem Relay.Initial.faithful {r : Relay} (h : r.Initial)
    (Q : Option Link → Option Opening → Bool → Option Link → Prop) : (resumingOf r).Faithful Q := by
  have hnone : ∀ (n : ℕ) (p : Pump), (resumingOf r).relay.pumps[n]? ≠ some p := by
    intro n p hp
    have hnil : (resumingOf r).relay.pumps = [] := h.pumps
    rw [hnil] at hp
    contradiction
  constructor
  · exact h.owned
  · exact fun n p hp => absurd hp (hnone n p)
  · exact fun n p hp => absurd hp (hnone n p)
  · exact fun b hb => absurd hb not_mem_nil

/-! ## The log and the wire -/

/-- The channel that a message resumes. -/
def resumesChannel : BaseMessage → Option UUID
  | .connect m => if m.resume then some m.channelID else none
  | .channelOpen m => if m.resume then some m.channelID else none
  | _ => none

/-- A bind with Resume, by its channel and its provider. -/
def ProviderWrite.resumes (w : ProviderWrite) : Option (UUID × Link) :=
  match w.kind with
  | .bind => (resumesChannel w.message).map (·, w.provider)
  | .payload => none

/-- The bind with Resume that a step of a pump has sent. -/
def PumpMove.resumed (m : PumpMove) : Option (UUID × Link) :=
  match m.wrote with
  | some (.bind, msg, l) => (resumesChannel msg).map (·, l)
  | _ => none

theorem PumpMove.resumed_of_not_binds {m : PumpMove} (h : m.binds = false) : m.resumed = none := by
  obtain ⟨server, pump, wrote⟩ := m
  rcases wrote with - | ⟨kind, msg, l⟩
  · rfl
  · cases kind
    · contradiction
    · rfl

theorem PumpMove.resumes_writes (m : PumpMove) (p : Pump) (version : Link → UInt8) :
    ((m.wrote.toList.map fun wrote =>
      ({ kind := wrote.1, message := wrote.2.1, provider := wrote.2.2,
         pump := p, version := version } : ProviderWrite)).filterMap
        ProviderWrite.resumes) = m.resumed.toList := by
  obtain ⟨server, pump, wrote⟩ := m
  rcases wrote with - | ⟨kind, msg, l⟩
  · rfl
  · cases kind with
    | payload => rfl
    | bind =>
      cases resumesChannel msg <;> rfl

theorem Relay.step_writes {E : RelayEnv} {r r' : Relay} {a : RelayAction}
    (h : r.step E a = some r') (haction : ∀ n label, a ≠ .pump n label) : r'.writes = r.writes := by
  cases a with
  | receive clientID data handled =>
    obtain ⟨-, -, -, -, -, -, hwrites, -⟩ := receive_spec h
    exact hwrites
  | _ => exact (step_other h nofun haction).2.2

namespace Resuming

/-- The log is that of the binds with Resume which the relay has sent. -/
def Complete (f : Resuming) : Prop :=
  f.resumes.map (fun b => (b.channelID, b.provider)) =
    f.relay.writes.filterMap ProviderWrite.resumes

theorem bound_resumes (f : Resuming) (p : Pump) (provider : Link) (ok : Bool) :
    (f.bound p provider ok).resumes.map (fun b => (b.channelID, b.provider)) =
      f.resumes.map (fun b => (b.channelID, b.provider)) ++
        ((if p.boundBefore then some p.request.channelID else none).map (·, provider)).toList := by
  simp only [bound]
  split
  · exact map_append
  · exact (append_nil _).symm

theorem Complete.step {E : RelayEnv} {f f' : Resuming} {a : RelayAction}
    (h : f.Complete) (hstep : f.step E a = some f') : f'.Complete := by
  obtain ⟨r', hr', rfl⟩ := map_eq_some_iff.mp hstep
  change (f.record E a).resumes.map _ = r'.writes.filterMap _
  cases step_pumps hr' with
  | aside haction _ _ hsilent =>
    rw [record_of_other haction, step_writes hr' haction, hsilent]
    exact h
  | request _ _ request haction harrives =>
    rw [record_of_other haction, step_writes hr' haction, harrives, elim_some,
      (opened_log request).2]
    exact h
  | enter n p hp hpc hfree =>
    rw [record_enter hp hpc hfree, startPump_writes, entered, (opened_log p.request).2]
    exact h
  | join n p owner hp hpc howned =>
    rw [record_join hp hpc howned, startPump_writes]
    exact h
  | leave n p hp hpc =>
    rw [record_of_pc hp (by rw [hpc]; decide) (by rw [hpc]; decide)]
    exact h
  | move n p label move hp hmove =>
    have hcourse := Pump.step_course hmove
    change _ = (f.relay.writes ++ _).filterMap _
    rw [filterMap_append, ← h, PumpMove.resumes_writes]
    rcases hcourse.binding with
      ⟨provider, ok, hpc, rfl, hprovider, hwrote, -⟩ | ⟨hpc, hbinds, -⟩
    · have hresumed : move.resumed = (resumesChannel (p.request.bindMessage p.boundBefore)).map
            (·, provider) := by
        rw [PumpMove.resumed, hwrote]
      rw [record_bind hp hpc hprovider, bound_resumes, hresumed]
      cases p.request <;> rfl
    · have hstart : p.pc ≠ .start := by
        intro heq
        rcases hcourse.pc with ⟨hbefore, -⟩ | ⟨hcleanup, -⟩
        · rw [heq] at hbefore
          contradiction
        · rw [heq] at hcleanup
          contradiction
      rw [record_of_pc hp hstart hpc, PumpMove.resumed_of_not_binds hbinds]
      exact (append_nil _).symm

/-- The log of a run is complete. -/
theorem run_complete (E : RelayEnv) {r : Relay} {f : Resuming}
    {actions : List RelayAction} (hinit : r.Initial)
    (hrun : run (Resuming.step E) (resumingOf r) actions = some f) :
    f.Complete := by
  have hnil : (resumingOf r).Complete := by
    change [] = r.writes.filterMap ProviderWrite.resumes
    rw [hinit.writes]
    rfl
  exact run_preserves (fun _ _ _ h => h.step) hnil hrun

end Resuming

/-! ## On the provider that has the channel -/

section Instance

variable {α : Type*} [DecidableEq α]

/-- When a pump that has sent a bind before looks for a provider, all clients
of the token that it may find are of the instance that the channel is bound
to. -/
def Resuming.oneInstance (inst : Link → α) (f : Resuming) : RelayAction → Bool
  | .pump n .next =>
    match f.relay.pumps[n]? with
    | none => true
    | some p =>
      match p.pc, f.boundTo.lookup p.request.channelID with
      | .wait major, some l =>
        !p.boundBefore || ((f.relay.server.tokenClients.lookup p.reverseToken).getD []).all
            fun c => !decide (major = 0 ∨
              f.relay.server.majorOf c.conn = major) || decide (inst c.conn = inst l)
      | _, _ => true
  | _ => true

/-- The provider of a pump is of the instance that the channel is bound to. -/
def OnInstance (inst : Link → α) (boundTo : Option Link) (_ : Option Opening)
    (boundBefore : Bool) (reverseWS : Option Link) : Prop :=
  boundBefore = true → ∀ l k, reverseWS = some l → boundTo = some k → inst l = inst k

theorem Resuming.oneInstance_lookup {inst : Link → α} {f : Resuming} {n : ℕ}
    {p : Pump} {major : UInt8} {conn l : Link} (h : f.oneInstance inst (.pump n .next) = true)
    (hp : f.relay.pumps[n]? = some p) (hpc : p.pc = .wait major) (hremembers : p.boundBefore = true)
    (hbound : f.boundTo.lookup p.request.channelID = some l)
    (hconn : (f.relay.server.getNextWebSocketLocked p.reverseToken major).1 =
      .ok conn) : inst conn = inst l := by
  obtain ⟨c, hmem, rfl, hmatch⟩ := Server.getNextWebSocketLocked_mem hconn
  simp only [Resuming.oneInstance, hp, hpc, hbound, hremembers, Bool.not_true, Bool.false_or] at h
  have hc := all_eq_true.mp h c hmem
  rw [decide_eq_true hmatch] at hc
  exact of_decide_eq_true hc

theorem Resuming.Faithful.step_oneInstance {inst : Link → α} {E : RelayEnv}
    {f f' : Resuming} {a : RelayAction} (h : f.Faithful (OnInstance inst))
    (hguard : f.oneInstance inst a = true) (hstep : f.step E a = some f') :
    f'.Faithful (OnInstance inst) := by
  refine h.step hstep (h.kept.step h.owned h.fresh hstep ?_ (fun _ _ _ _ h => h) ?_ ?_ ?_)
  · intro _ _ _ _ _ _ l k hl
    contradiction
  · intro n p _ _ _ _ _ l k hl
    contradiction
  · -- the provider that has answered is the one the channel is bound to
    intro n p provider ok _ _ _ _ _ l k hl hk
    cases ok
    · contradiction
    · simp only [Resuming.bound, if_true, lookup_insert, some.injEq] at hl hk
      rw [← hl, ← hk]
  · rintro n p major conn rfl hp hpc hconn hremembers l k hl hk
    obtain rfl : conn = l := some.inj hl
    exact Resuming.oneInstance_lookup hguard hp hpc hremembers hk hconn

/-- Along every run in which a pump that binds again finds clients of one
instance only, the one its channel is bound to, every resume bind is sent to a
link of that instance. -/
theorem resume_stays_on_instance (inst : Link → α) (E : RelayEnv) {r : Relay}
    {f : Resuming} {actions : List RelayAction} (hinit : r.Initial)
    (hguard : Guarded (Resuming.step E) (fun f a => f.oneInstance inst a = true)
      (resumingOf r) actions) (hrun : run (Resuming.step E) (resumingOf r) actions = some f) :
    f.Complete ∧ ∀ b ∈ f.resumes, ∀ l, b.boundTo = some l → inst b.provider = inst l := by
  have hfaithful : f.Faithful (OnInstance inst) := run_invariant (fun _ _ _ h => h.step_oneInstance)
      (hinit.faithful _) hguard hrun
  refine ⟨Resuming.run_complete E hinit hrun, fun b hb l hl => ?_⟩
  exact hfaithful.resumes b hb rfl b.provider l rfl hl

end Instance

/-- The authentication of a provider of the instance `b`. -/
def instanceFrame (b : UInt8) : Bytes :=
  protocolVersionV2 :: binaryTypeAuth ::
    (packString (ascii "r") ++ boolToByte true :: (uuidOf b).bytes)

def joinInstance (link : Link) (clientID : UUID) (b : UInt8) : List RelayAction :=
  [.authenticate link clientID (.frame (instanceFrame b)) (ascii "r"), .register clientID]

/-- Link 1 is of the instance 1, link 3 of the instance `b`.  A channel is bound
to link 1; the next write fails, and the pump binds again. -/
def resumeRun (b : UInt8) : List RelayAction :=
  joinInstance 1 (uuidOf 1) 1 ++ joinInstance 3 (uuidOf 3) b ++ lookingRun ++
    [.pump 0 .next, .pump 0 (.written true), .pump 0 .next,
      .pump 0 (.written false), .pump 0 .next, .pump 0 .next, .pump 0 .next,
      .pump 0 .next, .pump 0 (.written true)]

/-- With two links of one provider, the resume bind goes to its other link. -/
theorem resumeRun_stays_on_instance : Guarded (Resuming.step waitingEnv)
      (fun f a => f.oneInstance (fun l => if l = 3 then 1 else l) a = true)
      (resumingOf (idleRelay pairRegistry protocolVersionV2)) (resumeRun 1) ∧
    ∃ f, run (Resuming.step waitingEnv)
        (resumingOf (idleRelay pairRegistry protocolVersionV2)) (resumeRun 1) = some f ∧
      f.resumes = [⟨UUID.nil, 3, some 1, some ⟨false, true⟩⟩] ∧
      f.Complete ∧ ∀ b ∈ f.resumes, ∀ l, b.boundTo = some l →
        (if b.provider = 3 then 1 else b.provider) = if l = 3 then 1 else l := by
  refine ⟨?guard, exists_run_and ?_ fun _ => resume_stays_on_instance
    (fun l => if l = 3 then 1 else l) waitingEnv (idleRelay_initial _ _) ?guard⟩
  all_goals decide +kernel

/-- With another provider of the token, the channel of the instance on link 1
is resumed on link 3. -/
theorem resumeRun_changes_instance : (idleRelay pairRegistry protocolVersionV2).Initial ∧
    ∃ f, run (Resuming.step waitingEnv)
        (resumingOf (idleRelay pairRegistry protocolVersionV2)) (resumeRun 3) = some f ∧
      ∃ b ∈ f.resumes, b.boundTo = some 1 ∧ b.provider = 3 :=
  ⟨idleRelay_initial _ _, exists_run (by decide +kernel)⟩

/-! ## After a bind without Resume -/

/-- A bind without Resume does not fail, and a request with Resume does not
start a pump for a channel that was opened without and is not bound yet. -/
def Resuming.firstBindHolds (f : Resuming) : RelayAction → Bool
  | .pump n label =>
    match f.relay.pumps[n]? with
    | none => true
    | some p =>
      match p.pc, label with
      | .bind, .written ok => p.boundBefore || ok
      | .start, .next =>
        !p.request.resume || (f.relay.pumpActive.lookup p.request.channelID).isSome ||
          decide (f.openings.lookup p.request.channelID ≠ some ⟨false, false⟩)
      | _, _ => true
  | _ => true

/-- A pump remembers a bind of a channel that was opened without Resume only
after a bind without Resume. -/
def AfterPlainBind (_ : Option Link) (opening : Option Opening)
    (boundBefore : Bool) (_ : Option Link) : Prop :=
  boundBefore = true → ∃ o, opening = some o ∧ (o.resume = false → o.bound = true)

theorem Resuming.entered_afterPlainBind {f : Resuming} {request : ChannelRequest}
    (h : request.resume = true → f.openings.lookup request.channelID ≠ some ⟨false, false⟩) :
    AfterPlainBind ((f.entered request).boundTo.lookup request.channelID)
      ((f.entered request).openings.lookup request.channelID) request.resume none := by
  intro hresume
  simp only [Resuming.entered, Resuming.opened, hresume, Bool.not_true, Bool.false_and,
    Bool.or_false]
  cases ho : f.openings.lookup request.channelID with
  | none => exact ⟨⟨true, false⟩, lookup_insert _, nofun⟩
  | some o =>
    refine ⟨o, ho, fun hplain => ?_⟩
    obtain ⟨resume, bound⟩ := o
    obtain rfl : resume = false := hplain
    cases bound
    · exact absurd ho (h hresume)
    · rfl

theorem Resuming.Faithful.step_firstBindHolds {E : RelayEnv}
    {f f' : Resuming} {a : RelayAction} (h : f.Faithful AfterPlainBind)
    (hguard : f.firstBindHolds a = true) (hstep : f.step E a = some f') :
    f'.Faithful AfterPlainBind := by
  refine h.step hstep (h.kept.step h.owned h.fresh hstep ?_ ?_ ?_ ?_ ?_)
  · exact fun _ _ _ _ hQ => hQ
  · intro _ _ _ _ hQ hremembers
    obtain ⟨o, ho, -⟩ := hQ hremembers
    contradiction
  · rintro n p rfl hp hpc hfree
    refine Resuming.entered_afterPlainBind fun hresume => ?_
    simpa [Resuming.firstBindHolds, hp, hpc, hfree, hresume] using hguard
  · rintro n p provider ok rfl hp hpc hprovider -
    by_cases hremembers : p.boundBefore = true
    · have hkept := h.kept n p hp (by rw [hpc]; rfl) hremembers
      simpa only [Resuming.bound, hremembers, Bool.not_true, Bool.and_false,
        Bool.false_eq_true, if_false] using hkept
    · have hok : ok = true := by
        simpa [Resuming.firstBindHolds, hp, hpc, hremembers] using hguard
      simp only [Resuming.bound, hok, hremembers, Bool.not_false, Bool.and_true, if_true]
      exact ⟨⟨false, true⟩, lookup_insert _, fun _ => rfl⟩
  · rintro n p major conn rfl hp hpc -
    exact h.kept n p hp (by rw [hpc]; rfl)

/-- Along every run in which no bind without Resume fails, and no request with
Resume overtakes the first bind of its channel, a resume bind of a channel that
was opened without Resume comes after a bind without Resume. -/
theorem resume_after_plain_bind (E : RelayEnv) {r : Relay} {f : Resuming}
    {actions : List RelayAction} (hinit : r.Initial)
    (hguard : Guarded (Resuming.step E) (fun f a => f.firstBindHolds a = true)
      (resumingOf r) actions) (hrun : run (Resuming.step E) (resumingOf r) actions = some f) :
    f.Complete ∧ ∀ b ∈ f.resumes,
      ∃ o, b.opening = some o ∧ (o.resume = false → o.bound = true) := by
  have hfaithful : f.Faithful AfterPlainBind := run_invariant
      (fun _ _ _ h => h.step_firstBindHolds)
      (hinit.faithful _) hguard hrun
  refine ⟨Resuming.run_complete E hinit hrun, fun b hb => ?_⟩
  exact hfaithful.resumes b hb rfl

/-- The first bind of a channel fails, and the pump binds again. -/
def failedBindRun : List RelayAction :=
  joinInstance 1 (uuidOf 1) 1 ++ lookingRun ++
    [.pump 0 .next, .pump 0 (.written false), .pump 0 .next, .pump 0 .next,
      .pump 0 .next, .pump 0 .next, .pump 0 (.written true)]

/-- After a first bind that was written, the channel is resumed. -/
theorem resumeRun_after_plain_bind :
    Guarded (Resuming.step waitingEnv) (fun f a => f.firstBindHolds a = true)
      (resumingOf (idleRelay pairRegistry protocolVersionV2)) (resumeRun 3) ∧
    ∃ f, run (Resuming.step waitingEnv)
        (resumingOf (idleRelay pairRegistry protocolVersionV2)) (resumeRun 3) = some f ∧
      f.resumes ≠ [] ∧ f.Complete ∧ ∀ b ∈ f.resumes,
        ∃ o, b.opening = some o ∧ (o.resume = false → o.bound = true) := by
  refine ⟨?guard, exists_run_and ?_ fun _ => resume_after_plain_bind waitingEnv
    (idleRelay_initial _ _) ?guard⟩
  all_goals decide +kernel

/-- Without one, a channel that was opened without Resume is resumed on a
provider that has never been asked to open it. -/
theorem failedBindRun_resumes_unbound : (idleRelay pairRegistry protocolVersionV2).Initial ∧
    ∃ f, run (Resuming.step waitingEnv)
        (resumingOf (idleRelay pairRegistry protocolVersionV2)) failedBindRun = some f ∧
      f.resumes = [⟨UUID.nil, 1, none, some ⟨false, false⟩⟩] ∧
      f.relay.writes.map (fun w => resumesChannel w.message) = [none, some UUID.nil] :=
  ⟨idleRelay_initial _ _, exists_run (by decide +kernel)⟩

end LinkSocks
