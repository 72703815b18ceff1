import LinkSocks.Relay.Pairing

/-!
# Access rules of connector tokens

A connector token may carry rules about destinations.  They are enforced in
two places: a connector that establishes generation 2 is refused, and a
`Connect` is checked before its pump binds a provider.  Neither covers a
legacy connector that sends a `ChannelOpen`, and the check finds no rules once
the client or the token is gone from the registries.
-/

namespace LinkSocks

open Go Pump Relay List Option

/-- The request is a `Connect` whose destination the rules allow, given the
resolver's answer. -/
def ChannelRequest.AllowedBy (E : RelayEnv) (request : ChannelRequest)
    (rules : Option AccessControl) (lookup : Option (List Bytes)) : Prop :=
  ∃ m, request = .connect m ∧ AccessControl.allow rules (E.addresses m.address lookup) m.port = true

/-- The destination that the pump was asked for is allowed by the rules its
client authenticated under. -/
def Pump.Permitted (E : RelayEnv) (p : Pump) : Prop := p.request.AllowedBy E p.rules p.resolved

/-- A bind for a client whose token carried rules repeats the request that
started the pump, and that is one they allow. -/
def ProviderWrite.Permitted (E : RelayEnv) (w : ProviderWrite) : Prop :=
  w.kind = .bind → AccessControl.empty w.pump.rules = false →
    w.message = w.pump.request.bindMessage w.pump.boundBefore ∧ w.pump.Permitted E

/-- A pump that has passed the check was permitted. -/
def Pump.Checked (E : RelayEnv) (p : Pump) : Prop :=
  p.pc.granted = true → AccessControl.empty p.rules = false → p.Permitted E

structure Relay.Ruled (E : RelayEnv) (r : Relay) : Prop where
  pumps : ∀ p ∈ r.pumps, p.Checked E
  writes : ∀ w ∈ r.writes, w.Permitted E

/-- The pump was started by a `Connect`, and the registration of its client
leads to the rules that the client authenticated under. -/
def Pump.rulesInForce (s : Server) (p : Pump) : Bool :=
  match p.request with
  | .channelOpen _ => false
  | .connect _ => (s.clientMeta.lookup p.clientID).bind s.registry.connectorTokenAC.lookup = p.rules

/-- The condition on one action: a pump whose client authenticated under rules
has them in force when it gets to the access check. -/
def keepsRules (r : Relay) : RelayAction → Bool
  | .pump n (.resolved _) =>
    match r.pumps[n]? with
    | none => true
    | some p => AccessControl.empty p.rules || p.rulesInForce r.server
  | _ => true

variable {E : RelayEnv} {p : Pump}

theorem Pump.permitted_of_checkAccess {s : Server} {lookup : Option (List Bytes)}
    (hinForce : p.rulesInForce s = true) (hrules : AccessControl.empty p.rules = false)
    (hcheck : p.checkAccess E s lookup = true) : p.request.AllowedBy E p.rules lookup := by
  cases hrequest : p.request with
  | channelOpen m =>
    simp [Pump.rulesInForce, hrequest] at hinForce
  | connect m =>
    refine ⟨m, rfl, ?_⟩
    have hfound : (s.clientMeta.lookup p.clientID).bind
        s.registry.connectorTokenAC.lookup = p.rules := by
      simpa [Pump.rulesInForce, hrequest] using hinForce
    simp only [Pump.checkAccess, hrequest, hfound, hrules, Bool.false_or] at hcheck
    exact hcheck

theorem Pump.checked_of_not_granted (h : p.pc.granted = false) : p.Checked E := by
  intro hgranted
  rw [h] at hgranted
  cases hgranted

theorem Pump.step_checked {s : Server} {m : PumpMove}
    (hspec : Pump.StepSpec E s p m) (h : p.Checked E)
    (hinForce : p.pc = .access → AccessControl.empty p.rules = false → p.rulesInForce s = true) :
    m.pump.Checked E := by
  intro hgranted hrules
  rw [hspec.rules] at hrules
  rw [Pump.Permitted, hspec.request, hspec.rules]
  rcases hspec.granted hgranted with ⟨hbefore, hresolved⟩ | ⟨hpc, hcheck⟩
  · rw [hresolved]
    exact h hbefore hrules
  · exact permitted_of_checkAccess (hinForce hpc hrules) hrules hcheck

theorem Relay.step_ruled {r r' : Relay} {a : RelayAction}
    (h : r.Ruled E) (hguard : keepsRules r a = true)
    (hstep : r.step E a = some r') : r'.Ruled E where
  pumps := by
    intro q hq
    obtain ⟨n, hn⟩ := mem_iff_getElem?.mp hq
    cases step_origin hstep hn with
    | kept hp => exact h.pumps q (mem_of_getElem? hp)
    | arrived | entered | joined | left => exact checked_of_not_granted rfl
    -- an absorbed request changes nothing the check has seen
    | absorbed _ _ o _ _ _ _ ho => exact h.pumps o (mem_of_getElem? ho)
    | moved p label move haction hp hmove =>
      subst haction
      refine step_checked (step_spec hmove) (h.pumps p (mem_of_getElem? hp)) ?_
      intro hpc hrules
      cases label with
      | resolved ips => simpa [keepsRules, hp, hrules] using hguard
      | _ => simp [Pump.step, hpc] at hmove
  writes := by
    intro w hw
    rcases mem_writes hstep hw with
      hold | ⟨n, p, label, move, kind, msg, provider, hp, hmove, hwrote, rfl⟩
    · exact h.writes w hold
    · have hspec := step_spec hmove
      rintro hbind hrules
      cases hbind
      exact ⟨hspec.boundBy msg provider hwrote,
        h.pumps p (mem_of_getElem? hp) (hspec.wrote _ msg provider hwrote).2 hrules⟩

/-- Along every run whose access checks find the rules in force, a client
whose token carried rules has a provider bound only for a destination that
they allow. -/
theorem run_permitted (E : RelayEnv) {r r' : Relay} {actions : List RelayAction} (hinit : r.Initial)
    (hguard : Guarded (Relay.step E) (keepsRules · ·) r actions)
    (hrun : run (Relay.step E) r actions = some r') : ∀ w ∈ r'.writes, w.Permitted E := by
  have hruled : r.Ruled E := by
    constructor
    · intro p hp
      rw [hinit.pumps] at hp
      cases hp
    · intro w hw
      rw [hinit.writes] at hw
      cases hw
  have hafter : r'.Ruled E := run_invariant (fun _ _ _ => step_ruled) hruled hguard hrun
  exact hafter.writes

/-! ## A connector with rules -/

/-- The connector token `c` is restricted to one port. -/
def ruledRegistry (port : Int) : Registry :=
  { pairRegistry with
    connectorTokenAC := AList.insert (ascii "c") ⟨[⟨[], [(port, port)]⟩]⟩ ∅ }

/-- The requests behind the binds of a run that were made under rules. -/
def ruledBinds (E : RelayEnv) (r : Relay) (actions : List RelayAction) :
    Option (List BaseMessage) :=
  (run (Relay.step E) r actions).map fun r =>
    (r.writes.filter fun w => w.kind = .bind &&
      !AccessControl.empty w.pump.rules).map ProviderWrite.message

/-- A legacy connector restricted to port 80 asks for port 80: the rules are
in force at the check, and the bind that follows is permitted. -/
theorem pairRun_permitted : (idleRelay (ruledRegistry 80) protocolVersionV1).Initial ∧
    Guarded (Relay.step relayEnv) (keepsRules · ·) (idleRelay (ruledRegistry 80) protocolVersionV1)
      (pairRun protocolVersionV1 connectFrame) ∧
    ∃ r', run (Relay.step relayEnv) (idleRelay (ruledRegistry 80) protocolVersionV1)
        (pairRun protocolVersionV1 connectFrame) = some r' ∧
      (∃ w ∈ r'.writes, w.kind = .bind ∧ AccessControl.empty w.pump.rules = false) ∧
      ∀ w ∈ r'.writes, w.Permitted relayEnv := by
  refine ⟨idleRelay_initial _ _, ?guard, exists_run_and ?_ fun _ =>
    run_permitted relayEnv (idleRelay_initial _ _) ?guard⟩
  all_goals decide +kernel

/-- A legacy connector restricted to port 22 sends a `ChannelOpen` of
generation 2 on its authenticated link: a provider is bound for it without any
check. -/
theorem pairRun_bypasses_rules : (idleRelay (ruledRegistry 22) protocolVersionV2).Initial ∧
    ∃ r', run (Relay.step relayEnv) (idleRelay (ruledRegistry 22) protocolVersionV2)
        (pairRun protocolVersionV2 openFrame) = some r' ∧
      ∃ w ∈ r'.writes, w.kind = .bind ∧ w.message = .channelOpen ⟨UUID.nil, false⟩ ∧
        AccessControl.empty w.pump.rules = false ∧ ¬ w.Permitted relayEnv := by
  have hbinds : ruledBinds relayEnv (idleRelay (ruledRegistry 22) protocolVersionV2)
      (pairRun protocolVersionV2 openFrame) = some [.channelOpen ⟨UUID.nil, false⟩] := by
    decide +kernel
  obtain ⟨r', hrun, hwrites⟩ := map_eq_some_iff.mp hbinds
  obtain ⟨w, hw, hmsg⟩ := mem_map.mp (hwrites ▸ mem_singleton_self _)
  obtain ⟨hmem, hruled⟩ := mem_filter.mp hw
  have hkind : w.kind = .bind ∧ AccessControl.empty w.pump.rules = false := by
    simpa using hruled
  refine ⟨idleRelay_initial _ _, r', hrun, w, hmem, hkind.1, hmsg, hkind.2, ?_⟩
  intro hpermitted
  obtain ⟨hrepeats, m, hconnect, -⟩ := hpermitted hkind.1 hkind.2
  rw [hconnect, hmsg] at hrepeats
  cases hrepeats

end LinkSocks
