import LinkSocks.Relay.Dispatch
import LinkSocks.Relay.Pump
import LinkSocks.Wire.Pack

/-!
# Pairing within a generation

A connector should be served only by providers of its own generation.  The
relay asks for the connector's generation at each lookup, but generation 0
means any generation there, so a legacy connector can be given a provider of
generation 2.  Pairing holds along every run in which legacy lookups meet a
legacy provider, links keep their generation, and requests for one channel
come from links of one generation.
-/

namespace LinkSocks

open Go Relay List Option

/-- The provider speaks, at the moment of the write, the generation of every
link on which the channel was requested from this pump. -/
def ProviderWrite.SameGeneration (w : ProviderWrite) : Prop :=
  ∀ l ∈ w.pump.ws :: w.pump.joined,
    protocolMajor (w.version w.provider) = protocolMajor (w.version l)

/-- What a pump carries from its lookup to its writes. -/
structure Pump.Paired (version : Link → UInt8) (p : Pump) : Prop where
  provider : ∀ l, p.reverseWS = some l → protocolMajor (version l) = protocolMajor (version p.ws)
  wait : ∀ major, p.pc = .wait major ∨ p.pc = .blocked major → major = protocolMajor (version p.ws)
  joined : ∀ l ∈ p.joined, protocolMajor (version l) = protocolMajor (version p.ws)

structure Relay.Paired (r : Relay) : Prop where
  pumps : ∀ p ∈ r.pumps, p.Paired r.server.version
  writes : ∀ w ∈ r.writes, w.SameGeneration

/-- The condition on one action.  A frame has the generation of its link; a
lookup for generation 0 finds a provider of generation 0 under the cursor; a
request that an active pump absorbs comes from a link of its generation. -/
def keepsPairing (E : RelayEnv) (r : Relay) : RelayAction → Bool
  | .receive clientID data _ =>
    match r.sessions.lookup clientID, parseMessageWithVersion E.w E.lib data with
    | some session, (.ok _, version) => protocolMajor version = r.server.majorOf session.link
    | _, _ => true
  | .pump n .next =>
    match r.pumps[n]? with
    | none => true
    | some p =>
      match p.pc with
      | .wait major => major ≠ 0 ||
          (r.server.underCursor p.reverseToken).all (r.server.majorOf · = 0)
      | .start =>
        ((r.pumpActive.lookup p.request.channelID).bind (r.pumps[·]?)).all
          fun o => r.server.majorOf p.ws = r.server.majorOf o.ws
      | _ => true
  | _ => true

variable {p : Pump} {version : Link → UInt8} {m : PumpMove} {r : Relay} {n : ℕ}

theorem Pump.Paired.of_major {version' : Link → UInt8} (h : p.Paired version)
    (hmajor : ∀ l, protocolMajor (version' l) = protocolMajor (version l)) : p.Paired version' where
  provider := by
    intro l hl
    rw [hmajor, hmajor]
    exact h.provider l hl
  wait := by
    intro major hpc
    rw [hmajor]
    exact h.wait major hpc
  joined := by
    intro l hl
    rw [hmajor, hmajor]
    exact h.joined l hl

theorem Pump.Paired.with_pc (h : p.Paired version) {pc : PumpPC}
    (hpc : ∀ major, pc ≠ .wait major ∧ pc ≠ .blocked major) :
    { p with pc := pc }.Paired version where
  provider := h.provider
  wait := by
    intro major hwait
    rcases hwait with hwait | hblocked
    · exact absurd hwait (hpc major).1
    · exact absurd hblocked (hpc major).2
  joined := h.joined

theorem Session.pump_paired (version : Link → UInt8) (session : Session)
    (clientID : UUID) (request : ChannelRequest) :
    (session.pump clientID request).Paired version where
  provider := by
    intro l hl
    cases hl
  wait := by
    intro major hpc
    rcases hpc with h | h <;> cases h
  joined := by
    intro l hl
    cases hl

theorem Pump.Paired.sameGeneration (h : p.Paired version) {kind : WriteKind} {msg : BaseMessage}
    {provider : Link} (hprovider : p.reverseWS = some provider) :
    ProviderWrite.SameGeneration ⟨kind, msg, provider, p, version⟩ := by
  intro l hl
  have hws := h.provider provider hprovider
  rcases mem_cons.mp hl with rfl | hjoined
  · exact hws
  · exact hws.trans (h.joined l hjoined).symm

variable {E : RelayEnv}

theorem Pump.step_paired {s : Server} (hspec : Pump.StepSpec E s p m) (h : p.Paired s.version)
    (hlegacy : p.pc = .wait 0 → ∀ l, s.underCursor p.reverseToken = some l → s.majorOf l = 0) :
    m.pump.Paired s.version where
  provider := by
    intro l hl
    rw [hspec.ws]
    rcases hspec.reverseWS l hl with hheld | ⟨major, hpc, hfound⟩
    · exact h.provider l hheld
    · have hmajor : major = protocolMajor (s.version p.ws) := h.wait major (.inl hpc)
      rw [← hmajor]
      rcases Server.getNextWebSocketLocked_ok hfound with
        ⟨-, hsame⟩ | ⟨rfl, hcursor⟩
      · exact hsame
      · exact hlegacy hpc l hcursor
  wait := by
    intro major hpc
    rw [hspec.ws]
    rcases hpc with hwait | hblocked
    · rcases hspec.wait major hwait with hbefore | hread
      · exact h.wait major (.inr hbefore)
      · exact hread
    · exact h.wait major (.inl (hspec.blocked major hblocked))
  joined := by
    intro l hl
    rw [hspec.joined] at hl
    rw [hspec.ws]
    exact h.joined l hl

theorem Pump.Paired.join (h : p.Paired version) {l : Link}
    (hl : protocolMajor (version l) = protocolMajor (version p.ws)) :
    { p with joined := l :: p.joined }.Paired version where
  provider := h.provider
  wait := h.wait
  joined := by
    intro l' hl'
    rcases mem_cons.mp hl' with rfl | hold
    · exact hl
    · exact h.joined l' hold

theorem Relay.step_major {r' : Relay} {a : RelayAction} (hguard : keepsPairing E r a = true)
    (hstep : r.step E a = some r') (l : Link) :
    protocolMajor (r'.server.version l) = protocolMajor (r.server.version l) := by
  cases a with
  | receive clientID data handled =>
    obtain ⟨session, msg, version, hsession, hparse, hversion, -⟩ := receive_spec hstep
    have hkept : protocolMajor version = r.server.majorOf session.link := by
      simpa [keepsPairing, hsession, hparse] using hguard
    rw [hversion, Function.update_apply]
    split
    · subst l
      exact hkept
    · rfl
  | pump n label =>
    obtain ⟨p, -, ⟨-, -, rfl⟩ | ⟨-, -, rfl⟩ | ⟨m, hm, rfl⟩⟩ := stepPump_spec hstep
    · rw [startPump_version]
    · rfl
    · change protocolMajor (m.server.version l) = _
      rw [(Pump.step_spec hm).version]
  | _ => rw [(step_other hstep nofun nofun).1]

theorem Relay.step_paired {r' : Relay} {a : RelayAction}
    (h : r.Paired) (hguard : keepsPairing E r a = true) (hstep : r.step E a = some r') :
    r'.Paired where
  pumps := by
    intro q hq
    obtain ⟨n, hn⟩ := mem_iff_getElem?.mp hq
    have hold : ∀ {n : ℕ} {p : Pump}, r.pumps[n]? = some p → p.Paired r.server.version :=
      fun hp => h.pumps _ (mem_of_getElem? hp)
    refine Pump.Paired.of_major ?_ (step_major hguard hstep)
    cases step_origin hstep hn with
    | kept hp => exact hold hp
    | arrived session clientID request => exact session.pump_paired _ clientID request
    | entered p _ hp | left p _ hp => exact (hold hp).with_pc fun _ => ⟨nofun, nofun⟩
    | joined p links _ hp _ hown =>
      have hdone : { p with pc := .done }.Paired r.server.version :=
        (hold hp).with_pc fun _ => ⟨nofun, nofun⟩
      rcases hown with rfl | rfl
      · exact hdone
      · exact hdone.join rfl
    | absorbed m p o haction hp hpc howned ho =>
      -- the owner's lookups were for its own link's generation
      subst haction
      have hsame : r.server.majorOf p.ws = r.server.majorOf o.ws := by
        simpa [keepsPairing, hp, hpc, howned, ho] using hguard
      exact (hold ho).join hsame
    | moved p label move haction hp hmove =>
      subst haction
      refine Pump.step_paired (Pump.step_spec hmove) (hold hp) fun hpc => ?_
      -- a waiting pump moves by itself only
      cases label with
      | next =>
        intro l hl
        simpa [keepsPairing, hp, hpc, hl] using hguard
      | _ => simp [Pump.step, hpc] at hmove
  writes := by
    intro w hw
    rcases mem_writes hstep hw with
      hold | ⟨n, p, label, move, kind, msg, provider, hp, hmove, hwrote, rfl⟩
    · exact h.writes w hold
    · exact (h.pumps p (mem_of_getElem? hp)).sameGeneration
        ((Pump.step_spec hmove).wrote kind msg provider hwrote).1

/-- Along every run whose actions keep the pairing, from any registries, a
pump writes binds and payloads only to providers of the generation of the
links that requested the channel. -/
theorem run_sameGeneration (E : RelayEnv) {r r' : Relay} {actions : List RelayAction}
    (hinit : r.Initial) (hguard : Guarded (Relay.step E) (keepsPairing E · ·) r actions)
    (hrun : run (Relay.step E) r actions = some r') : ∀ w ∈ r'.writes, w.SameGeneration := by
  have hpaired : r.Paired := by
    refine ⟨?_, ?_⟩
    · intro p hp
      rw [hinit.pumps] at hp
      cases hp
    · intro w hw
      rw [hinit.writes] at hw
      cases hw
  have hafter : r'.Paired := run_invariant (fun _ _ _ => step_paired) hpaired hguard hrun
  exact hafter.writes

/-! ## A legacy connector and one provider -/

/-- A reverse token `r` and a connector token `c` for it, without rules. -/
def pairRegistry : Registry where
  tokens := AList.insert (ascii "r") 1080 ∅
  forwardTokens := ∅
  connectorTokens := AList.insert (ascii "c") (ascii "r") ∅
  connectorTokenAC := ∅
  sha256TokenMap := ∅

/-- A relay without clients.  Link 0 speaks the legacy generation, every other
link speaks `version`. -/
def idleRelay (registry : Registry) (version : UInt8) : Relay where
  server :=
    { version := fun l => if l = 0 then protocolVersionV1 else version
      registry := registry
      manages := ∅
      internalTokens := ∅
      tokenClients := ∅
      tokenIndexes := ∅
      clientMeta := ∅
      channelIDToClient := ∅
      channelIDToConnector := ∅
      tokenCache := ∅
      orphanQueues := ∅
      queues := [] }
  sessions := ∅
  pumpActive := ∅
  pumps := []
  writes := []

theorem idleRelay_initial (registry : Registry) (version : UInt8) :
    (idleRelay registry version).Initial := ⟨rfl, rfl, rfl⟩

def relayEnv : RelayEnv where
  w := .bits64
  lib := plainLib
  versions := noVersions
  parseIP := fun _ => some (List.replicate 16 1)
  transportGrace := 0
  connectorWait := 0

def authFrame (version : UInt8) (token : GoString) (reverse : Bool) : Bytes :=
  version :: binaryTypeAuth :: (packString token ++ boolToByte reverse :: UUID.nil.bytes)

def connectFrame : Bytes :=
  protocolVersionV1 :: binaryTypeConnect :: protocolToBytes tcp ::
    ((uuidOf 9).bytes ++ (packString (ascii "h") ++ putPort 80))

/-- A provider of generation `version` and a legacy connector authenticate;
the connector requests a channel by `frame`, and its pump binds the
provider. -/
def pairRun (version : UInt8) (frame : Bytes) : List RelayAction :=
  [.authenticate 1 (uuidOf 1) (.frame (authFrame version (ascii "r") true))
      (ascii "r"),
    .register (uuidOf 1), .authenticate 0 (uuidOf 2)
      (.frame (authFrame protocolVersionV1 (ascii "c") false)) (ascii "c"),
    .register (uuidOf 2), .receive (uuidOf 2) frame true, .pump 0 .next, .pump 0 (.resolved none),
    .pump 0 .next, .pump 0 .next, .pump 0 .next, .pump 0 .next, .pump 0 (.written true)]

/-- The generations of provider and connector at each write of a run. -/
def writtenMajors (E : RelayEnv) (r : Relay) (actions : List RelayAction) :
    Option (List (UInt8 × UInt8)) :=
  (run (Relay.step E) r actions).map fun r => r.writes.map fun w =>
    (protocolMajor (w.version w.provider), protocolMajor (w.version w.pump.ws))

/-- With a legacy provider the run meets the condition, and the bind it writes
stays within the generation. -/
theorem pairRun_sameGeneration : (idleRelay pairRegistry protocolVersionV1).Initial ∧
    Guarded (Relay.step relayEnv) (keepsPairing relayEnv · ·)
      (idleRelay pairRegistry protocolVersionV1) (pairRun protocolVersionV1 connectFrame) ∧
    ∃ r', run (Relay.step relayEnv) (idleRelay pairRegistry protocolVersionV1)
        (pairRun protocolVersionV1 connectFrame) = some r' ∧
      r'.writes ≠ [] ∧ ∀ w ∈ r'.writes, w.SameGeneration := by
  refine ⟨idleRelay_initial _ _, ?guard, exists_run_and ?_ fun _ =>
    run_sameGeneration relayEnv (idleRelay_initial _ _) ?guard⟩
  all_goals decide +kernel

/-- With a provider of generation 2, the only one there is, the legacy
connector is bound to it. -/
theorem pairRun_crosses_generations : (idleRelay pairRegistry protocolVersionV2).Initial ∧
    ∃ r', run (Relay.step relayEnv) (idleRelay pairRegistry protocolVersionV2)
        (pairRun protocolVersionV2 connectFrame) = some r' ∧
      ∃ w ∈ r'.writes, protocolMajor (w.version w.provider) = 2 ∧
        protocolMajor (w.version w.pump.ws) = 0 ∧ ¬ w.SameGeneration := by
  have hmajors : writtenMajors relayEnv (idleRelay pairRegistry protocolVersionV2)
      (pairRun protocolVersionV2 connectFrame) = some [(2, 0)] := by
    decide +kernel
  obtain ⟨r', hrun, hwrites⟩ := map_eq_some_iff.mp hmajors
  have hmem : (2, 0) ∈ r'.writes.map fun w => (protocolMajor (w.version w.provider),
        protocolMajor (w.version w.pump.ws)) := by
    rw [hwrites]
    exact mem_singleton_self _
  obtain ⟨w, hw, heq⟩ := mem_map.mp hmem
  obtain ⟨hprovider, hconnector⟩ := Prod.mk.inj heq
  refine ⟨idleRelay_initial _ _, r', hrun, w, hw, hprovider, hconnector, ?_⟩
  intro hsame
  have hcross := hsame w.pump.ws (mem_cons_self ..)
  rw [hprovider, hconnector] at hcross
  exact absurd hcross (by decide)

end LinkSocks
