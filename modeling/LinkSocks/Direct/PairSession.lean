import LinkSocks.Direct.Peer

/-!
# The session and the key of a pair

The pair session is to be the smaller of the two identifiers, and the key is to be derived
from it and from the peer's public key.  A status message can set the pair session before
the peer is known, and what the agent stores comes from a snapshot; in both cases the state
may have moved on.
-/

namespace LinkSocks

open Go

namespace DirectClient

variable {E : DirectEnv} {s s' : DirectClient}

/-- The pair session is that of the current peer, and the key belongs to them. -/
structure Consistent (E : DirectEnv) (s : DirectClient) : Prop where
  session : s.state.remoteSession ≠ UUID.nil → s.state.pairSessionSet = true →
    s.state.pairSession = minUUID E.localSession s.state.remoteSession
  key : s.state.pairKeyReady = true →
    s.derivedFrom = some (s.state.pairSession, s.state.remotePublicKey)

/-- The pair session, if it is set and not given up, is the one with this peer. -/
def Fits (E : DirectEnv) (s : DirectClient) (peerChanged : Bool) (remote : UUID) : Prop :=
  peerChanged = false → remote ≠ UUID.nil → s.state.pairSessionSet = true →
    s.state.pairSession = minUUID E.localSession remote

instance (s : DirectClient) (peerChanged : Bool) (remote : UUID) :
    Decidable (s.Fits E peerChanged remote) := inferInstanceAs (Decidable (_ → _ → _ → _))

/-- The pair session that the agent is about to store is that of the current peer. -/
def FreshPair (E : DirectEnv) (state : DirectState) : AgentPC → Prop
  | .pairing snap => snap.pairSessionSet = false → state.remoteSession ≠ UUID.nil →
      minUUID E.localSession snap.remoteSession = minUUID E.localSession state.remoteSession
  | _ => True

/-- The key that the agent is about to store is for the current pair and peer. -/
def FreshKey (E : DirectEnv) (state : DirectState) : AgentPC → Prop
  | .keying snap pairSession =>
    snap.pairKeyReady = false → snap.remotePublicKey.length = 32 →
      (E.derive pairSession snap.remotePublicKey).isSome = true →
        pairSession = state.pairSession ∧ snap.remotePublicKey = state.remotePublicKey
  | _ => True

instance (state : DirectState) : DecidablePred (FreshPair E state)
  | .pairing _ => inferInstanceAs (Decidable (_ → _ → _))
  | .idle | .keying .. | .probing .. => isTrue trivial

instance (state : DirectState) : DecidablePred (FreshKey E state)
  | .keying .. => inferInstanceAs (Decidable (_ → _ → _ → _ ∧ _))
  | .idle | .pairing _ | .probing .. => isTrue trivial

/-- A message that names a peer, and does not make the client start again, names one that the
pair session fits.  What the agent stores is still right for the current peer. -/
def Current (E : DirectEnv) (s : DirectClient) : DirectAction → Prop
  | .capabilities m => protocolAllowsDirectPeer m.protocolVersion = true →
      s.Fits E (s.state.capabilitiesChange m) m.sessionID
  | .rendezvous m =>
    protocolAllowsDirectPeer m.protocolVersion = true ∧ m.sessionID = E.localSession →
      s.Fits E (s.state.rendezvousChange m) m.remoteSessionID
  | .pair => FreshPair E s.state s.agent
  | .derive => FreshKey E s.state s.agent
  | _ => True

instance (s : DirectClient) : DecidablePred (s.Current E)
  | .capabilities _ | .rendezvous _ => inferInstanceAs (Decidable (_ → Fits ..))
  | .pair => inferInstanceAs (Decidable (FreshPair ..))
  | .derive => inferInstanceAs (Decidable (FreshKey ..))
  | .status _ | .broadcast .. | .snapshot | .defer | .probe | .probed _ | .connected =>
    isTrue trivial

/-! ## What holds along a run -/

structure Sound (state : DirectState) : Prop where
  pair : state.pairSessionSet = true ↔ state.pairSession ≠ UUID.nil
  key : state.pairKeyReady = true → state.pairSessionSet = true ∧ state.remotePublicKey.length = 32

def AgentSound (state : DirectState) : AgentPC → Prop
  | .pairing snap =>
    if snap.pairSessionSet = true then snap.pairSession ≠ UUID.nil
    else snap.remoteSession ≠ UUID.nil ∧ state.pairKeyReady = false
  | .keying _ pairSession => pairSession ≠ UUID.nil
  | _ => True

structure Kept (E : DirectEnv) (s : DirectClient) : Prop where
  consistent : s.Consistent E
  sound : Sound s.state
  agent : AgentSound s.state s.agent

theorem kept_fresh : fresh.Kept E where
  consistent := ⟨nofun, nofun⟩
  sound := ⟨by simp [fresh], nofun⟩
  agent := trivial

theorem AgentSound.mono {state state' : DirectState} {agent : AgentPC} (h : AgentSound state agent)
    (hkey : state.pairKeyReady = false → state'.pairKeyReady = false) :
    AgentSound state' agent := by
  cases agent with
  | pairing snap =>
    rw [AgentSound] at h ⊢
    split at h
    · rwa [if_pos ‹_›]
    · rw [if_neg ‹_›]
      exact ⟨h.1, hkey h.2⟩
  | idle | keying | probing => exact h

theorem Kept.frame (h : s.Kept E) (hremote : s'.state.remoteSession = s.state.remoteSession)
    (hpublic : s'.state.remotePublicKey = s.state.remotePublicKey)
    (hpair : s'.state.pairSession = s.state.pairSession)
    (hset : s'.state.pairSessionSet = s.state.pairSessionSet)
    (hready : s'.state.pairKeyReady = s.state.pairKeyReady)
    (hderived : s'.derivedFrom = s.derivedFrom) (hagent : AgentSound s'.state s'.agent) :
    s'.Kept E := by
  refine ⟨⟨?_, ?_⟩, ⟨?_, ?_⟩, hagent⟩
  · rw [hremote, hpair, hset]
    exact h.consistent.session
  · rw [hready, hpair, hpublic, hderived]
    exact h.consistent.key
  · rw [hset, hpair]
    exact h.sound.pair
  · rw [hready, hset, hpublic]
    exact h.sound.key

/-! ### Messages -/

theorem sound_resetPeerState (state : DirectState) : Sound state.resetPeerState where
  pair := by simp [DirectState.resetPeerState]
  key := nofun

theorem learnPeer_remotePublicKey {state : DirectState} {publicKey : Bytes}
    (hsound : Sound state) (hready : state.pairKeyReady = true)
    (hsame : state.keyChanged publicKey = false) :
    (if publicKey = [] then state.remotePublicKey else publicKey) = state.remotePublicKey := by
  split
  · rfl
  · rename_i hkey
    have hknown := List.ne_nil_of_length_eq_add_one (hsound.key hready).2
    simp only [DirectState.keyChanged, ne_eq, hknown, hkey, not_false_eq_true, decide_true,
      Bool.true_and, decide_not, Bool.not_eq_false', decide_eq_true_eq] at hsame
    exact hsame.symm

/-- A peer is learned: the same one as before, or a new one after everything has
been given up. -/
theorem Kept.learnPeer (h : s.Kept E) {peerChanged : Bool} {remote : UUID}
    (candidates : List DirectCandidate) (version : UInt8) {publicKey : Bytes}
    (hkey : peerChanged = false → s.state.keyChanged publicKey = false)
    (hfits : peerChanged = false → remote ≠ UUID.nil → s.state.pairSessionSet = true →
      s.state.pairSession = minUUID E.localSession remote) :
    (s.put ((s.state.resetIf peerChanged).learnPeer remote candidates version
      publicKey)).Kept E := by
  cases peerChanged with
  | true =>
    refine ⟨⟨nofun, nofun⟩, ⟨(sound_resetPeerState s.state).pair, nofun⟩, ?_⟩
    exact h.agent.mono fun _ => rfl
  | false =>
    have hpublic : s.state.pairKeyReady = true →
        (if publicKey = [] then s.state.remotePublicKey else publicKey) = s.state.remotePublicKey :=
      fun hready => learnPeer_remotePublicKey h.sound hready (hkey rfl)
    refine ⟨⟨hfits rfl, fun hready => ?_⟩, ⟨h.sound.pair, fun hready => ?_⟩, h.agent.mono id⟩
    · exact (h.consistent.key hready).trans (by rw [← hpublic hready]; rfl)
    · refine ⟨(h.sound.key hready).1, ?_⟩
      exact (congrArg List.length (hpublic hready)).trans (h.sound.key hready).2

theorem not_consistent_learnPeer {peerChanged : Bool} {remote : UUID}
    (hfits : ¬ s.Fits E peerChanged remote) (hremote : s'.state.remoteSession = remote)
    (hset : s'.state.pairSessionSet = (s.state.resetIf peerChanged).pairSessionSet)
    (hpair : s'.state.pairSession = (s.state.resetIf peerChanged).pairSession) :
    ¬ s'.Consistent E := by
  simp only [Fits, not_forall] at hfits
  obtain ⟨rfl, hknown, hold, hne⟩ := hfits
  intro hconsistent
  have hsession := hconsistent.session
  rw [hremote, hset, hpair] at hsession
  exact hne (hsession hknown hold)

theorem receiveCapabilities_fst (state : DirectState) {m : DirectCapabilitiesMessage}
    (hversion : protocolAllowsDirectPeer m.protocolVersion = true) :
    ∃ pending, (state.receiveCapabilities E m).1 =
      { (state.resetIf (state.capabilitiesChange m)).learnPeer m.sessionID m.candidates
          m.protocolVersion m.publicKey with pendingRendezvous := pending } := by
  rw [DirectState.receiveCapabilities, if_pos hversion]
  dsimp only
  split
  exacts [⟨_, rfl⟩, ⟨_, rfl⟩]

section

variable (h : s.Kept E)
include h

theorem Kept.capabilities {m : DirectCapabilitiesMessage}
    (hguard : s.Current E (.capabilities m)) (hstep : s.step E (.capabilities m) = some s') :
    s'.Kept E := by
  cases hstep
  by_cases hversion : protocolAllowsDirectPeer m.protocolVersion = true
  · obtain ⟨pending, hstate⟩ := receiveCapabilities_fst (E := E) s.state hversion
    have hlearned := h.learnPeer m.candidates m.protocolVersion
      (fun hsame => (Bool.or_eq_false_iff.mp hsame).2) (hguard hversion)
    refine hlearned.frame ?_ ?_ ?_ ?_ ?_ rfl ?_
    all_goals rw [hstate]
    all_goals first | rfl | exact hlearned.agent.mono id
  · have hstate : (s.state.receiveCapabilities E m).1 = s.state := by
      rw [DirectState.receiveCapabilities, if_neg hversion]
    refine h.frame ?_ ?_ ?_ ?_ ?_ rfl ?_
    all_goals rw [hstate]
    exact h.agent

theorem Kept.rendezvous {m : DirectRendezvousMessage}
    (hguard : s.Current E (.rendezvous m)) (hstep : s.step E (.rendezvous m) = some s') :
    s'.Kept E := by
  cases hstep
  rw [DirectState.receiveRendezvous]
  split
  · rename_i hversion
    refine h.learnPeer _ _ (fun hsame => (Bool.or_eq_false_iff.mp hsame).2) ?_
    intro hsame hremote hset
    split at hremote
    · rename_i hnil
      rw [if_pos hnil, hsame]
      rw [hsame] at hremote
      exact h.consistent.session hremote hset
    · rename_i hnil
      rw [if_neg hnil]
      exact hguard hversion hsame hnil hset
  · exact h

theorem Kept.status {m : DirectStatusMessage}
    (hstep : s.step E (.status m) = some s') : s'.Kept E := by
  cases hstep
  rw [DirectState.applyStatusSession]
  split
  · exact h
  · rename_i hnil
    split
    · exact h
    · rename_i hexpected
      split
      · rename_i hfree
        have hunset : ¬ s.state.pairKeyReady = true := by
          intro hready
          have hset := (h.sound.key hready).1
          rcases hfree with hfalse | hpair
          · rw [hfalse] at hset
            cases hset
          · exact h.sound.pair.mp hset hpair
        refine ⟨⟨fun hremote _ => ?_, fun hready => absurd hready hunset⟩,
          ⟨iff_of_true rfl hnil, fun hready => absurd hready hunset⟩, h.agent.mono id⟩
        by_contra hne
        exact hexpected ⟨hremote, fun heq => hne heq.symm⟩
      · exact h

/-! ### The agent -/

theorem Kept.snapshot (hstep : s.step E .snapshot = some s') : s'.Kept E := by
  rw [DirectClient.step] at hstep
  split at hstep <;> cases hstep
  refine h.frame rfl rfl rfl rfl rfl rfl ?_
  split
  · rename_i hproceeds
    rw [AgentSound]
    split
    · rename_i hset
      exact h.sound.pair.mp hset
    · rename_i hunset
      refine ⟨fun hnil => ?_, ?_⟩
      · simp [proceeds, hnil, hunset] at hproceeds
      · exact Bool.eq_false_iff.mpr fun hready => hunset (h.sound.key hready).1
  · trivial

theorem Kept.pair (hguard : s.Current E .pair) (hstep : s.step E .pair = some s') : s'.Kept E := by
  rw [DirectClient.step] at hstep
  split at hstep
  · rename_i snap hagent
    have hsound := h.agent
    rw [hagent, AgentSound] at hsound
    split at hstep
    · rename_i hset
      cases hstep
      rw [if_pos hset] at hsound
      exact h.frame rfl rfl rfl rfl rfl rfl hsound
    · rename_i hunset
      cases hstep
      rw [if_neg hunset] at hsound
      have hnone : ¬ s.state.pairKeyReady = true := Bool.eq_false_iff.mp hsound.2
      have hpair := minUUID_ne_nil E.localSession_ne hsound.1
      change FreshPair E s.state s.agent at hguard
      rw [hagent] at hguard
      exact ⟨⟨fun hremote _ => hguard (eq_false_of_ne_true hunset) hremote,
          fun hready => absurd hready hnone⟩,
        ⟨iff_of_true rfl hpair, fun hready => absurd hready hnone⟩, hpair⟩
  · cases hstep

theorem Kept.derive (hguard : s.Current E .derive)
    (hstep : s.step E .derive = some s') : s'.Kept E := by
  rw [DirectClient.step] at hstep
  split at hstep
  · rename_i snap pairSession hagent
    have hpair : pairSession ≠ UUID.nil := by
      have hsound := h.agent
      rwa [hagent] at hsound
    change FreshKey E s.state s.agent at hguard
    rw [hagent] at hguard
    split at hstep
    · cases hstep
      exact h.frame rfl rfl rfl rfl rfl rfl trivial
    · rename_i hnokey
      split at hstep
      · cases hstep
        exact h.frame rfl rfl rfl rfl rfl rfl trivial
      · rename_i hlength
        rw [not_not] at hlength
        split at hstep
        · cases hstep
          exact h.frame rfl rfl rfl rfl rfl rfl trivial
        · rename_i key hkey
          cases hstep
          obtain ⟨hsession, hpublic⟩ :=
            hguard (eq_false_of_ne_true hnokey) hlength (by rw [hkey]; rfl)
          refine ⟨⟨h.consistent.session, fun _ => ?_⟩, ⟨h.sound.pair, fun _ => ?_⟩, trivial⟩
          · rw [hsession, hpublic]
          · exact ⟨h.sound.pair.mpr (hsession ▸ hpair), hpublic ▸ hlength⟩
  · cases hstep

theorem Kept.step {a : DirectAction} (hguard : s.Current E a)
    (hstep : s.step E a = some s') : s'.Kept E := by
  cases a with
  | capabilities m => exact h.capabilities hguard hstep
  | rendezvous m => exact h.rendezvous hguard hstep
  | status m => exact h.status hstep
  | broadcast candidates discoveries | connected =>
    cases hstep
    exact h.frame rfl rfl rfl rfl rfl rfl (h.agent.mono id)
  | snapshot => exact h.snapshot hstep
  | pair => exact h.pair hguard hstep
  | defer | probed ok =>
    rw [DirectClient.step] at hstep
    split at hstep <;> cases hstep
    exact h.frame rfl rfl rfl rfl rfl rfl trivial
  | derive => exact h.derive hguard hstep
  | probe =>
    rw [DirectClient.step] at hstep
    split at hstep <;> cases hstep
    exact h.frame rfl rfl rfl rfl rfl rfl (h.agent.mono id)

end

/-! ### Actions that do not meet the condition -/

theorem not_consistent_pair (hguard : ¬ s.Current E .pair)
    (hstep : s.step E .pair = some s') : ¬ s'.Consistent E := by
  rw [DirectClient.step] at hstep
  split at hstep
  · rename_i snap hagent
    change ¬ FreshPair E s.state s.agent at hguard
    rw [hagent] at hguard
    simp only [FreshPair, not_forall] at hguard
    obtain ⟨hunset, hremote, hne⟩ := hguard
    rw [if_neg (by simp [hunset])] at hstep
    cases hstep
    exact fun hconsistent => hne (hconsistent.session hremote rfl)
  · cases hstep

theorem not_consistent_derive (hguard : ¬ s.Current E .derive)
    (hstep : s.step E .derive = some s') : ¬ s'.Consistent E := by
  rw [DirectClient.step] at hstep
  split at hstep
  · rename_i snap pairSession hagent
    change ¬ FreshKey E s.state s.agent at hguard
    rw [hagent] at hguard
    simp only [FreshKey, not_forall] at hguard
    obtain ⟨hnokey, hlength, hderives, hne⟩ := hguard
    obtain ⟨key, hkey⟩ := Option.isSome_iff_exists.mp hderives
    rw [if_neg (by simp [hnokey]), if_neg (not_not.mpr hlength), hkey] at hstep
    cases hstep
    intro hconsistent
    have hderived := Option.some.inj (hconsistent.key rfl)
    exact hne ⟨congrArg Prod.fst hderived, congrArg Prod.snd hderived⟩
  · cases hstep

theorem not_consistent_step {a : DirectAction} (hguard : ¬ s.Current E a)
    (hstep : s.step E a = some s') : ¬ s'.Consistent E := by
  cases a with
  | capabilities m =>
    cases hstep
    obtain ⟨hversion, hfits⟩ := Classical.not_imp.mp hguard
    obtain ⟨pending, hstate⟩ := receiveCapabilities_fst (E := E) s.state hversion
    refine not_consistent_learnPeer hfits ?_ ?_ ?_
    all_goals rw [hstate]; rfl
  | rendezvous m =>
    cases hstep
    obtain ⟨hversion, hfits⟩ := Classical.not_imp.mp hguard
    have hremote : m.remoteSessionID ≠ UUID.nil := by
      intro hnil
      exact hfits fun _ hne => absurd hnil hne
    rw [DirectState.receiveRendezvous, if_pos hversion]
    exact not_consistent_learnPeer hfits (if_neg hremote) rfl rfl
  | pair => exact not_consistent_pair hguard hstep
  | derive => exact not_consistent_derive hguard hstep
  | status | broadcast | snapshot | defer | probe | probed | connected =>
    exact absurd trivial hguard

/-- Along a run, the pair session and the key are those of the current peer exactly
if every action meets the condition. -/
theorem pair_consistent_iff {actions : List DirectAction} {t : DirectClient}
    (hrun : run (DirectClient.step E) fresh actions = some t) :
    Always (DirectClient.step E) (Consistent E) fresh actions ↔
      Guarded (DirectClient.step E) (Current E) fresh actions :=
  always_iff_guarded (fun _ h => h.consistent) (fun _ _ _ h => h.step)
    (fun _ _ _ _ => not_consistent_step) kept_fresh hrun

end DirectClient

/-! ## Runs -/

def replacedPeer : List DirectAction :=
  [.capabilities (peerCapabilities 7 1), .snapshot, .pair, .derive, .probe, .probed true,
    .capabilities (peerCapabilities 3 2), .snapshot, .pair, .derive]

theorem replacedPeer_consistent : (∃ s ∈ run (DirectClient.step directEnv) .fresh replacedPeer,
      s.state.pairSession = uuidOf 3 ∧ s.state.pairKeyReady = true) ∧
      Always (DirectClient.step directEnv) (DirectClient.Consistent directEnv) .fresh
        replacedPeer := ⟨by decide +kernel, of_run_isSome (by decide +kernel) fun _ hrun =>
    (DirectClient.pair_consistent_iff hrun).mpr (by decide +kernel)⟩

/-- A status of somebody sets the pair session, and the peer that is heard of later is another
one.  And the agent stores the session and the key of a peer that has been replaced since its
snapshot. -/
theorem seededPair_inconsistent : (∃ s ∈ run (DirectClient.step directEnv) .fresh
        [.status ⟨uuidOf 2, ascii "probing", ⟨0, 0, []⟩⟩, .capabilities (peerCapabilities 7 1)],
      s.state.remoteSession = uuidOf 7 ∧ s.state.pairSessionSet = true ∧
      s.state.pairSession ≠ minUUID directEnv.localSession (uuidOf 7)) ∧
    (∃ s ∈ run (DirectClient.step directEnv) .fresh
        [.capabilities (peerCapabilities 7 1), .snapshot,
          .capabilities (peerCapabilities 3 2), .pair, .derive],
      s.state.remoteSession = uuidOf 3 ∧ s.state.pairSessionSet = true ∧
      s.state.pairSession ≠ minUUID directEnv.localSession (uuidOf 3) ∧
      s.state.pairKeyReady = true ∧
      s.derivedFrom ≠ some (s.state.pairSession, s.state.remotePublicKey)) := by
  decide +kernel

end LinkSocks
