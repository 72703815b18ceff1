import LinkSocks.Channel.Agreement

/-!
# Finding a peer for the direct path

Two clients learn of each other by messages that the relay passes on: each tells its
session, its candidates and its public key.  The smaller session identifier names the pair,
and the key of the pair is derived from it and the peer's public key.  The dispatcher
changes this state under a lock, one message at a time.  The agent takes a snapshot of it,
and comes back with the pair session and the key later.
-/

namespace LinkSocks

open Go

/-! ## Versions -/

def minVersionDirect : UInt8 := 0x01

/-- Version zero is a peer that leaves the field out. -/
def protocolAllowsDirectPeer (version : UInt8) : Bool :=
  if protocolMajor version = protocolMajor protocolVersionV2 then false
  else version = 0 || protocolSupportsFeature version minVersionDirect

def clientProtocolVersion (option : UInt8) : UInt8 :=
  if option = 0 then protocolVersionV2 else option

/-! ## The state of a client -/

/-- The first identifier is not the larger one. -/
def bytesLe : Bytes → Bytes → Bool
  | a :: as, b :: bs => if a < b then true else if b < a then false else bytesLe as bs
  | _, _ => true

def minUUID (a b : UUID) : UUID := if bytesLe a.bytes b.bytes then a else b

theorem minUUID_ne_nil {a b : UUID} (ha : a ≠ UUID.nil) (hb : b ≠ UUID.nil) :
    minUUID a b ≠ UUID.nil := by
  rw [minUUID]
  split
  exacts [ha, hb]

structure DirectEnv where
  /-- `opt.ProtocolVersion`. -/
  option : UInt8
  /-- `uuid.New()`. -/
  localSession : UUID
  localSession_ne : localSession ≠ UUID.nil
  localPublicKey : Bytes
  /-- `deriveDirectSessionKey` with the private key of the client. -/
  derive : UUID → Bytes → Option Bytes

def DirectEnv.protocolVersion (E : DirectEnv) : UInt8 := clientProtocolVersion E.option

structure DirectState where
  localReady : Bool
  localCandidates : List DirectCandidate
  remoteSession : UUID
  remoteCandidates : List DirectCandidate
  remoteProtocolVersion : UInt8
  remotePublicKey : Bytes
  pairSession : UUID
  pairSessionSet : Bool
  pairSessionKey : Bytes
  pairKeyReady : Bool
  pendingRendezvous : List UUID
  probing : Bool
  ready : Bool

namespace DirectState

variable (E : DirectEnv)

/-- `directResetPeerStateLocked`. -/
def resetPeerState (s : DirectState) : DirectState :=
  { s with
    remoteSession := UUID.nil
    remoteCandidates := []
    remoteProtocolVersion := 0
    remotePublicKey := []
    pairSession := UUID.nil
    pairSessionSet := false
    pairSessionKey := []
    pairKeyReady := false
    pendingRendezvous := []
    probing := false
    ready := false }

def keyChanged (s : DirectState) (publicKey : Bytes) : Bool :=
  s.remotePublicKey ≠ [] && publicKey ≠ [] && s.remotePublicKey ≠ publicKey

/-- `peerChanged`, on capabilities. -/
def capabilitiesChange (s : DirectState) (m : DirectCapabilitiesMessage) : Bool :=
  (s.remoteSession ≠ UUID.nil && s.remoteSession ≠ m.sessionID) || s.keyChanged m.publicKey

/-- `peerChanged`, on a rendezvous. -/
def rendezvousChange (s : DirectState) (m : DirectRendezvousMessage) : Bool :=
  (m.remoteSessionID ≠ UUID.nil && s.remoteSession ≠ UUID.nil &&
    s.remoteSession ≠ m.remoteSessionID) || s.keyChanged m.publicKey

/-- The state is given up if there is another peer now. -/
def resetIf (s : DirectState) (peerChanged : Bool) : DirectState :=
  if peerChanged then s.resetPeerState else s

def learnPeer (s : DirectState) (remoteSession : UUID) (candidates : List DirectCandidate)
    (version : UInt8) (publicKey : Bytes) : DirectState :=
  { s with
    remoteSession := remoteSession
    remoteCandidates := candidates
    remoteProtocolVersion := version
    remotePublicKey := if publicKey = [] then s.remotePublicKey else publicKey }

/-- The dispatcher on capabilities, and the rendezvous it answers with. -/
def receiveCapabilities (s : DirectState) (m : DirectCapabilitiesMessage) :
    DirectState × Option DirectRendezvousMessage :=
  if protocolAllowsDirectPeer m.protocolVersion then
    let s' := (s.resetIf (s.capabilitiesChange m)).learnPeer
      m.sessionID m.candidates m.protocolVersion m.publicKey
    if s'.localReady then
      -- the version of this build, not of the client
      (s', some ⟨m.sessionID, E.localSession, s'.localCandidates, E.localPublicKey,
        protocolVersion⟩)
    else ({ s' with pendingRendezvous := s'.pendingRendezvous.insert m.sessionID }, none)
  else (s, none)

def receiveRendezvous (s : DirectState) (m : DirectRendezvousMessage) : DirectState :=
  if protocolAllowsDirectPeer m.protocolVersion ∧ m.sessionID = E.localSession then
    let s' := s.resetIf (s.rendezvousChange m)
    s'.learnPeer (if m.remoteSessionID = UUID.nil then s'.remoteSession else m.remoteSessionID)
      m.candidates m.protocolVersion m.publicKey
  else s

/-- `directShouldApplyStatusSessionLocked`: the state it leaves, and its answer. -/
def applyStatusSession (s : DirectState) (session : UUID) : DirectState × Bool :=
  if session = UUID.nil then (s, true)
  else if s.remoteSession ≠ UUID.nil ∧ minUUID E.localSession s.remoteSession ≠ session then
    (s, false)
  else if s.pairSessionSet = false ∨ s.pairSession = UUID.nil then
    ({ s with pairSession := session, pairSessionSet := true }, true)
  else (s, s.pairSession = session)

end DirectState

/-! ## The client and its agent -/

inductive DirectSignal where
  | capabilities (m : DirectCapabilitiesMessage)
  | rendezvous (m : DirectRendezvousMessage)

inductive AgentPC where
  | idle
  /-- After the snapshot. -/
  | pairing (snap : DirectState)
  /-- After the pair session. -/
  | keying (snap : DirectState) (pairSession : UUID)
  /-- After the key. -/
  | probing (pairSession : UUID) (pairKey : Bytes)

structure DirectClient where
  state : DirectState
  agent : AgentPC
  /-- History: what the key of the pair was derived from. -/
  derivedFrom : Option (UUID × Bytes)
  /-- History: capabilities and rendezvous that were written. -/
  emitted : List DirectSignal

inductive DirectAction where
  | capabilities (m : DirectCapabilitiesMessage)
  | rendezvous (m : DirectRendezvousMessage)
  | status (m : DirectStatusMessage)
  /-- `broadcastLocalCandidates`. -/
  | broadcast (candidates : List DirectCandidate) (discoveries : List GoString)
  | snapshot
  | pair
  /-- It is not the time to probe, or to wait for host candidates. -/
  | defer
  | derive
  | probe
  | probed (ok : Bool)
  /-- The QUIC agent has a connection. -/
  | connected

namespace DirectClient

variable (E : DirectEnv)

def put (s : DirectClient) (state : DirectState) : DirectClient := { s with state := state }

/-- The agent has all it needs to go on. -/
def proceeds (snap : DirectState) : Bool :=
  !(snap.ready || snap.probing) && !snap.remoteCandidates.isEmpty &&
    !(snap.remoteSession = UUID.nil && !snap.pairSessionSet)

/-- The capabilities and the pending rendezvous. -/
def broadcastSignals (s : DirectState) (candidates : List DirectCandidate)
    (discoveries : List GoString) : List DirectSignal :=
  .capabilities ⟨E.localSession, candidates, discoveries, E.localPublicKey, E.protocolVersion⟩ ::
    s.pendingRendezvous.map fun sid =>
      .rendezvous ⟨sid, E.localSession, candidates, E.localPublicKey, E.protocolVersion⟩

def step (s : DirectClient) : DirectAction → Option DirectClient
  | .capabilities m =>
    let out := s.state.receiveCapabilities E m
    some { s with
      state := out.1
      emitted := s.emitted ++ (out.2.map DirectSignal.rendezvous).toList }
  | .rendezvous m => some (s.put (s.state.receiveRendezvous E m))
  | .status m => some (s.put (s.state.applyStatusSession E m.sessionID).1)
  | .broadcast candidates discoveries =>
    some { s with
      state := { s.state with
        localCandidates := candidates
        localReady := true
        pendingRendezvous := [] }
      emitted := s.emitted ++ broadcastSignals E s.state candidates discoveries }
  | .snapshot =>
    match s.agent with
    | .idle => some { s with agent := if proceeds s.state then .pairing s.state else .idle }
    | _ => none
  | .pair =>
    match s.agent with
    | .pairing snap =>
      if snap.pairSessionSet then some { s with agent := .keying snap snap.pairSession }
      else
        let pairSession := minUUID E.localSession snap.remoteSession
        some { s with
          state := { s.state with pairSession := pairSession, pairSessionSet := true }
          agent := .keying snap pairSession }
    | _ => none
  | .defer =>
    match s.agent with
    | .keying .. => some { s with agent := .idle }
    | _ => none
  | .derive =>
    match s.agent with
    | .keying snap pairSession =>
      if snap.pairKeyReady then some { s with agent := .probing pairSession snap.pairSessionKey }
      else if snap.remotePublicKey.length ≠ 32 then some { s with agent := .idle }
      else
        match E.derive pairSession snap.remotePublicKey with
        | none => some { s with agent := .idle }
        | some key =>
          some { s with
            state := { s.state with pairSessionKey := key, pairKeyReady := true }
            agent := .probing pairSession key
            derivedFrom := some (pairSession, snap.remotePublicKey) }
    | _ => none
  | .probe =>
    match s.agent with
    | .probing .. => some (s.put { s.state with probing := true })
    | _ => none
  | .probed ok =>
    match s.agent with
    | .probing .. =>
      some { s with
        state := { s.state with ready := s.state.ready || ok, probing := false }
        agent := .idle }
    | _ => none
  | .connected => some (s.put { s.state with ready := true })

def fresh : DirectClient :=
  ⟨⟨false, [], UUID.nil, [], 0, [], UUID.nil, false, [], false, [], false, false⟩, .idle, none, []⟩

end DirectClient

/-! ## Messages that a peer takes -/

/-- A client that gets the message takes its session, candidates and key from it. -/
def DirectSignal.Taken : DirectSignal → Prop
  | .capabilities m =>
    protocolAllowsDirectPeer m.protocolVersion = true ∧ ∀ (E : DirectEnv) (s : DirectState),
        (s.receiveCapabilities E m).1.remoteSession = m.sessionID ∧
        (s.receiveCapabilities E m).1.remoteCandidates = m.candidates ∧
        (m.publicKey ≠ [] → (s.receiveCapabilities E m).1.remotePublicKey = m.publicKey)
  | .rendezvous m =>
    protocolAllowsDirectPeer m.protocolVersion = true ∧
      ∀ (E : DirectEnv) (s : DirectState), m.sessionID = E.localSession →
        (m.remoteSessionID ≠ UUID.nil →
          (s.receiveRendezvous E m).remoteSession = m.remoteSessionID) ∧
        (s.receiveRendezvous E m).remoteCandidates = m.candidates ∧
        (m.publicKey ≠ [] → (s.receiveRendezvous E m).remotePublicKey = m.publicKey)

def DirectSignal.version : DirectSignal → UInt8
  | .capabilities m => m.protocolVersion
  | .rendezvous m => m.protocolVersion

theorem DirectSignal.taken_iff (m : DirectSignal) :
    m.Taken ↔ protocolAllowsDirectPeer m.version = true := by
  cases m with
  | capabilities m =>
    refine ⟨And.left, fun hversion => ⟨hversion, fun E s => ?_⟩⟩
    change protocolAllowsDirectPeer m.protocolVersion = true at hversion
    rw [DirectState.receiveCapabilities, if_pos hversion]
    dsimp only
    split
    all_goals exact ⟨rfl, rfl, fun hkey => if_neg hkey⟩
  | rendezvous m =>
    refine ⟨And.left, fun hversion => ⟨hversion, fun E s hsession => ?_⟩⟩
    rw [DirectState.receiveRendezvous, if_pos ⟨hversion, hsession⟩]
    exact ⟨fun hremote => if_neg hremote, rfl, fun hkey => if_neg hkey⟩

namespace DirectClient

variable {E : DirectEnv} {s s' : DirectClient}

/-- Everything that the client has written is taken by its peers. -/
def AllTaken (s : DirectClient) : Prop := ∀ m ∈ s.emitted, m.Taken

/-- The condition on one action: capabilities come before the client has
candidates of its own. -/
def Early (s : DirectClient) : DirectAction → Prop
  | .capabilities m =>
    protocolAllowsDirectPeer m.protocolVersion = true → s.state.localReady = false
  | _ => True

instance (s : DirectClient) : DecidablePred s.Early := by
  intro action
  unfold DirectClient.Early
  split <;> infer_instance

theorem AllTaken.append (h : s.AllTaken) {signals : List DirectSignal}
    (hsignals : ∀ m ∈ signals, m.Taken) (hemitted : s'.emitted = s.emitted ++ signals) :
    s'.AllTaken := by
  intro m hm
  rw [hemitted, List.mem_append] at hm
  exact hm.elim (h m) (hsignals m)

theorem AllTaken.broadcast (hversion : protocolAllowsDirectPeer E.protocolVersion = true)
    (state : DirectState) (candidates : List DirectCandidate) (discoveries : List GoString) :
    ∀ m ∈ broadcastSignals E state candidates discoveries, m.Taken := by
  intro m hm
  rw [DirectSignal.taken_iff]
  rcases List.mem_cons.mp hm with rfl | hmem
  · exact hversion
  · obtain ⟨sid, -, rfl⟩ := List.mem_map.mp hmem
    exact hversion

theorem receiveCapabilities_snd (state : DirectState) (m : DirectCapabilitiesMessage) :
    ((state.receiveCapabilities E m).2 = none ∧
        (protocolAllowsDirectPeer m.protocolVersion = true → state.localReady = false)) ∨
      ∃ answer, (state.receiveCapabilities E m).2 = some answer ∧
        answer.protocolVersion = LinkSocks.protocolVersion ∧
        protocolAllowsDirectPeer m.protocolVersion = true ∧ state.localReady = true := by
  have hready : (state.resetIf (state.capabilitiesChange m)).localReady = state.localReady := by
    rw [DirectState.resetIf]
    split <;> rfl
  rw [DirectState.receiveCapabilities]
  split
  · rename_i hversion
    dsimp only
    split
    · rename_i hlocal
      exact .inr ⟨_, rfl, rfl, hversion, hready ▸ hlocal⟩
    · rename_i hlocal
      exact .inl ⟨rfl, fun _ => hready ▸ eq_false_of_ne_true hlocal⟩
  · rename_i hversion
    exact .inl ⟨rfl, fun hallowed => absurd hallowed hversion⟩

theorem AllTaken.step (h : s.AllTaken)
    (hversion : protocolAllowsDirectPeer E.protocolVersion = true) {a : DirectAction}
    (hguard : s.Early a) (hstep : s.step E a = some s') : s'.AllTaken := by
  revert hguard hstep
  fun_cases DirectClient.step E s a <;> intro hguard hstep <;> cases hstep
  case case1 m out =>
    refine h.append ?_ rfl
    rcases receiveCapabilities_snd (E := E) s.state m with ⟨hnone, -⟩ | ⟨-, -, -, hallowed, hready⟩
    · simp [out, hnone]
    · rw [hguard hallowed] at hready
      cases hready
  case case4 candidates discoveries =>
    exact h.append (AllTaken.broadcast hversion s.state candidates discoveries) rfl
  all_goals exact h

/-- An answer carries the version of the build, which no direct peer has. -/
theorem not_allTaken_step {a : DirectAction} (hguard : ¬ s.Early a)
    (hstep : s.step E a = some s') : ¬ s'.AllTaken := by
  cases a with
  | capabilities m =>
    cases hstep
    rcases receiveCapabilities_snd (E := E) s.state m with
      ⟨-, hearly⟩ | ⟨answer, hanswer, hversion, -⟩
    · exact absurd hearly hguard
    · intro htaken
      have hanswer := (DirectSignal.taken_iff _).mp
        (htaken (.rendezvous answer) (by simp [hanswer]))
      rw [DirectSignal.version, hversion] at hanswer
      exact absurd hanswer (by decide)
  | rendezvous | status | broadcast | snapshot | pair | defer | derive | probe | probed
  | connected => exact absurd trivial hguard

/-- Along a run of a client of the first generation, everything that it has written
is taken by its peers exactly if capabilities come early. -/
theorem signals_taken_iff
    (hlegacy : protocolMajor E.protocolVersion = protocolMajor protocolVersionV1)
    (hdirect : protocolSupportsFeature E.protocolVersion minVersionDirect = true)
    {actions : List DirectAction} {t : DirectClient} (hrun : run (step E) fresh actions = some t) :
    Always (step E) AllTaken fresh actions ↔ Guarded (step E) Early fresh actions := by
  have hversion : protocolAllowsDirectPeer E.protocolVersion = true := by
    rw [protocolAllowsDirectPeer, if_neg (by rw [hlegacy]; decide), hdirect, Bool.or_true]
  exact always_iff_guarded (fun _ h => h) (fun _ _ _ h => h.step hversion)
    (fun _ _ _ _ => not_allTaken_step) (I := AllTaken) (fun _ hm => nomatch hm) hrun

end DirectClient

/-! ## Runs -/

def directEnv : DirectEnv :=
  ⟨protocolVersionV1, uuidOf 5, by decide, [1], fun pair key => some (pair.bytes ++ key)⟩

/-- Capabilities of a peer, with a key of thirty-two bytes. -/
def peerCapabilities (sid key : UInt8) : DirectCapabilitiesMessage :=
  ⟨uuidOf sid, [⟨ascii "h", 80, []⟩], [], List.replicate 32 key, protocolVersionV1⟩

/-- The peer is heard before the client knows its own candidates. -/
def earlySignals : List DirectAction :=
  [.capabilities (peerCapabilities 7 1), .broadcast [] [ascii "stun"]]

theorem earlySignals_taken :
    (∃ s ∈ run (DirectClient.step directEnv) .fresh earlySignals, s.emitted.length = 2) ∧
      Always (DirectClient.step directEnv) DirectClient.AllTaken .fresh earlySignals :=
  ⟨by decide +kernel, of_run_isSome (by decide +kernel) fun _ hrun =>
    (DirectClient.signals_taken_iff (by decide) (by decide) hrun).mpr (by decide +kernel)⟩

/-- A client with candidates answers with the version of the second generation,
which a peer of the first one drops. -/
theorem lateCapabilities_dropped : ∃ s ∈ run (DirectClient.step directEnv) .fresh
        [.broadcast [] [ascii "stun"], .capabilities (peerCapabilities 7 1)],
      s.emitted.map DirectSignal.version = [protocolVersionV1, protocolVersionV2] ∧
      protocolAllowsDirectPeer protocolVersionV2 = false := by
  decide +kernel

end LinkSocks
