import LinkSocks.Relay.Auth

/-!
# The read loop of a link

`dispatchMessages` reads one frame after another, stores the version of each
as the version of the link and hands the message to a handler.  The version is
stored without comparing its generation with the one established for the
link, so a peer can change generation in mid-stream.
-/

namespace LinkSocks

open Go List

/-- What one iteration of the loop meets: a cancelled context, a failed read,
or a frame together with the outcome of writing a version warning, should one
be due. -/
inductive LinkEvent where
  | cancelled
  | readFailed (e : Error)
  | frame (data : Bytes) (warningWritten : Bool)

/-- The version of the link and the loop's record of the last frame
(`lastPeerVersion` with `versionSeen`). -/
structure LoopState where
  version : UInt8
  lastPeerVersion : Option UInt8
  deriving DecidableEq

/-- A frame was parsed whose minor version is not the current one, and it
differs from the version of the frame before. -/
def warningDue (lastPeerVersion : Option UInt8) (peerVersion : UInt8) : Bool :=
  lastPeerVersion ≠ some peerVersion && !protocolMinorIsCurrent peerVersion

/-- What happened in one iteration: the version of the frame if one was
parsed, the message if it was handled, and the version of the link after. -/
structure Iteration where
  peerVersion : Option UInt8
  handled : Option BaseMessage
  version : UInt8

/-- The loop, until it returns or no event is left. -/
def dispatchMessages (w : IntSize) (L : Lib) : LoopState → List LinkEvent → List Iteration
  | _, [] => []
  | s, .cancelled :: _ => [⟨none, none, s.version⟩]
  | s, .readFailed _ :: _ => [⟨none, none, s.version⟩]
  | s, .frame data warningWritten :: events =>
    match parseMessageWithVersion w L data with
    | (.error _, _) => [⟨none, none, s.version⟩]
    | (.ok msg, peerVersion) =>
      if warningDue s.lastPeerVersion peerVersion && !warningWritten then
        [⟨some peerVersion, none, peerVersion⟩]
      else
        ⟨some peerVersion, some msg, peerVersion⟩ ::
          dispatchMessages w L ⟨peerVersion, some peerVersion⟩ events

/-- The link keeps generation `major`: after a frame of another generation
nothing is handled, that frame included, and the version of the link is of
that generation throughout. -/
structure KeepsGeneration (major : UInt8) (its : List Iteration) : Prop where
  stops : ∀ before it after, its = before ++ it :: after →
    ∀ v, it.peerVersion = some v → protocolMajor v ≠ major → it.handled = none ∧ after = []
  constant : ∀ it ∈ its, protocolMajor it.version = major

/-- Every frame that is read before the loop returns has generation `major`,
if it parses.  The loop returns at a frame that does not parse and at a due
warning that cannot be written. -/
def FramesKeep (w : IntSize) (L : Lib) (major : UInt8) : Option UInt8 → List LinkEvent → Prop
  | last, .frame data warningWritten :: events =>
    match parseMessageWithVersion w L data with
    | (.error _, _) => True
    | (.ok _, peerVersion) =>
      protocolMajor peerVersion = major ∧
        ((warningDue last peerVersion && !warningWritten) = false →
          FramesKeep w L major (some peerVersion) events)
  | _, _ => True

/-- The version of the link is the established one until a frame is parsed,
and that of the frame from then on. -/
theorem framesKeep_iff_versions (w : IntSize) (L : Lib) (major : UInt8) (s : LoopState)
    (events : List LinkEvent) (hs : protocolMajor s.version = major) :
    FramesKeep w L major s.lastPeerVersion events ↔ ∀ it ∈ dispatchMessages w L s events,
        protocolMajor it.version = major := by
  induction events generalizing s with
  | nil => simp [FramesKeep, dispatchMessages]
  | cons e events ih =>
    cases e with
    | cancelled | readFailed e => simp [FramesKeep, dispatchMessages, hs]
    | frame data warningWritten =>
      rw [FramesKeep, dispatchMessages]
      split
      · simp [hs]
      · rename_i msg peerVersion _
        by_cases hend : (warningDue s.lastPeerVersion peerVersion && !warningWritten) = true
        · simp [hend]
        · have hgo : (warningDue s.lastPeerVersion peerVersion && !warningWritten) = false := by
            simpa using hend
          rw [if_neg hend, forall_mem_cons]
          constructor
          · rintro ⟨hmajor, hrest⟩
            exact ⟨hmajor, (ih ⟨peerVersion, some peerVersion⟩ hmajor).mp (hrest hgo)⟩
          · rintro ⟨hmajor, hrest⟩
            exact ⟨hmajor, fun _ => (ih ⟨peerVersion, some peerVersion⟩ hmajor).mpr hrest⟩

theorem dispatchMessages_version {w : IntSize} {L : Lib} {s : LoopState} {events : List LinkEvent}
    {it : Iteration} (hit : it ∈ dispatchMessages w L s events)
    {v : UInt8} (hv : it.peerVersion = some v) : it.version = v := by
  induction events generalizing s with
  | nil => simp [dispatchMessages] at hit
  | cons e events ih =>
    cases e with
    | cancelled | readFailed e =>
      simp only [dispatchMessages, mem_singleton] at hit
      subst hit
      cases hv
    | frame data warningWritten =>
      rw [dispatchMessages] at hit
      split at hit
      · rw [mem_singleton] at hit
        subst hit
        cases hv
      · split at hit
        · rw [mem_singleton] at hit
          subst hit
          cases hv
          rfl
        · rcases mem_cons.mp hit with rfl | hrest
          · cases hv
            rfl
          · exact ih hrest

/-- A link keeps the generation established for it, in the URL or by the
authentication frame, exactly when its peer does: the loop itself never stops
at a change. -/
theorem dispatchMessages_keepsGeneration_iff
    (w : IntSize) (L : Lib) (established : UInt8) (events : List LinkEvent) :
    KeepsGeneration (protocolMajor established) (dispatchMessages w L ⟨established, none⟩ events) ↔
      FramesKeep w L (protocolMajor established) none events := by
  have hversions := framesKeep_iff_versions w L (protocolMajor established)
    ⟨established, none⟩ events rfl
  constructor
  · intro hkeeps
    exact hversions.mpr hkeeps.constant
  · intro hframes
    have hconstant := hversions.mp hframes
    refine ⟨?_, hconstant⟩
    intro before it after heq v hv hother
    have hit : it ∈ dispatchMessages w L ⟨established, none⟩ events := by
      rw [heq]
      simp
    have hsame := hconstant it hit
    rw [dispatchMessages_version hit hv] at hsame
    exact absurd hsame hother

/-! ## A change of generation that goes through -/

/-- One forward token, reachable under the hash `aaa…`. -/
def forwardRegistry : Registry where
  tokens := ∅
  forwardTokens := AList.insert (ascii "t") () ∅
  connectorTokens := ∅
  connectorTokenAC := ∅
  sha256TokenMap := AList.insert (List.replicate 64 97) (ascii "t") ∅

def noVersions : VersionLib where
  trimSpace s := s
  parseUint _ _ := .error (.msg "invalid syntax")

def openFrame : Bytes := protocolVersionV2 :: binaryTypeChannelOpen :: UUID.nil.bytes

/-- A client authenticates in the URL without a version, which establishes
generation 0, and then sends a frame of generation 2: it is handled. -/
theorem openFrame_changes_generation :
    (∃ auth, authenticateWebSocketClient .bits64 plainLib noVersions
        forwardRegistry (.url (List.replicate 64 97) [] []) = .ok auth ∧
      auth.version = protocolVersionV1) ∧
    (dispatchMessages .bits64 plainLib ⟨protocolVersionV1, none⟩
        [.frame openFrame true]).map Iteration.handled = [some (.channelOpen ⟨UUID.nil, false⟩)] ∧
    ¬ KeepsGeneration (protocolMajor protocolVersionV1)
      (dispatchMessages .bits64 plainLib ⟨protocolVersionV1, none⟩ [.frame openFrame true]) := by
  refine ⟨⟨_, rfl, rfl⟩, rfl, ?_⟩
  intro hkeeps
  have hmajor := hkeeps.constant _ (mem_singleton_self _)
  exact absurd hmajor (by decide)

end LinkSocks
