import LinkSocks.Go.Tables
import LinkSocks.Secure.Sender

/-!
# The nonce chain of a secure session

The nonce advances when a message is encrypted, and its frame is delivered
later.  Between the two the call holds `writeMu`, so that at most one frame is
under way; a call that gives its frame up closes the session before it lets go
of the lock.
-/

namespace LinkSocks

open Go List Option

section Definitions

variable (env : SendEnv) (s : SendSession)

/-- The frames of the messages, numbered from zero. -/
def SendEnv.sealAll (msgs : List Bytes) : List Bytes := msgs.mapIdx env.cipher

def SendSession.frames : List Bytes := s.delivered.map Prod.snd

/-- No call will encrypt any more. -/
def SendSession.Stopped : Prop := s.closed = true ∨ env.maxNonce < s.nonce

/-- All frames but the last are delivered. -/
def SendSession.Behind : Prop := ∃ sent m, s.encrypted = sent ++ [m] ∧ s.frames = env.sealAll sent

/-- No frame is under way, and these messages have been dealt with. -/
def SendSession.Settled (msgs : List Bytes) : Prop :=
  s.encrypted <+: msgs ∧ (s.encrypted = msgs ∨ s.Stopped env) ∧
    ((s.lost = false ∧ s.frames = env.sealAll s.encrypted) ∨
      (s.lost = true ∧ s.closed = true ∧ s.Behind env))

/-- The frame `ct` is under way: it is the last one, and the only one that is
not delivered. -/
def SendSession.InFlight (ct : Bytes) : Prop :=
  s.encrypted = s.acquired ∧ s.lost = false ∧
    ∃ sent m, s.encrypted = sent ++ [m] ∧ s.frames = env.sealAll sent ∧
      ct = env.cipher sent.length m

/-- The last frame was given up, and the session is about to be closed. -/
def SendSession.GivenUp : Prop := s.encrypted = s.acquired ∧ s.lost = true ∧ s.Behind env

/-- What holds while the lock is free, or held at the given point. -/
def SendSession.Phase : Option WritePC → Prop
  | some (.encrypt plain) => ∃ before, s.acquired = before ++ [plain] ∧ s.Settled env before
  | some (.readLink ct) => s.InFlight env ct
  | some (.write ct _) => s.InFlight env ct
  | some (.wait ct) => s.InFlight env ct
  | some .fail => s.GivenUp env
  | some .setClosed => s.GivenUp env
  | _ => s.Settled env s.acquired

/-- The point at which `writeMu` is held. -/
def SendSession.holder : Option WritePC := s.writeMu.bind fun i => s.calls[i]?

structure SendSession.Chain : Prop where
  established : s.established = true
  nonce : s.nonce = s.encrypted.length
  exclusive : ∀ i pc, s.calls[i]? = some pc → pc.holds = true → s.writeMu = some i
  owner : ∀ i, s.writeMu = some i → ∃ pc, s.calls[i]? = some pc ∧ pc.holds = true
  phase : s.Phase env s.holder

end Definitions

section Steps

variable {env : SendEnv} {s s' : SendSession} {i : ℕ} {pc pc' : WritePC}
  {ct : Bytes} {label : WriteLabel}

theorem SendSession.Phase.close {h : Option WritePC} (hs : s.Phase env h) :
    { s with closed := true }.Phase env h := by
  have hsettled : ∀ msgs, s.Settled env msgs → { s with closed := true }.Settled env msgs := by
    rintro msgs ⟨hfirst, -, hframes⟩
    refine ⟨hfirst, .inr (.inl rfl), ?_⟩
    rcases hframes with hfull | ⟨hlost, -, hbehind⟩
    · exact .inl hfull
    · exact .inr ⟨hlost, rfl, hbehind⟩
  match h, hs with
  | some (.encrypt plain), ⟨before, hacquired, hs⟩ =>
    exact ⟨before, hacquired, hsettled _ hs⟩
  | some (.readLink _), hs | some (.write _ _), hs | some (.wait _), hs |
      some .fail, hs | some .setClosed, hs => exact hs
  | some (.start _), hs | some (.plain _ _), hs | some (.lock _), hs |
      some .unlock, hs | some .returned, hs | none, hs => exact hsettled _ hs

section

variable (hs : s.Chain env) (hpc : s.calls[i]? = some pc)
include hs hpc

theorem SendSession.Chain.setCall_outside (hout : pc.holds = false)
    (hout' : pc'.holds = false) : (s.setCall i pc').Chain env := by
  have hfree : s.writeMu ≠ some i := by
    intro hmu
    obtain ⟨x, hx, hholds⟩ := hs.owner i hmu
    rw [hpc] at hx
    cases hx
    rw [hout] at hholds
    cases hholds
  have hother : ∀ j, s.writeMu = some j → (s.calls.set i pc')[j]? = s.calls[j]? := by
    intro j hj
    refine getElem?_set_ne ?_
    rintro rfl
    exact hfree hj
  refine ⟨hs.established, hs.nonce, ?_, ?_, ?_⟩
  · intro j x hx hholds
    rcases getElem?_set_cases hx with ⟨-, rfl⟩ | ⟨-, hold⟩
    · rw [hout'] at hholds
      cases hholds
    · exact hs.exclusive j x hold hholds
  · intro j hj
    obtain ⟨x, hx, hholds⟩ := hs.owner j hj
    exact ⟨x, (hother j hj).trans hx, hholds⟩
  · have hholder : (s.setCall i pc').holder = s.holder := by
      exact bind_congr fun j hj => hother j hj
    rw [hholder]
    exact hs.phase

theorem SendSession.Chain.move_inside (hin : pc.holds = true)
    (hin' : pc'.holds = true) (hcalls : s'.calls = s.calls.set i pc')
    (hmu : s'.writeMu = s.writeMu) (hestablished : s'.established = true)
    (hnonce : s'.nonce = s'.encrypted.length)
    (hphase : s'.Phase env (some pc')) : s'.Chain env := by
  have howner : s'.writeMu = some i := hmu.trans (hs.exclusive i pc hpc hin)
  have hi : s'.calls[i]? = some pc' := by
    rw [hcalls]
    exact getElem?_set_of_some hpc
  refine ⟨hestablished, hnonce, ?_, ?_, ?_⟩
  · intro j x hx hholds
    rw [hcalls] at hx
    rcases getElem?_set_cases hx with ⟨rfl, -⟩ | ⟨-, hold⟩
    · exact howner
    · exact hmu.trans (hs.exclusive j x hold hholds)
  · intro j hj
    rw [howner] at hj
    cases hj
    exact ⟨pc', hi, hin'⟩
  · rw [SendSession.holder, howner, bind_some, hi]
    exact hphase

theorem SendSession.Chain.phase_of_holds (hin : pc.holds = true) : s.Phase env (some pc) := by
  have hphase := hs.phase
  rwa [SendSession.holder, hs.exclusive i pc hpc hin, bind_some, hpc] at hphase

theorem SendSession.Chain.setCall_inside (hin : pc.holds = true)
    (hin' : pc'.holds = true) (hphase : s.Phase env (some pc')) : (s.setCall i pc').Chain env :=
  hs.move_inside hpc hin hin' rfl rfl hs.established hs.nonce hphase

end

/-- Once a frame is given up, nothing is encrypted or delivered. -/
def SendSession.Frozen (s s' : SendSession) : Prop :=
  s.lost = true → s'.lost = true ∧ s'.encrypted = s.encrypted ∧ s'.delivered = s.delivered

theorem SendSession.Frozen.of_eq (hlost : s'.lost = s.lost)
    (hencrypted : s'.encrypted = s.encrypted)
    (hdelivered : s'.delivered = s.delivered) : s.Frozen s' :=
  fun h => ⟨hlost.trans h, hencrypted, hdelivered⟩

theorem SendSession.begin_holds (s : SendSession) (msg : BaseMessage) :
    (s.begin env msg).holds = false := by
  unfold SendSession.begin
  split
  · rfl
  · split <;> rfl

theorem SendSession.Chain.lock (hs : s.Chain env) {plain : Bytes}
    (hpc : s.calls[i]? = some (.lock plain)) (hfree : s.writeMu = none) :
    { s.setCall i (.encrypt plain) with
      writeMu := some i
      acquired := s.acquired ++ [plain] }.Chain env := by
  have hi : (s.calls.set i (.encrypt plain))[i]? = some (.encrypt plain) := getElem?_set_of_some hpc
  have hsettled : s.Settled env s.acquired := by
    have hphase := hs.phase
    rwa [SendSession.holder, hfree] at hphase
  refine ⟨hs.established, hs.nonce, ?_, ?_, ?_⟩
  · intro j x hx hholds
    rcases getElem?_set_cases hx with ⟨rfl, -⟩ | ⟨-, hold⟩
    · rfl
    · have hother := hs.exclusive j x hold hholds
      rw [hfree] at hother
      cases hother
  · rintro j ⟨⟩
    exact ⟨_, hi, rfl⟩
  · rw [SendSession.holder, bind_some, SendSession.setCall, hi]
    exact ⟨s.acquired, rfl, hsettled⟩

theorem SendSession.Chain.unlock (hs : s.Chain env) (hpc : s.calls[i]? = some .unlock) :
    { s.setCall i .returned with writeMu := none }.Chain env := by
  refine ⟨hs.established, hs.nonce, ?_, nofun, hs.phase_of_holds hpc rfl⟩
  intro j x hx hholds
  rcases getElem?_set_cases hx with ⟨-, rfl⟩ | ⟨hj, hold⟩
  · cases hholds
  · -- the lock is held by `i`
    have hother := hs.exclusive j x hold hholds
    rw [hs.exclusive i _ hpc rfl] at hother
    exact absurd (some.inj hother).symm hj

/-- A message is encrypted with the next nonce, or the session has stopped. -/
theorem SendSession.Chain.encrypt (hs : s.Chain env) {plain : Bytes}
    (hpc : s.calls[i]? = some (.encrypt plain)) :
    (s.encrypt env i plain).Chain env ∧ s.Frozen (s.encrypt env i plain) := by
  obtain ⟨before, hacquired, hfirst, hcomplete, hframes⟩ := hs.phase_of_holds hpc rfl
  rw [SendSession.encrypt]
  split
  · rename_i hrefused
    have hstopped : s.Stopped env := by
      simpa [SendSession.Stopped, hs.established] using hrefused
    refine ⟨hs.setCall_inside hpc rfl rfl ?_, .of_eq rfl rfl rfl⟩
    have hlater : before <+: s.acquired := hacquired ▸ prefix_append before [plain]
    exact ⟨hfirst.trans hlater, .inr hstopped, hframes⟩
  · rename_i hopen
    simp only [hs.established, Bool.not_true, Bool.or_false, Bool.or_eq_true,
      decide_eq_true_eq] at hopen
    have hall : s.encrypted = before := hcomplete.resolve_right hopen
    -- a frame that was given up would have closed the session
    obtain ⟨hlost, hfull⟩ : s.lost = false ∧ s.frames = env.sealAll s.encrypted := by
      rcases hframes with hfull | ⟨-, hclosed, -⟩
      · exact hfull
      · exact absurd (.inl hclosed) hopen
    refine ⟨hs.move_inside hpc rfl rfl rfl rfl hs.established ?_ ?_, ?_⟩
    · simp [hs.nonce]
    · refine ⟨?_, hlost, s.encrypted, plain, rfl, hfull, ?_⟩
      · simp only [SendSession.setCall, hall, hacquired]
      · rw [hs.nonce]
    · intro h
      rw [hlost] at h
      cases h

theorem SendSession.InFlight.behind (h : s.InFlight env ct) : s.Behind env := by
  obtain ⟨-, -, sent, m, hencrypted, hframes, -⟩ := h
  exact ⟨sent, m, hencrypted, hframes⟩

theorem SendSession.InFlight.not_lost (h : s.InFlight env ct) : s.Frozen s' := by
  intro hlost
  rw [h.2.1] at hlost
  cases hlost

section

variable (hs : s.Chain env)
include hs

theorem SendSession.Chain.written {link : Link}
    (hpc : s.calls[i]? = some (.write ct link)) :
    { s.setCall i .unlock with
      delivered := s.delivered ++ [(link, ct)] }.Chain env := by
  obtain ⟨hall, hlost, sent, m, hencrypted, hframes, hct⟩ := hs.phase_of_holds hpc rfl
  refine hs.move_inside hpc rfl rfl rfl rfl hs.established hs.nonce ?_
  refine ⟨hall ▸ prefix_refl _, .inl hall, .inl ⟨hlost, ?_⟩⟩
  calc
    (s.delivered ++ [(link, ct)]).map Prod.snd = s.frames ++ [ct] := map_append
    _ = env.sealAll sent ++ [env.cipher sent.length m] := by rw [hframes, hct]
    _ = env.sealAll s.encrypted := by
      rw [hencrypted, SendEnv.sealAll, SendEnv.sealAll, mapIdx_concat]

theorem SendSession.Chain.giveUp (hpc : s.calls[i]? = some pc) (hin : pc.holds = true)
    (hflight : s.InFlight env ct) : (s.giveUp i).Chain env :=
  hs.move_inside hpc hin rfl rfl rfl hs.established hs.nonce ⟨hflight.1, rfl, hflight.behind⟩

theorem SendSession.Chain.stepCall
    (hpc : s.calls[i]? = some pc) (h : s.stepCall env i pc label = some s') :
    s'.Chain env ∧ s.Frozen s' := by
  revert hpc h
  fun_cases SendSession.stepCall env s i pc label <;> intro hpc h <;> cases h
  case case1 msg =>
    exact ⟨hs.setCall_outside hpc rfl (s.begin_holds msg), .of_eq rfl rfl rfl⟩
  case case2 =>
    have hout : (s.setCall i .returned).Chain env := hs.setCall_outside hpc rfl rfl
    exact ⟨{ hout with }, .of_eq rfl rfl rfl⟩
  case case3 => exact ⟨hs.setCall_outside hpc rfl rfl, .of_eq rfl rfl rfl⟩
  case case4 hfree => exact ⟨hs.lock hpc hfree, .of_eq rfl rfl rfl⟩
  case case6 => exact hs.encrypt hpc
  -- the link answers
  case case8 ct _ =>
    have hflight : s.InFlight env ct := hs.phase_of_holds hpc rfl
    exact ⟨hs.written hpc, hflight.not_lost⟩
  case case9 ct _ _ _ _ | case12 ct _ | case14 ct =>
    have hflight : s.InFlight env ct := hs.phase_of_holds hpc rfl
    exact ⟨hs.giveUp hpc rfl hflight, hflight.not_lost⟩
  case case7 ct | case10 ct _ _ _ _ | case11 ct =>
    have hflight : s.InFlight env ct := hs.phase_of_holds hpc rfl
    exact ⟨hs.setCall_inside hpc rfl rfl hflight, hflight.not_lost⟩
  case case15 =>
    exact ⟨hs.move_inside hpc rfl rfl rfl rfl hs.established hs.nonce
      (hs.phase_of_holds hpc rfl), .of_eq rfl rfl rfl⟩
  case case16 =>
    obtain ⟨hall, hlost, hbehind⟩ := hs.phase_of_holds hpc rfl
    refine ⟨hs.move_inside hpc rfl rfl rfl rfl hs.established hs.nonce ?_, .of_eq rfl rfl rfl⟩
    exact ⟨hall ▸ prefix_refl _, .inl hall, .inr ⟨hlost, rfl, hbehind⟩⟩
  case case17 => exact ⟨hs.unlock hpc, .of_eq rfl rfl rfl⟩

theorem SendSession.Chain.call (msg : BaseMessage) :
    { s with calls := s.calls ++ [WritePC.start msg] }.Chain env := by
  refine ⟨hs.established, hs.nonce, ?_, ?_, ?_⟩
  · intro j x hx hholds
    rcases getElem?_concat_cases hx with hold | ⟨-, rfl⟩
    · exact hs.exclusive j x hold hholds
    · cases hholds
  · intro j hj
    obtain ⟨x, hx, hholds⟩ := hs.owner j hj
    exact ⟨x, getElem?_append_of_some hx _, hholds⟩
  · have hholder : (s.writeMu.bind fun j =>
        (s.calls ++ [WritePC.start msg])[j]?) = s.holder := by
      refine bind_congr fun j hj => ?_
      obtain ⟨x, hx, -⟩ := hs.owner j hj
      rw [getElem?_append_of_some hx, hx]
    rw [SendSession.holder, hholder]
    exact hs.phase

/-- Every step, also after a frame is given up. -/
theorem SendSession.Chain.step {a : SendAction}
    (h : s.step env a = some s') : s'.Chain env ∧ s.Frozen s' := by
  cases a with
  | call msg =>
    cases h
    exact ⟨hs.call msg, .of_eq rfl rfl rfl⟩
  | step i label =>
    obtain ⟨pc, hpc, hmoved⟩ := bind_eq_some_iff.mp h
    exact hs.stepCall hpc hmoved
  | setLink link | finishDone =>
    cases h
    exact ⟨⟨hs.established, hs.nonce, hs.exclusive, hs.owner, hs.phase⟩, .of_eq rfl rfl rfl⟩
  | finishClosed =>
    obtain ⟨-, rfl⟩ := of_ite_some h
    exact ⟨⟨hs.established, hs.nonce, hs.exclusive, hs.owner, hs.phase.close⟩, .of_eq rfl rfl rfl⟩

end

end Steps

/-! ## Whole runs -/

section Runs

variable {env : SendEnv} {s s' : SendSession} {actions : List SendAction}

theorem SendSession.Initial.chain (hs : s.Initial) : s.Chain env where
  established := hs.established
  nonce := by rw [hs.nonce, hs.encrypted, length_nil]
  exclusive := by
    intro i pc hpc
    rw [hs.calls] at hpc
    cases hpc
  owner := by
    intro i hi
    rw [hs.writeMu] at hi
    cases hi
  phase := by
    rw [SendSession.holder, hs.writeMu]
    refine ⟨?_, .inl ?_, .inl ⟨hs.lost, ?_⟩⟩
    · rw [hs.encrypted]
      exact nil_prefix
    · rw [hs.encrypted, hs.acquired]
    · rw [SendSession.frames, hs.delivered, hs.encrypted]
      rfl

theorem SendSession.Chain.run (hs : s.Chain env)
    (hrun : Go.run (SendSession.step env) s actions = some s') : s'.Chain env :=
  run_preserves (fun _ _ _ hs hstep => (hs.step hstep).1) hs hrun

theorem SendSession.Chain.run_frozen (hs : s.Chain env)
    (hrun : Go.run (SendSession.step env) s actions = some s') : s.Frozen s' := by
  induction actions generalizing s with
  | nil =>
    cases hrun
    exact .of_eq rfl rfl rfl
  | cons a actions ih =>
    obtain ⟨t, hstep, hrest⟩ := run_cons hrun
    have hnext := hs.step hstep
    intro hlost
    obtain ⟨hlost', hencrypted, hdelivered⟩ := hnext.2 hlost
    obtain ⟨hend, hencrypted', hdelivered'⟩ := ih hnext.1 hrest hlost'
    exact ⟨hend, hencrypted'.trans hencrypted, hdelivered'.trans hdelivered⟩

/-- At every point, the encrypted messages are the first ones by the lock, and
the frames are those of all of them, or of all but the last one. -/
theorem SendSession.Phase.frames_eq {h : Option WritePC} (hs : s.Phase env h) :
    s.encrypted <+: s.acquired ∧ (s.frames = env.sealAll s.encrypted ∨ s.Behind env) := by
  have hsettled : ∀ msgs, s.Settled env msgs →
      s.frames = env.sealAll s.encrypted ∨ s.Behind env := by
    rintro msgs ⟨-, -, ⟨-, hfull⟩ | ⟨-, -, hbehind⟩⟩
    · exact .inl hfull
    · exact .inr hbehind
  match h, hs with
  | some (.encrypt plain), ⟨before, hacquired, hbefore⟩ =>
    refine ⟨?_, hsettled before hbefore⟩
    rw [hacquired]
    exact hbefore.1.trans (prefix_append before [plain])
  | some (.readLink _), hs | some (.write _ _), hs | some (.wait _), hs =>
    exact ⟨hs.1 ▸ prefix_refl _, .inr (SendSession.InFlight.behind hs)⟩
  | some .fail, hs | some .setClosed, hs =>
    exact ⟨hs.1 ▸ prefix_refl _, .inr hs.2.2⟩
  | some (.start _), hs | some (.plain _ _), hs | some (.lock _), hs |
      some .unlock, hs | some .returned, hs | none, hs => exact ⟨hs.1, hsettled s.acquired hs⟩

/-- The frames are those of the first messages. -/
theorem SendSession.Chain.frames_of_first (hs : s.Chain env) :
    ∃ msgs, msgs <+: s.acquired ∧ s.frames = env.sealAll msgs := by
  obtain ⟨hfirst, hfull | ⟨sent, m, hencrypted, hframes⟩⟩ := hs.phase.frames_eq
  · exact ⟨s.encrypted, hfirst, hfull⟩
  · refine ⟨sent, ?_, hframes⟩
    have hsent : sent <+: s.encrypted := hencrypted ▸ prefix_append sent [m]
    exact hsent.trans hfirst

/-- Between calls, a session that still works has delivered everything. -/
theorem SendSession.Chain.frames_of_free (hs : s.Chain env)
    (hfree : s.writeMu = none) (hopen : s.closed = false)
    (hnonce : s.nonce ≤ env.maxNonce) : s.frames = env.sealAll s.acquired := by
  have hphase := hs.phase
  rw [SendSession.holder, hfree] at hphase
  obtain ⟨-, hcomplete, hframes⟩ := hphase
  have hworks : ¬ s.Stopped env := by
    rintro (hclosed | hexhausted)
    · rw [hopen] at hclosed
      cases hclosed
    · exact absurd hnonce (Nat.not_le.mpr hexhausted)
  rcases hframes with ⟨-, hfull⟩ | ⟨-, hclosed, -⟩
  · rw [hfull, hcomplete.resolve_right hworks]
  · exact absurd (.inl hclosed) hworks

/-- Along every interleaving of calls of `WriteMessage` on an established
session, with links that fail and are replaced and a session that is closed at
any time: the frames that links have taken are the encryptions, numbered from
zero without gap, of the first messages in the order of the lock, and of all of
them when no call is under way and the session still works; after a frame was
given up, nothing is encrypted or delivered any more. -/
theorem run_nonceChain (hinit : s.Initial)
    (hrun : Go.run (SendSession.step env) s actions = some s') :
    (∃ msgs, msgs <+: s'.acquired ∧ s'.frames = env.sealAll msgs) ∧
    (s'.writeMu = none → s'.closed = false → s'.nonce ≤ env.maxNonce →
      s'.frames = env.sealAll s'.acquired) ∧
    (s'.lost = true → ∀ later s'', Go.run (SendSession.step env) s' later = some s'' →
      s''.encrypted = s'.encrypted ∧ s''.delivered = s'.delivered) := by
  have hchain : s'.Chain env := hinit.chain.run hrun
  refine ⟨hchain.frames_of_first, hchain.frames_of_free, ?_⟩
  intro hlost later s'' hlater
  exact (hchain.run_frozen hlater hlost).2

end Runs

/-! ## Three calls -/

def countingEnv : SendEnv where
  lib := plainLib
  cipher := fun n plain => UInt8.ofNat n :: plain
  maxNonce := 2 ^ 64 - 2
  transportGrace := 1

def freshSender : SendSession where
  link := 0
  established := true
  closed := false
  done := false
  nonce := 0
  writeMu := none
  calls := []
  acquired := []
  encrypted := []
  delivered := []
  inTheClear := []
  lost := false

def responseOf (b : UInt8) : BaseMessage := .connectResponse ⟨true, [], uuidOf b⟩

def packedResponse (b : UInt8) : Bytes :=
  protocolVersionV2 :: binaryTypeConnectResponse :: boolToByte true :: (uuidOf b).bytes

/-- The second call gets the lock first, and its frame goes out over a new
link.  The first call gives its frame up, and the third comes too late. -/
def threeCalls : List SendAction :=
  [.call (responseOf 0), .call (responseOf 1), .call (responseOf 2),
    .step 0 .next, .step 1 .next, .step 2 .next,
    .step 1 .next, .step 1 .next, .step 1 .next, .step 1 (.refused true false),
    .setLink 7, .step 1 .timer, .step 1 .next, .step 1 .written, .step 1 .next,
    .step 0 .next, .step 0 .next, .step 0 .next, .step 0 (.refused false false),
    .step 0 .next, .step 0 .next, .step 0 .next, .step 2 .next, .step 2 .next, .step 2 .next]

/-- Messages by the lock, frames that were taken, and whether one was lost. -/
def sent (actions : List SendAction) : Option (List Bytes × List (Link × Bytes) × Bool) :=
  (Go.run (SendSession.step countingEnv) freshSender actions).map fun s =>
    (s.acquired, s.delivered, s.lost)

theorem threeCalls_nonceChain : freshSender.Initial ∧ sent threeCalls =
      some ([packedResponse 1, packedResponse 0, packedResponse 2],
        [(7, 0 :: packedResponse 1)], true) ∧
    ∃ s', Go.run (SendSession.step countingEnv) freshSender threeCalls = some s' ∧
      (∃ msgs, msgs <+: s'.acquired ∧ s'.frames = countingEnv.sealAll msgs) ∧
      ∀ later s'', Go.run (SendSession.step countingEnv) s' later = some s'' →
        s''.delivered = s'.delivered := by
  have hinit : freshSender.Initial := ⟨rfl, rfl, rfl, rfl, rfl, rfl, rfl, rfl⟩
  refine ⟨hinit, ?sent, ?_⟩
  · decide +kernel
  obtain ⟨s', hrun, hs'⟩ := map_eq_some_iff.mp ?sent
  have hlost : s'.lost = true := congrArg (fun r => r.2.2) hs'
  obtain ⟨hframes, -, hfrozen⟩ := run_nonceChain hinit hrun
  exact ⟨s', hrun, hframes, fun later s'' hlater => (hfrozen hlost later s'' hlater).2⟩

end LinkSocks
