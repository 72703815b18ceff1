import LinkSocks.Direct.Auth
import LinkSocks.Go.Tables

/-!
# Which connection two peers select

Both peers listen and dial at once.  One of them prefers a connection that it has dialed,
the other one that it has accepted; either waits half a second for the preferred kind when
the other kind is there first.  A connection is authenticated at the acceptor before it is
at the dialer, and each takes note of it later, in its own goroutine.  Closing a connection
can make an authentication fail, which can happen at any time here; a connection that has
been noted can be selected all the same.
-/

namespace LinkSocks

open Go List Option

/-- The goroutine that accepts or dials a connection. -/
inductive EndPC where
  | pending
  | authenticated
  | tracked
  | failed
  deriving DecidableEq

structure RacedConn where
  dialer : DirectSide
  client : EndPC
  server : EndPC
  deriving DecidableEq

/-- The acceptor has written its acknowledgement. -/
def RacedConn.acked (x : RacedConn) : Bool := x.server = .authenticated || x.server = .tracked

/-- Where `Connect` is: in its first `select`, in the second one, or done. -/
inductive ConnectPC where
  | select
  | window
  | returned (k : ℕ)
  | failed
  deriving DecidableEq

structure ConnectSide where
  dialedConn : Option ℕ
  acceptedConn : Option ℕ
  pc : ConnectPC

/-- The connection that was noted first, of one kind. -/
def ConnectSide.noted (x : ConnectSide) (isAccepted : Bool) : Option ℕ :=
  if isAccepted then x.acceptedConn else x.dialedConn

/-- `trackAccepted` and `trackDialed`. -/
def ConnectSide.track (x : ConnectSide) (isAccepted : Bool) (k : ℕ) : ConnectSide :=
  if (x.noted isAccepted).isSome then x
  else if isAccepted then { x with acceptedConn := some k }
  else { x with dialedConn := some k }

structure ConnectRace where
  conns : List RacedConn
  peer : DirectSide → ConnectSide

/-- The near peer prefers a dialed connection, the far peer an accepted one. -/
def DirectSide.preferAccept : DirectSide → Bool
  | .near => false
  | .far => true

/-- Whose connection it is, seen from the side that has accepted or dialed it. -/
def DirectSide.dialerOf (side : DirectSide) (isAccepted : Bool) : DirectSide :=
  if isAccepted then side.other else side

inductive ConnectAction where
  | dial (side : DirectSide)
  | serverAuth (k : ℕ)
  | clientAuth (k : ℕ)
  | failServer (k : ℕ)
  | failClient (k : ℕ)
  | trackAccepted (k : ℕ)
  | trackDialed (k : ℕ)
  /-- `Connect` finds `acceptedDone` or `dialedDone` closed. -/
  | take (side : DirectSide) (isAccepted : Bool)
  | timeout (side : DirectSide)
  | cancel (side : DirectSide)

namespace ConnectRace

-- how many candidates each peer dials
variable (dialCount : DirectSide → ℕ)

def putConn (s : ConnectRace) (k : ℕ) (x : RacedConn) : ConnectRace :=
  { s with conns := s.conns.set k x }

def putSide (s : ConnectRace) (side : DirectSide) (x : ConnectSide) : ConnectRace :=
  { s with peer := Function.update s.peer side x }

def setPC (s : ConnectRace) (side : DirectSide) (pc : ConnectPC) : ConnectRace :=
  s.putSide side { s.peer side with pc := pc }

def step (s : ConnectRace) : ConnectAction → Option ConnectRace
  | .dial side =>
    if s.conns.countP (·.dialer = side) < dialCount side then
      some { s with conns := s.conns ++ [⟨side, .pending, .pending⟩] }
    else none
  | .serverAuth k => do
      let x ← s.conns[k]?
      if x.server = .pending then some (s.putConn k { x with server := .authenticated })
      else none
  | .clientAuth k => do
      let x ← s.conns[k]?
      if x.client = .pending ∧ x.acked = true then
        some (s.putConn k { x with client := .authenticated })
      else none
  | .failServer k => do
      let x ← s.conns[k]?
      if x.server = .pending then some (s.putConn k { x with server := .failed }) else none
  | .failClient k => do
      let x ← s.conns[k]?
      if x.client = .pending then some (s.putConn k { x with client := .failed }) else none
  | .trackAccepted k => do
      let x ← s.conns[k]?
      if x.server = .authenticated then
        let side := x.dialer.other
        some ((s.putConn k { x with server := .tracked }).putSide side
          ((s.peer side).track true k))
      else none
  | .trackDialed k => do
      let x ← s.conns[k]?
      if x.client = .authenticated then
        some ((s.putConn k { x with client := .tracked }).putSide x.dialer
          ((s.peer x.dialer).track false k))
      else none
  | .take side isAccepted => do
      let k ← (s.peer side).noted isAccepted
      if dialCount side = 0 then
        -- nothing to dial: whatever is accepted is taken
        if isAccepted ∧ (s.peer side).pc = .select then some (s.setPC side (.returned k))
        else none
      else if isAccepted = side.preferAccept then
        if (s.peer side).pc = .select ∨ (s.peer side).pc = .window then
          some (s.setPC side (.returned k))
        else none
      else if (s.peer side).pc = .select then some (s.setPC side .window)
      else none
  | .timeout side => do
      let k ← (s.peer side).noted (!side.preferAccept)
      if (s.peer side).pc = .window then some (s.setPC side (.returned k)) else none
  | .cancel side =>
    if (s.peer side).pc = .select ∨ (s.peer side).pc = .window then some (s.setPC side .failed)
    else none

def begun : ConnectRace := ⟨[], fun _ => ⟨none, none, .select⟩⟩

/-- Connections that are returned are the two ends of one connection. -/
def Agreed (s : ConnectRace) : Prop :=
  ∀ j k, (s.peer .near).pc = .returned j → (s.peer .far).pc = .returned k → j = k

/-- The peer has returned, and the connection is not of the preferred kind. -/
def settled (s : ConnectRace) (side : DirectSide) : Bool :=
  match (s.peer side).pc with
  | .returned k => (s.conns[k]?).any (·.dialer = .far)
  | _ => false

/-- A connection is acknowledged only if it is the first one from its dialer and, if that is the
near peer, only before a peer has settled for another kind; and a peer does so only while no
connection of the near peer is acknowledged. -/
def Timely (s : ConnectRace) : ConnectAction → Prop
  | .serverAuth k => ∀ x ∈ s.conns[k]?, (∀ y ∈ s.conns, y.acked = true → y.dialer ≠ x.dialer) ∧
        (x.dialer = .near → s.settled .near = false ∧ s.settled .far = false)
  | .timeout _ => ∀ y ∈ s.conns, y.acked = true → y.dialer ≠ .near
  | _ => True

instance (s : ConnectRace) : DecidablePred s.Timely := by
  intro action
  unfold ConnectRace.Timely
  split <;> infer_instance

/-! ## What holds along a run -/

variable {dialCount : DirectSide → ℕ} {s s' : ConnectRace} {k : ℕ} {x x' : RacedConn}
  {side : DirectSide}

/-- No connection of the near peer has been acknowledged. -/
def NoneNear (s : ConnectRace) : Prop := ∀ y ∈ s.conns, y.acked = true → y.dialer ≠ .near

structure Kept (s : ConnectRace) : Prop where
  unique : ∀ (j k : ℕ) (x y : RacedConn), s.conns[j]? = some x → s.conns[k]? = some y →
    x.acked = true → y.acked = true → x.dialer = y.dialer → j = k
  client : ∀ x ∈ s.conns, x.client = .authenticated → x.acked = true
  noted : ∀ side isAccepted k, (s.peer side).noted isAccepted = some k →
    ∃ x : RacedConn, s.conns[k]? = some x ∧ x.acked = true ∧ x.dialer = side.dialerOf isAccepted
  returned : ∀ side k, (s.peer side).pc = .returned k →
    ∃ x : RacedConn, s.conns[k]? = some x ∧ x.acked = true ∧ (x.dialer = .near ∨ s.NoneNear)

theorem kept_begun : begun.Kept where
  unique := fun _ _ _ _ h => nomatch h
  client := fun _ h => nomatch h
  noted := fun _ isAccepted _ h => by cases isAccepted <;> cases h
  returned := fun _ _ h => nomatch h

theorem Kept.agreed (h : s.Kept) : s.Agreed := by
  intro j k hj hk
  obtain ⟨x, hx, hxacked, hxnear⟩ := h.returned .near j hj
  obtain ⟨y, hy, hyacked, hynear⟩ := h.returned .far k hk
  refine h.unique j k x y hx hy hxacked hyacked ?_
  cases hxd : x.dialer <;> cases hyd : y.dialer
  · rfl
  · exact absurd hxd (hynear.resolve_left (by simp [hyd]) x (mem_of_getElem? hx) hxacked)
  · exact absurd hyd (hxnear.resolve_left (by simp [hxd]) y (mem_of_getElem? hy) hyacked)
  · rfl

/-! ### Connections -/

/-- An acknowledgement is news, and comes at a good time. -/
structure Acknowledges (s : ConnectRace) (x : RacedConn) : Prop where
  first : ∀ y ∈ s.conns, y.acked = true → y.dialer ≠ x.dialer
  timely : x.dialer = .near → ∀ side, s.settled side = false

theorem dialer_of_settled {y : RacedConn} (hpc : (s.peer side).pc = .returned k)
    (hy : s.conns[k]? = some y) (hsettled : s.settled side = false) : y.dialer = .near := by
  simp only [settled, hpc, hy, any_some, decide_eq_false_iff_not] at hsettled
  cases hdialer : y.dialer with
  | near => rfl
  | far => exact absurd hdialer hsettled

theorem NoneNear.putConn (h : s.NoneNear) (hx : s.conns[k]? = some x)
    (hdialer : x'.dialer = x.dialer) (hnew : x'.acked = true → x.acked = true ∨ x.dialer = .far) :
    (s.putConn k x').NoneNear := by
  intro y hy hacked
  rcases mem_or_eq_of_mem_set hy with hbefore | rfl
  · exact h y hbefore hacked
  · rw [hdialer]
    rcases hnew hacked with hold | hfar
    · exact h x (mem_of_getElem? hx) hold
    · simp [hfar]

/-- A connection changes, and is acknowledged only at a good time. -/
theorem Kept.putConn (h : s.Kept) (hx : s.conns[k]? = some x) (hdialer : x'.dialer = x.dialer)
    (hold : x.acked = true → x'.acked = true)
    (hnew : x'.acked = true → x.acked = true ∨ s.Acknowledges x)
    (hclient : x'.client = .authenticated → x'.acked = true) : (s.putConn k x').Kept := by
  -- an acknowledged connection before, and what it is now
  have hlater : ∀ {j : ℕ} {y : RacedConn}, s.conns[j]? = some y → y.acked = true →
      ∃ y', (s.putConn k x').conns[j]? = some y' ∧ y'.acked = true ∧ y'.dialer = y.dialer := by
    intro j y hy hacked
    by_cases hj : j = k
    · subst hj
      cases hx.symm.trans hy
      exact ⟨x', getElem?_set_of_some hx, hold hacked, hdialer⟩
    · exact ⟨y, (getElem?_set_ne (Ne.symm hj)).trans hy, hacked, rfl⟩
  -- the changed connection against an acknowledged one
  have hapart : ∀ {j : ℕ} {y : RacedConn}, s.conns[j]? = some y → y.acked = true →
      x'.acked = true → y.dialer = x'.dialer → j = k := by
    intro j y hy hyacked hacked hsame
    rcases hnew hacked with hbefore | hack
    · exact h.unique j k y x hy hx hyacked hbefore (hsame.trans hdialer)
    · exact absurd (hsame.trans hdialer) (hack.first y (mem_of_getElem? hy) hyacked)
  refine ⟨?_, ?_, ?_, ?_⟩
  · intro i j y z hy hz hyacked hzacked hsame
    rcases getElem?_set_cases hy with ⟨hi, rfl⟩ | ⟨hi, hybefore⟩ <;>
      rcases getElem?_set_cases hz with ⟨hj, rfl⟩ | ⟨hj, hzbefore⟩
    · rw [hi, hj]
    · rw [hi]
      exact (hapart hzbefore hzacked hyacked hsame.symm).symm
    · rw [hj]
      exact hapart hybefore hyacked hzacked hsame
    · exact h.unique i j y z hybefore hzbefore hyacked hzacked hsame
  · intro y hy
    rcases mem_or_eq_of_mem_set hy with hbefore | rfl
    exacts [h.client y hbefore, hclient]
  · intro side isAccepted j hj
    obtain ⟨y, hy, hyacked, hydialer⟩ := h.noted side isAccepted j hj
    obtain ⟨y', hy', hyacked', hydialer'⟩ := hlater hy hyacked
    exact ⟨y', hy', hyacked', hydialer'.trans hydialer⟩
  · intro side j hj
    obtain ⟨y, hy, hyacked, hynear⟩ := h.returned side j hj
    obtain ⟨y', hy', hyacked', hydialer'⟩ := hlater hy hyacked
    refine ⟨y', hy', hyacked', ?_⟩
    rw [hydialer']
    rcases hynear with hnear | hnone
    · exact .inl hnear
    · by_cases hlate : x'.acked = true → x.acked = true ∨ x.dialer = .far
      · exact .inr (hnone.putConn hx hdialer hlate)
      · -- the near peer's first acknowledgement, so nothing of the other kind is returned
        simp only [Classical.not_imp, not_or] at hlate
        obtain ⟨hacked', hbefore, hfar⟩ := hlate
        have hxnear : x.dialer = .near := by
          cases hd : x.dialer
          exacts [rfl, absurd hd hfar]
        have htimely := ((hnew hacked').resolve_left hbefore).timely hxnear side
        exact .inl (dialer_of_settled (s := s) hj hy htimely)

/-! ### Sides -/

theorem Kept.putSide (h : s.Kept) {y : ConnectSide}
    (hnoted : ∀ isAccepted k, y.noted isAccepted = some k →
      ∃ x : RacedConn, s.conns[k]? = some x ∧ x.acked = true ∧ x.dialer = side.dialerOf isAccepted)
    (hreturned : ∀ k, y.pc = .returned k → ∃ x : RacedConn, s.conns[k]? = some x ∧ x.acked = true ∧
        (x.dialer = .near ∨ s.NoneNear)) : (s.putSide side y).Kept := by
  have hself : (s.putSide side y).peer side = y := Function.update_self ..
  have hother : ∀ {side'}, side' ≠ side → (s.putSide side y).peer side' = s.peer side' :=
    fun hside => Function.update_of_ne hside ..
  refine ⟨h.unique, h.client, fun side' isAccepted k hk => ?_, fun side' k hk => ?_⟩
  · by_cases hside : side' = side
    · subst hside
      exact hnoted isAccepted k (hself ▸ hk)
    · exact h.noted side' isAccepted k (hother hside ▸ hk)
  · by_cases hside : side' = side
    · subst hside
      exact hreturned k (hself ▸ hk)
    · exact h.returned side' k (hother hside ▸ hk)

theorem Kept.setPC (h : s.Kept) {pc : ConnectPC} (hreturned : ∀ k, pc = .returned k →
      ∃ x : RacedConn, s.conns[k]? = some x ∧ x.acked = true ∧ (x.dialer = .near ∨ s.NoneNear)) :
    (s.setPC side pc).Kept := h.putSide (fun isAccepted => h.noted side isAccepted) hreturned

/-- Only a connection that is noted for the first time can change a side. -/
theorem noted_track {y : ConnectSide} {isAccepted isAccepted' : Bool} {j : ℕ}
    (h : (y.track isAccepted k).noted isAccepted' = some j) :
    y.noted isAccepted' = some j ∨ isAccepted' = isAccepted ∧ j = k := by
  rw [ConnectSide.track] at h
  split at h
  · exact .inl h
  · cases isAccepted <;> cases isAccepted'
    · exact .inr ⟨rfl, (some.inj h).symm⟩
    · exact .inl h
    · exact .inl h
    · exact .inr ⟨rfl, (some.inj h).symm⟩

@[simp] theorem pc_track (y : ConnectSide) (isAccepted : Bool) (k : ℕ) :
    (y.track isAccepted k).pc = y.pc := by
  rw [ConnectSide.track]
  split
  · rfl
  · split <;> rfl

theorem Kept.track (h : s.Kept) {isAccepted : Bool} (hx : s.conns[k]? = some x)
    (hacked : x.acked = true) (hdialer : x.dialer = side.dialerOf isAccepted) :
    (s.putSide side ((s.peer side).track isAccepted k)).Kept := by
  refine h.putSide (fun isAccepted' j hj => ?_) fun j hj => ?_
  · rcases noted_track hj with hbefore | ⟨rfl, rfl⟩
    · exact h.noted side isAccepted' j hbefore
    · exact ⟨x, hx, hacked, hdialer⟩
  · rw [pc_track] at hj
    exact h.returned side j hj

/-! ### One action -/

theorem Kept.dial (h : s.Kept) :
    Kept { s with conns := s.conns ++ [⟨side, .pending, .pending⟩] } := by
  have hcases : ∀ {j : ℕ} {y : RacedConn},
      (s.conns ++ [⟨side, .pending, .pending⟩])[j]? = some y → y.acked = true →
        s.conns[j]? = some y := by
    intro j y hy hacked
    rcases getElem?_concat_cases hy with hbefore | ⟨-, rfl⟩
    · exact hbefore
    · cases hacked
  refine ⟨?_, ?_, ?_, ?_⟩
  · intro i j y z hy hz hyacked hzacked
    exact h.unique i j y z (hcases hy hyacked) (hcases hz hzacked) hyacked hzacked
  · intro y hy
    rcases mem_append.mp hy with hbefore | hnew
    · exact h.client y hbefore
    · obtain rfl := mem_singleton.mp hnew
      exact nofun
  · intro side' isAccepted j hj
    obtain ⟨y, hy, hrest⟩ := h.noted side' isAccepted j hj
    exact ⟨y, getElem?_append_of_some hy _, hrest⟩
  · intro side' j hj
    obtain ⟨y, hy, hyacked, hynear⟩ := h.returned side' j hj
    refine ⟨y, getElem?_append_of_some hy _, hyacked, hynear.imp_right fun hnone z hz hzacked => ?_⟩
    rcases mem_append.mp hz with hbefore | hnew
    · exact hnone z hbefore hzacked
    · obtain rfl := mem_singleton.mp hnew
      cases hzacked

theorem Kept.take (h : s.Kept) (hdials : 0 < dialCount side) {isAccepted : Bool}
    (hstep : s.step dialCount (.take side isAccepted) = some s') : s'.Kept := by
  obtain ⟨k, hk, hstep⟩ := bind_eq_some_iff.mp hstep
  rw [if_neg (by omega)] at hstep
  split at hstep
  · rename_i hprefer
    split at hstep <;> cases hstep
    obtain ⟨x, hx, hacked, hdialer⟩ := h.noted side isAccepted k hk
    refine h.setPC ?_
    rintro _ ⟨⟩
    refine ⟨x, hx, hacked, .inl ?_⟩
    -- either side prefers what the near peer has dialed
    rw [hdialer, hprefer]
    cases side <;> rfl
  · split at hstep <;> cases hstep
    exact h.setPC nofun

/-- Every timely action. -/
theorem Kept.step (h : s.Kept) (hdials : ∀ side, 0 < dialCount side) {a : ConnectAction}
    (hguard : s.Timely a) (hstep : s.step dialCount a = some s') : s'.Kept := by
  cases a with
  | dial side =>
    obtain ⟨-, rfl⟩ := of_ite_some hstep
    exact h.dial
  | serverAuth k =>
    obtain ⟨x, hx, -, rfl⟩ := of_bind_ite_some hstep
    obtain ⟨hfirst, htimely⟩ := hguard x hx
    refine h.putConn hx rfl (fun _ => rfl) (fun _ => .inr ⟨hfirst, fun hnear side => ?_⟩)
      fun _ => rfl
    cases side
    exacts [(htimely hnear).1, (htimely hnear).2]
  | clientAuth k =>
    obtain ⟨x, hx, hpending, rfl⟩ := of_bind_ite_some hstep
    exact h.putConn hx rfl id .inl fun _ => hpending.2
  | failServer k =>
    obtain ⟨x, hx, hpending, rfl⟩ := of_bind_ite_some hstep
    have hacked : x.acked ≠ true := by simp [RacedConn.acked, hpending]
    exact h.putConn hx rfl (fun hold => absurd hold hacked) nofun
      fun hclient => absurd (h.client x (mem_of_getElem? hx) hclient) hacked
  | failClient k =>
    obtain ⟨x, hx, -, rfl⟩ := of_bind_ite_some hstep
    exact h.putConn hx rfl id .inl nofun
  | trackAccepted k =>
    obtain ⟨x, hx, hserver, rfl⟩ := of_bind_ite_some hstep
    have hacked : x.acked = true := by simp [RacedConn.acked, hserver]
    have hput : (s.putConn k { x with server := .tracked }).Kept :=
      h.putConn hx rfl (fun _ => rfl) (fun _ => .inl hacked) fun _ => rfl
    refine hput.track (getElem?_set_of_some hx) rfl ?_
    cases x.dialer <;> rfl
  | trackDialed k =>
    obtain ⟨x, hx, hclient, rfl⟩ := of_bind_ite_some hstep
    have hacked := h.client x (mem_of_getElem? hx) hclient
    have hput : (s.putConn k { x with client := .tracked }).Kept := h.putConn hx rfl id .inl nofun
    exact hput.track (getElem?_set_of_some hx) hacked rfl
  | take side isAccepted => exact h.take (hdials side) hstep
  | timeout side =>
    obtain ⟨k, hk, -, rfl⟩ := of_bind_ite_some hstep
    obtain ⟨x, hx, hacked, -⟩ := h.noted side _ k hk
    refine h.setPC ?_
    rintro _ ⟨⟩
    exact ⟨x, hx, hacked, .inr hguard⟩
  | cancel side =>
    obtain ⟨-, rfl⟩ := of_ite_some hstep
    exact h.setPC nofun

/-- If acknowledgements are in time, both peers return the same connection. -/
theorem connections_agreed (hdials : ∀ side, 0 < dialCount side)
    {actions : List ConnectAction} (hguarded : Guarded (step dialCount) Timely begun actions)
    (hrun : run (step dialCount) begun actions = some s) : s.Agreed :=
  (run_invariant (fun _ _ _ h => h.step hdials) kept_begun
    hguarded hrun : s.Kept).agreed

end ConnectRace

/-! ## Runs -/

def timelyRace : List ConnectAction :=
  [.dial .far, .serverAuth 0, .clientAuth 0, .trackDialed 0, .take .far false,
    .trackAccepted 0, .take .near true,
    .dial .near, .serverAuth 1, .trackAccepted 1, .take .far true,
    .clientAuth 1, .trackDialed 1, .take .near false]

theorem timelyRace_agreed : ∃ s ∈ run (ConnectRace.step fun _ => 1) .begun timelyRace,
      (s.peer .near).pc = .returned 1 ∧ (s.peer .far).pc = .returned 1 ∧ s.Agreed := by
  have hguarded : Guarded (ConnectRace.step fun _ => 1) ConnectRace.Timely .begun
      timelyRace := by
    decide +kernel
  obtain ⟨s, hrun, hnear, hfar⟩ : ∃ s ∈ run (ConnectRace.step fun _ => 1) .begun timelyRace,
      (s.peer .near).pc = .returned 1 ∧ (s.peer .far).pc = .returned 1 := by
    decide +kernel
  exact ⟨s, hrun, hnear, hfar, ConnectRace.connections_agreed (fun _ => Nat.one_pos) hguarded hrun⟩

/-- The far peer has acknowledged the near peer's connection, and its half second
ends before it takes note of it.  And with two candidates, each peer takes note of
another connection first. -/
theorem lateNote_disagreed : (∃ s ∈ run (ConnectRace.step fun _ => 1) .begun
        [.dial .far, .serverAuth 0, .clientAuth 0, .trackDialed 0, .take .far false,
          .dial .near, .serverAuth 1, .timeout .far,
          .clientAuth 1, .trackDialed 1, .take .near false],
      (s.peer .near).pc = .returned 1 ∧ (s.peer .far).pc = .returned 0) ∧
    (∃ s ∈ run (ConnectRace.step fun _ => 2) .begun
        [.dial .near, .dial .near, .serverAuth 0, .serverAuth 1, .trackAccepted 1, .take .far true,
          .clientAuth 0, .trackDialed 0, .take .near false],
      (s.peer .near).pc = .returned 0 ∧ (s.peer .far).pc = .returned 1) := by
  decide +kernel

end LinkSocks
