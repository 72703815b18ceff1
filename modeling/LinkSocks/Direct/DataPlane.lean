import LinkSocks.Go.Maps
import LinkSocks.Go.Tables
import LinkSocks.Wire.Message

/-!
# Streams of a direct connection

Each channel of a direct connection has its own stream, and a registry has the stream of
every channel.  `OpenChannel` looks whether the identifier is taken and registers its stream
later; a stream from the peer gets its identifier before the same question is asked.
Whoever ends a stream takes the identifier out of the registry, whatever stream is there.
-/

namespace LinkSocks

open Go List Option

/-- Where the goroutine of a stream is, in `OpenChannel` or in
`handleIncomingStream`. -/
inductive StreamPC where
  | read
  | setID (id : UUID)
  /-- The second section of `OpenChannel`. -/
  | register
  /-- The section of `handleIncomingStream`. -/
  | enter
  | write
  | onConnect
  | removeFailed
  | close
  | finished
  deriving DecidableEq

structure PlaneStream where
  id : UUID
  closed : Bool
  /-- What `Close` is still to take out of the registry. -/
  removing : Option UUID
  pc : StreamPC
  /-- History: it is registered, as far as its own goroutines know. -/
  held : Bool
  deriving DecidableEq

structure DataPlane where
  channels : GoMap UUID ℕ
  closed : Bool
  /-- Calls of `OpenChannel` that have found their identifier free. -/
  checked : List UUID
  streams : List PlaneStream
  /-- History: entries that were removed or replaced, and the stream whose
  goroutine did it. -/
  evictions : List (ℕ × ℕ)

inductive PlaneAction where
  /-- The first section of `OpenChannel`. -/
  | openChannel (id : UUID)
  | openStream (id : UUID)
  | acceptStream
  /-- The first message of a stream: the identifier of a `Connect` with a known
  protocol, or anything else. -/
  | read (k : ℕ) (first : Option UUID)
  | setID (k : ℕ)
  | register (k : ℕ)
  /-- The `Connect` is written, or the handler returns. -/
  | returned (k : ℕ) (ok : Bool)
  | removeFailed (k : ℕ)
  /-- The two sections of `Close`. -/
  | close (k : ℕ)
  | remove (k : ℕ)
  | closePlane

/-- The stream has not been handed to anyone. -/
def StreamPC.early : StreamPC → Bool
  | .read | .setID _ | .register | .enter => true
  | _ => false

namespace DataPlane

def put (s : DataPlane) (k : ℕ) (x : PlaneStream) : DataPlane :=
  { s with streams := s.streams.set k x }

/-- The registry loses its entry, or gets another one, through stream `k`. -/
def evicting (s : DataPlane) (k : ℕ) (id : UUID) : List (ℕ × ℕ) :=
  s.evictions ++ ((s.channels.lookup id).map fun j => (j, k)).toList

def removeChannel (s : DataPlane) (k : ℕ) (id : UUID) : DataPlane :=
  { s with channels := s.channels.erase id, evictions := s.evicting k id }

def insertChannel (s : DataPlane) (k : ℕ) (id : UUID) : DataPlane :=
  { s with channels := s.channels.insert id k, evictions := s.evicting k id }

def step (s : DataPlane) : PlaneAction → Option DataPlane
  | .openChannel id =>
    if id = UUID.nil ∨ s.closed = true ∨ id ∈ s.channels then some s
    else some { s with checked := id :: s.checked }
  | .openStream id =>
    if id ∈ s.checked then
      some { s with
        checked := s.checked.erase id
        streams := s.streams ++ [⟨id, false, none, .register, false⟩] }
    else none
  | .acceptStream => some { s with streams := s.streams ++ [⟨UUID.nil, false, none, .read, false⟩] }
  | .read k first => do
      let x ← s.streams[k]?
      if x.pc = .read then
        match first with
        | none => some (s.put k { x with pc := .close })
        | some id => some (s.put k { x with pc := if id = UUID.nil then .close else .setID id })
      else none
  | .setID k => do
      let x ← s.streams[k]?
      match x.pc with
      | .setID id => some (s.put k { x with id := id, pc := .enter })
      | _ => none
  | .register k => do
      let x ← s.streams[k]?
      match x.pc with
      | .register =>
        if s.closed then some (s.put k { x with pc := .close })
        else some ((s.insertChannel k x.id).put k { x with pc := .write, held := true })
      | .enter =>
        if s.closed = true ∨ x.id ∈ s.channels then some (s.put k { x with pc := .close })
        else some ((s.insertChannel k x.id).put k { x with pc := .onConnect, held := true })
      | _ => none
  | .returned k ok => do
      let x ← s.streams[k]?
      if x.pc = .write ∨ x.pc = .onConnect then
        some (s.put k { x with pc := if ok then .finished else .removeFailed })
      else none
  | .removeFailed k => do
      let x ← s.streams[k]?
      if x.pc = .removeFailed then
        some ((s.removeChannel k x.id).put k { x with pc := .close, held := false })
      else none
  | .close k => do
      let x ← s.streams[k]?
      if x.pc.early then none
      else
        let pc := if x.pc = .close then .finished else x.pc
        if x.closed then some (s.put k { x with pc := pc })
        else
          some (s.put k { x with
            closed := true
            removing := if x.id = UUID.nil then none else some x.id
            pc := pc })
  | .remove k => do
      let x ← s.streams[k]?
      match x.removing with
      | some id => some ((s.removeChannel k id).put k { x with removing := none, held := false })
      | none => none
  | .closePlane => some { s with closed := true, channels := if s.closed then s.channels else ∅ }

end DataPlane

/-! ## The registry and its streams -/

/-- Nothing of the stream is left to be done, not even by `Close`. -/
def PlaneStream.done (x : PlaneStream) : Bool :=
  x.closed && x.removing.isNone && (x.pc = .close || x.pc = .finished)

namespace DataPlane

def fresh : DataPlane := ⟨∅, false, [], [], []⟩

/-- Entries are removed and replaced by their own streams only, and no two open
streams are registered under one identifier. -/
structure Orderly (s : DataPlane) : Prop where
  evictions : ∀ e ∈ s.evictions, e.1 = e.2
  single : ∀ (j k : ℕ) (x y : PlaneStream), s.streams[j]? = some x → s.streams[k]? = some y →
    x.held = true → y.held = true → x.closed = false → y.closed = false → x.id = y.id → j = k

/-- All streams with the identifier are through. -/
def Free (s : DataPlane) (id : UUID) : Prop := ∀ x ∈ s.streams, x.id = id → x.done = true

instance (s : DataPlane) (id : UUID) : Decidable (s.Free id) :=
  inferInstanceAs (Decidable (∀ x ∈ s.streams, x.id = id → x.done = true))

/-- The condition on one action: an identifier is given to a stream only when all
earlier streams with it are through. -/
def Renews (s : DataPlane) : PlaneAction → Prop
  | .openStream id => s.Free id
  | .setID k => ∀ x ∈ s.streams[k]?, ∀ id, x.pc = .setID id → s.Free id
  | _ => True

instance (s : DataPlane) : DecidablePred s.Renews
  | .openStream id => inferInstanceAs (Decidable (s.Free id))
  | .setID k =>
    match h : s.streams[k]? with
    | none => isTrue (by simp [Renews, h])
    | some x =>
      match hpc : x.pc with
      | .setID id => decidable_of_iff (s.Free id) (by simp [Renews, h, hpc])
      | .read | .register | .enter | .write | .onConnect | .removeFailed | .close
      | .finished => isTrue (by simp [Renews, h, hpc])
  | .openChannel _ | .acceptStream | .read .. | .register _ | .returned .. | .removeFailed _
  | .close _ | .remove _ | .closePlane => isTrue trivial

end DataPlane

/-! ## What holds along a run -/

namespace PlaneStream

structure Valid (x : PlaneStream) : Prop where
  removing : ∀ id, x.removing = some id → id = x.id ∧ id ≠ UUID.nil
  early : x.pc.early = true → x.closed = false ∧ x.removing = none
  setID : ∀ id, x.pc = .setID id → id ≠ UUID.nil
  named : x.held = true ∨ x.pc = .register ∨ x.pc = .enter ∨ x.pc = .write ∨
    x.pc = .onConnect ∨ x.pc = .removeFailed → x.id ≠ UUID.nil

/-- What is true of a stream while the registry has it. -/
structure Registered (x : PlaneStream) : Prop where
  pc : x.pc = .write ∨ x.pc = .onConnect ∨ x.pc = .removeFailed ∨ x.pc = .finished
  removing : x.closed = true → x.removing = some x.id

variable {x : PlaneStream}

theorem not_registered (h : x.pc.early = true) : ¬ x.Registered := by
  intro hold
  rcases hold.pc with hpc | hpc | hpc | hpc
  all_goals
    rw [hpc] at h
    cases h

theorem done_eq_false_of_open (h : x.closed = false) : x.done = false := by
  simp [done, h]

theorem Registered.done (h : x.Registered) : x.done = false := by
  cases hclosed : x.closed with
  | false => exact done_eq_false_of_open hclosed
  | true => simp [PlaneStream.done, h.removing hclosed]

end PlaneStream

namespace DataPlane

variable {s s' : DataPlane} {k : ℕ} {x x' : PlaneStream} {a : PlaneAction}

structure Kept (s : DataPlane) : Prop where
  unique : ∀ (j k : ℕ) (x y : PlaneStream), s.streams[j]? = some x → s.streams[k]? = some y →
    x.id ≠ UUID.nil → x.id = y.id → x.done = false → y.done = false → j = k
  valid : ∀ (k : ℕ) (x : PlaneStream), s.streams[k]? = some x → x.Valid
  entry : ∀ id k, s.channels.lookup id = some k →
    id ≠ UUID.nil ∧ ∃ x : PlaneStream, s.streams[k]? = some x ∧ x.id = id ∧ x.Registered
  checked : UUID.nil ∉ s.checked
  evictions : ∀ e ∈ s.evictions, e.1 = e.2

theorem fresh_kept : fresh.Kept where
  unique := fun _ _ _ _ h => nomatch h
  valid := fun _ _ h => nomatch h
  entry := fun _ _ h => nomatch h
  checked := by simp [fresh]
  evictions := by simp [fresh]

section

variable (h : s.Kept)
include h

theorem Kept.orderly : s.Orderly where
  evictions := h.evictions
  single := by
    intro j k x y hx hy hheld _ hxopen hyopen hid
    exact h.unique j k x y hx hy ((h.valid j x hx).named (.inl hheld)) hid
      (PlaneStream.done_eq_false_of_open hxopen) (PlaneStream.done_eq_false_of_open hyopen)

/-- Whoever is not through yet has the entry of its identifier, if there is one. -/
theorem Kept.entry_self (hx : s.streams[k]? = some x) (hdone : x.done = false)
    {j : ℕ} (hentry : s.channels.lookup x.id = some j) : j = k := by
  obtain ⟨hid, y, hy, hsame, hregistered⟩ := h.entry x.id j hentry
  exact h.unique j k y x hy hx (hsame ▸ hid) hsame hregistered.done hdone

theorem Kept.evicting (hx : s.streams[k]? = some x) (hdone : x.done = false) :
    ∀ e ∈ s.evicting k x.id, e.1 = e.2 := by
  intro e he
  rw [DataPlane.evicting, mem_append] at he
  rcases he with hold | hnew
  · exact h.evictions e hold
  · obtain ⟨j, hj, rfl⟩ := by simpa using hnew
    exact h.entry_self hx hdone hj

/-- A stream is replaced by one that is no less through, or has got an identifier
that is free. -/
theorem Kept.put (hx : s.streams[k]? = some x) (x' : PlaneStream) (hvalid : x'.Valid)
    (hunique : x'.id = x.id ∧ (x.done = true → x'.done = true) ∨ s.Free x'.id)
    {channels : GoMap UUID ℕ} {evictions : List (ℕ × ℕ)}
    (hentry : ∀ id j, channels.lookup id = some j → j ≠ k ∧ s.channels.lookup id = some j ∨
        j = k ∧ id ≠ UUID.nil ∧ x'.id = id ∧ x'.Registered)
    (hevictions : ∀ e ∈ evictions, e.1 = e.2) : Kept { s with
      streams := s.streams.set k x', channels := channels, evictions := evictions } := by
  -- the new stream against one of the others
  have hapart : ∀ {j : ℕ} {y : PlaneStream}, j ≠ k → s.streams[j]? = some y → y.id ≠ UUID.nil →
      y.id = x'.id → y.done = false → x'.done = false → False := by
    intro j y hj hy hnil hid hydone hxdone
    rcases hunique with ⟨hsame, hdone⟩ | hfree
    · refine hj (h.unique j k y x hy hx hnil (hid.trans hsame) hydone ?_)
      exact Bool.eq_false_iff.mpr fun hold => by simp [hdone hold] at hxdone
    · rw [hfree y (mem_of_getElem? hy) hid] at hydone
      cases hydone
  refine ⟨?_, ?_, ?_, h.checked, hevictions⟩
  · intro i j y z hy hz hnil hid hydone hzdone
    rcases getElem?_set_cases hy with ⟨hi, rfl⟩ | ⟨hi, hold⟩ <;>
      rcases getElem?_set_cases hz with ⟨hj, rfl⟩ | ⟨hj, hold'⟩
    · rw [hi, hj]
    · exact (hapart hj hold' (hid ▸ hnil) hid.symm hzdone hydone).elim
    · exact (hapart hi hold hnil hid hydone hzdone).elim
    · exact h.unique i j y z hold hold' hnil hid hydone hzdone
  · intro j y hy
    rcases getElem?_set_cases hy with ⟨-, rfl⟩ | ⟨-, hold⟩
    exacts [hvalid, h.valid j y hold]
  · intro id j hj
    rcases hentry id j hj with ⟨hne, hold⟩ | ⟨rfl, hnil, hid, hregistered⟩
    · obtain ⟨hnil, y, hy, hid, hregistered⟩ := h.entry id j hold
      exact ⟨hnil, y, (getElem?_set_ne (Ne.symm hne)).trans hy, hid, hregistered⟩
    · exact ⟨hnil, x', getElem?_set_of_some hx, hid, hregistered⟩

/-- A new stream, without an identifier or with a free one. -/
theorem Kept.append (hvalid : x.Valid)
    (hfree : x.id = UUID.nil ∨ s.Free x.id) {checked : List UUID} (hchecked : UUID.nil ∉ checked) :
    Kept { s with streams := s.streams ++ [x], checked := checked } := by
  have hapart : ∀ {j : ℕ} {y : PlaneStream}, s.streams[j]? = some y → y.id ≠ UUID.nil →
      y.id = x.id → y.done = false → False := by
    intro j y hy hnil hid hdone
    have hdone' := (hfree.resolve_left (hid ▸ hnil)) y (mem_of_getElem? hy) hid
    rw [hdone'] at hdone
    cases hdone
  refine ⟨?_, ?_, ?_, hchecked, h.evictions⟩
  · intro i j y z hy hz hnil hid hydone hzdone
    rcases getElem?_concat_cases hy with hold | ⟨rfl, rfl⟩ <;>
      rcases getElem?_concat_cases hz with hold' | ⟨rfl, rfl⟩
    · exact h.unique i j y z hold hold' hnil hid hydone hzdone
    · exact (hapart hold hnil hid hydone).elim
    · exact (hapart hold' (hid ▸ hnil) hid.symm hzdone).elim
    · rfl
  · intro j y hy
    rcases getElem?_concat_cases hy with hold | ⟨-, rfl⟩
    exacts [h.valid j y hold, hvalid]
  · intro id j hj
    obtain ⟨hnil, y, hy, hid, hregistered⟩ := h.entry id j hj
    exact ⟨hnil, y, getElem?_append_of_some hy _, hid, hregistered⟩

section

variable (hx : s.streams[k]? = some x)
include hx

theorem Kept.entry_same (hid : x'.id = x.id)
    (hregistered : x.Registered → x'.Registered) (id : UUID) (j : ℕ)
    (hj : s.channels.lookup id = some j) : j ≠ k ∧ s.channels.lookup id = some j ∨
      j = k ∧ id ≠ UUID.nil ∧ x'.id = id ∧ x'.Registered := by
  by_cases hk : j = k
  · obtain ⟨hnil, y, hy, hyid, hold⟩ := h.entry id j hj
    subst hk
    cases hx.symm.trans hy
    exact .inr ⟨rfl, hnil, hid.trans hyid, hregistered hold⟩
  · exact .inl ⟨hk, hj⟩

theorem Kept.entry_erase (id : UUID) (j : ℕ)
    (hj : (s.channels.erase x.id).lookup id = some j) : j ≠ k ∧ s.channels.lookup id = some j := by
  obtain ⟨hne, hold⟩ := lookup_erase_cases hj
  refine ⟨?_, hold⟩
  rintro rfl
  obtain ⟨-, y, hy, hyid, -⟩ := h.entry id j hold
  cases hx.symm.trans hy
  exact hne hyid.symm

theorem Kept.entry_insert (hfirst : ¬ x.Registered) (hnil : x.id ≠ UUID.nil) (hid : x'.id = x.id)
    (hregistered : x'.Registered) (id : UUID) (j : ℕ)
    (hj : (s.channels.insert x.id k).lookup id = some j) : j ≠ k ∧ s.channels.lookup id = some j ∨
      j = k ∧ id ≠ UUID.nil ∧ x'.id = id ∧ x'.Registered := by
  rcases lookup_insert_cases hj with ⟨rfl, rfl⟩ | ⟨-, hold⟩
  · exact .inr ⟨rfl, hnil, hid, hregistered⟩
  · refine .inl ⟨?_, hold⟩
    rintro rfl
    obtain ⟨-, y, hy, -, hyregistered⟩ := h.entry id j hold
    cases hx.symm.trans hy
    exact hfirst hyregistered

/-! ### One action -/

theorem Kept.advance (pc : StreamPC)
    (hearly : pc.early = true → x.closed = false ∧ x.removing = none)
    (hsetID : ∀ id, pc = .setID id → id ≠ UUID.nil)
    (hnamed : pc = .register ∨ pc = .enter ∨ pc = .write ∨ pc = .onConnect ∨
      pc = .removeFailed → x.id ≠ UUID.nil) (hdone : x.done = true → pc = .close ∨ pc = .finished)
    (hregistered : x.Registered →
      pc = .write ∨ pc = .onConnect ∨ pc = .removeFailed ∨ pc = .finished) :
    (s.put k { x with pc := pc }).Kept := by
  have hvalid := h.valid k x hx
  refine h.put hx { x with pc := pc } ⟨hvalid.removing, hearly, hsetID, ?_⟩
    (.inl ⟨rfl, fun hold => ?_⟩)
    (h.entry_same hx rfl fun hold => ⟨hregistered hold, hold.removing⟩) h.evictions
  · rintro (hheld | hpc)
    · exact hvalid.named (.inl hheld)
    · exact hnamed hpc
  · have hpc := hdone hold
    simp only [PlaneStream.done, Bool.and_eq_true] at hold ⊢
    exact ⟨hold.1, by simpa using hpc⟩

/-- A goroutine gives up before its stream has been handed to anyone. -/
theorem Kept.giveUp (hearly : x.pc.early = true) : (s.put k { x with pc := .close }).Kept :=
  h.advance hx .close nofun nofun (by simp) (fun _ => .inl rfl)
    fun hold => absurd hold (PlaneStream.not_registered hearly)

end

theorem Kept.read {first : Option UUID} (hstep : s.step (.read k first) = some s') : s'.Kept := by
  obtain ⟨x, hx, hstep⟩ := bind_eq_some_iff.mp hstep
  split_ifs at hstep with hpc
  have hearly : x.pc.early = true := by
    rw [hpc]
    rfl
  have hopen := (h.valid k x hx).early hearly
  cases first with
  | none =>
    cases hstep
    exact h.giveUp hx hearly
  | some id =>
    cases hstep
    split
    · exact h.giveUp hx hearly
    · rename_i hnil
      refine h.advance hx (.setID id) (fun _ => hopen) ?_ (by simp) (fun hdone => ?_)
        fun hold => absurd hold (PlaneStream.not_registered hearly)
      · rintro _ ⟨⟩
        exact hnil
      · rw [PlaneStream.done_eq_false_of_open hopen.1] at hdone
        cases hdone

theorem Kept.setID (hguard : s.Renews (.setID k))
    (hstep : s.step (.setID k) = some s') : s'.Kept := by
  obtain ⟨x, hx, hstep⟩ := bind_eq_some_iff.mp hstep
  split at hstep <;> cases hstep
  rename_i id hpc
  have hearly : x.pc.early = true := by
    rw [hpc]
    rfl
  have hvalid := h.valid k x hx
  have hopen := hvalid.early hearly
  refine h.put hx { x with id := id, pc := .enter }
    ⟨?_, fun _ => hopen, nofun, fun _ => hvalid.setID id hpc⟩
    (.inr (hguard x hx id hpc)) ?_ h.evictions
  · intro id' hremoving
    rw [hopen.2] at hremoving
    cases hremoving
  · intro id' j hj
    refine .inl ⟨?_, hj⟩
    rintro rfl
    obtain ⟨-, y, hy, -, hregistered⟩ := h.entry id' j hj
    cases hx.symm.trans hy
    exact PlaneStream.not_registered hearly hregistered

theorem Kept.insertChannel (hx : s.streams[k]? = some x)
    (hearly : x.pc.early = true) (hnil : x.id ≠ UUID.nil) {pc : StreamPC}
    (hpc : pc = .write ∨ pc = .onConnect) :
    ((s.insertChannel k x.id).put k { x with pc := pc, held := true }).Kept := by
  have hvalid := h.valid k x hx
  have hopen := hvalid.early hearly
  have hdone := PlaneStream.done_eq_false_of_open hopen.1
  have hregistered : PlaneStream.Registered { x with pc := pc, held := true } :=
    ⟨by tauto, fun hclosed => by simp [hopen.1] at hclosed⟩
  refine h.put hx { x with pc := pc, held := true } ⟨hvalid.removing, ?_, ?_, fun _ => hnil⟩
    (.inl ⟨rfl, fun hold => ?_⟩)
    (h.entry_insert hx (PlaneStream.not_registered hearly) hnil rfl hregistered)
    (h.evicting hx hdone)
  · exact fun _ => hopen
  · rcases hpc with rfl | rfl <;> exact nofun
  · rw [hdone] at hold
    cases hold

theorem Kept.register (hstep : s.step (.register k) = some s') : s'.Kept := by
  obtain ⟨x, hx, hstep⟩ := bind_eq_some_iff.mp hstep
  split at hstep <;> try split_ifs at hstep
  all_goals cases hstep
  all_goals
    have hpc := ‹x.pc = _›
    have hearly : x.pc.early = true := by
      rw [hpc]
      rfl
  · exact h.giveUp hx hearly
  · exact h.insertChannel hx hearly ((h.valid k x hx).named (.inr (.inl hpc))) (.inl rfl)
  · exact h.giveUp hx hearly
  · exact h.insertChannel hx hearly ((h.valid k x hx).named (.inr (.inr (.inl hpc)))) (.inr rfl)

theorem Kept.returned {ok : Bool} (hstep : s.step (.returned k ok) = some s') : s'.Kept := by
  obtain ⟨x, hx, hstep⟩ := bind_eq_some_iff.mp hstep
  split at hstep
  swap
  · cases hstep
  rename_i hpc
  cases hstep
  have hnil := (h.valid k x hx).named (by tauto)
  have hdone : x.done ≠ true := by
    rcases hpc with hpc | hpc <;> simp [PlaneStream.done, hpc]
  cases ok with
  | true =>
    exact h.advance hx .finished nofun nofun (by simp) (fun _ => .inr rfl)
      fun _ => .inr (.inr (.inr rfl))
  | false =>
    exact h.advance hx .removeFailed nofun nofun (fun _ => hnil)
      (fun hold => absurd hold hdone) fun _ => .inr (.inr (.inl rfl))

theorem Kept.removeChannel (hx : s.streams[k]? = some x)
    (hdone : x.done = false) (x' : PlaneStream) (hid : x'.id = x.id) (hvalid : x'.Valid) :
    ((s.removeChannel k x.id).put k x').Kept := by
  refine h.put hx x' hvalid (.inl ⟨hid, fun hold => ?_⟩) (fun id j hj => ?_) (h.evicting hx hdone)
  · rw [hdone] at hold
    cases hold
  · exact .inl (h.entry_erase hx id j hj)

theorem Kept.removeFailed (hstep : s.step (.removeFailed k) = some s') : s'.Kept := by
  obtain ⟨x, hx, hpc, rfl⟩ := of_bind_ite_some hstep
  refine h.removeChannel hx (by simp [PlaneStream.done, hpc]) _ rfl
    ⟨(h.valid k x hx).removing, nofun, nofun, by simp⟩

theorem Kept.remove (hstep : s.step (.remove k) = some s') : s'.Kept := by
  obtain ⟨x, hx, hstep⟩ := bind_eq_some_iff.mp hstep
  have hvalid := h.valid k x hx
  split at hstep <;> cases hstep
  rename_i id hremoving
  obtain ⟨rfl, hnil⟩ := hvalid.removing id hremoving
  refine h.removeChannel hx (by simp [PlaneStream.done, hremoving]) _ rfl
    ⟨nofun, ?_, hvalid.setID, fun _ => hnil⟩
  exact fun hearly => ⟨(hvalid.early hearly).1, rfl⟩

theorem Kept.close (hstep : s.step (.close k) = some s') : s'.Kept := by
  obtain ⟨x, hx, hstep⟩ := bind_eq_some_iff.mp hstep
  have hvalid := h.valid k x hx
  split at hstep
  · cases hstep
  rename_i hearly
  -- the goroutine that was to close the stream has come to its end
  generalize hpc : (if x.pc = .close then StreamPC.finished else x.pc) = pc at hstep
  have hcases : pc = x.pc ∨ x.pc = .close ∧ pc = .finished := by
    rw [← hpc]
    split
    · exact .inr ⟨‹_›, rfl⟩
    · exact .inl rfl
  have hlate : pc.early ≠ true := by
    rcases hcases with rfl | ⟨-, rfl⟩
    exacts [hearly, nofun]
  have hsetID : ∀ id, pc = .setID id → id ≠ UUID.nil := by
    rcases hcases with rfl | ⟨-, rfl⟩
    exacts [hvalid.setID, nofun]
  have hnamed : pc = .register ∨ pc = .enter ∨ pc = .write ∨ pc = .onConnect ∨
      pc = .removeFailed → x.id ≠ UUID.nil := by
    rcases hcases with rfl | ⟨-, rfl⟩
    exacts [fun hpc => hvalid.named (.inr hpc), by simp]
  have hregistered : x.Registered →
      pc = .write ∨ pc = .onConnect ∨ pc = .removeFailed ∨ pc = .finished := by
    intro hold
    rcases hcases with rfl | ⟨-, rfl⟩
    exacts [hold.pc, .inr (.inr (.inr rfl))]
  split at hstep
  · cases hstep
    refine h.advance hx pc (fun hpc => absurd hpc hlate) hsetID hnamed (fun hdone => ?_) hregistered
    rcases hcases with rfl | ⟨-, rfl⟩
    · simp only [PlaneStream.done, Bool.and_eq_true, Bool.or_eq_true, decide_eq_true_eq] at hdone
      exact hdone.2
    · exact .inr rfl
  · rename_i hopen
    cases hstep
    refine h.put hx
      { x with closed := true, removing := if x.id = UUID.nil then none else some x.id, pc := pc }
      ⟨?_, fun hpc => absurd hpc hlate, hsetID, ?_⟩
      (.inl ⟨rfl, fun hdone => ?_⟩) (fun id j hj => ?_) h.evictions
    · intro id hid
      split at hid <;> cases hid
      rename_i hnil
      exact ⟨rfl, hnil⟩
    · rintro (hheld | hpc)
      exacts [hvalid.named (.inl hheld), hnamed hpc]
    · simp [PlaneStream.done, hopen] at hdone
    · by_cases hj' : j = k
      · obtain ⟨hnil, y, hy, hyid, hold⟩ := h.entry id j hj
        subst hj'
        cases hx.symm.trans hy
        refine .inr ⟨rfl, hnil, hyid, hregistered hold, fun _ => ?_⟩
        exact if_neg (hyid ▸ hnil)
      · exact .inl ⟨hj', hj⟩

/-- Every action that gives out free identifiers only. -/
theorem Kept.step (hguard : s.Renews a) (hstep : s.step a = some s') : s'.Kept := by
  cases a with
  | openChannel id =>
    rw [DataPlane.step] at hstep
    split_ifs at hstep with hrefused
    · cases hstep
      exact h
    · cases hstep
      refine ⟨h.unique, h.valid, h.entry, ?_, h.evictions⟩
      rw [mem_cons, not_or]
      exact ⟨fun hnil => hrefused (.inl hnil.symm), h.checked⟩
  | openStream id =>
    obtain ⟨hchecked, rfl⟩ := of_ite_some hstep
    have hnil : id ≠ UUID.nil := fun heq => h.checked (heq ▸ hchecked)
    exact h.append ⟨by simp, fun _ => ⟨rfl, rfl⟩, by simp, fun _ => hnil⟩
      (.inr (show s.Free id from hguard)) fun hmem => h.checked (mem_of_mem_erase hmem)
  | acceptStream =>
    cases hstep
    exact h.append ⟨by simp, fun _ => ⟨rfl, rfl⟩, by simp, by simp⟩ (.inl rfl) h.checked
  | read k first => exact h.read hstep
  | setID k => exact h.setID hguard hstep
  | register k => exact h.register hstep
  | returned k ok => exact h.returned hstep
  | removeFailed k => exact h.removeFailed hstep
  | close k => exact h.close hstep
  | remove k => exact h.remove hstep
  | closePlane =>
    cases hstep
    refine ⟨h.unique, h.valid, fun id k hk => ?_, h.checked, h.evictions⟩
    split at hk
    · exact h.entry id k hk
    · cases hk

end

/-- What an action does to the streams: new ones are added, or one goes on, and
its flag changes only in its `Close`. -/
theorem streams_of_step (hstep : s.step a = some s') : (∃ new, s'.streams = s.streams ++ new) ∨
      ∃ k y y', s.streams[k]? = some y ∧ s'.streams = s.streams.set k y' ∧
        (y'.closed = y.closed ∨ a = .close k) := by
  cases a with
  | openChannel id =>
    rw [DataPlane.step] at hstep
    split_ifs at hstep <;> cases hstep
    all_goals exact .inl ⟨[], (append_nil _).symm⟩
  | openStream id =>
    obtain ⟨-, rfl⟩ := of_ite_some hstep
    exact .inl ⟨_, rfl⟩
  | acceptStream =>
    cases hstep
    exact .inl ⟨_, rfl⟩
  | read k first =>
    obtain ⟨y, hy, hstep⟩ := bind_eq_some_iff.mp hstep
    split at hstep
    · cases first <;> cases hstep <;> exact .inr ⟨k, y, _, hy, rfl, .inl rfl⟩
    · cases hstep
  | setID k | returned k ok | removeFailed k | remove k =>
    obtain ⟨y, hy, hstep⟩ := bind_eq_some_iff.mp hstep
    split at hstep <;> cases hstep
    exact .inr ⟨k, y, _, hy, rfl, .inl rfl⟩
  | register k =>
    obtain ⟨y, hy, hstep⟩ := bind_eq_some_iff.mp hstep
    split at hstep <;> try split_ifs at hstep
    all_goals cases hstep
    all_goals exact .inr ⟨k, y, _, hy, rfl, .inl rfl⟩
  | close k =>
    obtain ⟨y, hy, hstep⟩ := bind_eq_some_iff.mp hstep
    generalize (if y.pc = .close then StreamPC.finished else y.pc) = pc at hstep
    split at hstep
    · cases hstep
    · split at hstep <;> cases hstep <;> exact .inr ⟨k, y, _, hy, rfl, .inr rfl⟩
  | closePlane =>
    cases hstep
    exact .inl ⟨[], (append_nil _).symm⟩

/-- `Close` closes the stream that it is called on, and nothing else closes one. -/
theorem eq_close_of_step {j : ℕ} (hstep : s.step a = some s')
    (hx : s.streams[j]? = some x) (hopen : x.closed = false)
    (hx' : s'.streams[j]? = some x') (hclosed : x'.closed = true) : a = .close j := by
  have hchanged : x' ≠ x := by
    rintro rfl
    exact absurd hclosed (Bool.eq_false_iff.mp hopen)
  rcases streams_of_step hstep with ⟨new, heq⟩ | ⟨k, y, y', hy, heq, hsame⟩
  · rw [heq, getElem?_append_of_some hx new] at hx'
    exact absurd (some.inj hx').symm hchanged
  · rw [heq] at hx'
    rcases getElem?_set_cases hx' with ⟨rfl, rfl⟩ | ⟨-, hold⟩
    · cases hx.symm.trans hy
      refine hsame.resolve_left fun hflag => ?_
      rw [hflag, hopen] at hclosed
      cases hclosed
    · exact absurd (some.inj (hold.symm.trans hx)) hchanged

/-- A registry that was used under the condition, and what its next action does to
open streams, for which no condition is needed. -/
theorem registry_owned {as : List PlaneAction} (hguarded : Guarded step Renews fresh as)
    (hrun : run step fresh as = some s) :
    s.Orderly ∧ ∀ (s' : DataPlane) (a : PlaneAction), s.step a = some s' →
      ∀ (j : ℕ) (x x' : PlaneStream), s.streams[j]? = some x → x.closed = false →
        s'.streams[j]? = some x' → x'.closed = true → a = .close j := by
  have hkept : s.Kept := run_invariant (fun _ _ _ h => h.step) fresh_kept hguarded hrun
  exact ⟨hkept.orderly, fun _ _ hstep _ _ _ => eq_close_of_step hstep⟩

end DataPlane

def reopenedStream : List PlaneAction :=
  [.acceptStream, .read 0 (some (uuidOf 1)), .setID 0, .register 0, .returned 0 true,
    .close 0, .remove 0,
    .acceptStream, .read 1 (some (uuidOf 1)), .setID 1, .register 1, .returned 1 true]

theorem reopenedStream_owned : Guarded DataPlane.step DataPlane.Renews .fresh reopenedStream ∧
      ∃ s ∈ run DataPlane.step .fresh reopenedStream,
        s.channels.lookup (uuidOf 1) = some 1 ∧ s.Orderly := by
  refine ⟨?guard, exists_run_and ?_ fun s hrun => (DataPlane.registry_owned ?guard hrun).1⟩
  all_goals decide +kernel

/-- A second stream of the peer with the same identifier is rejected, and takes
the first one out of the registry when it is closed.  Two calls of `OpenChannel`
that both find the identifier free both register their streams. -/
theorem repeatedStream_evicts : (∃ s ∈ run DataPlane.step .fresh
        [.acceptStream, .read 0 (some (uuidOf 1)), .setID 0, .register 0,
          .acceptStream, .read 1 (some (uuidOf 1)), .setID 1, .register 1, .close 1, .remove 1],
      s.evictions = [(0, 1)] ∧ uuidOf 1 ∉ s.channels ∧
      s.streams[0]? = some ⟨uuidOf 1, false, none, .onConnect, true⟩) ∧
    (∃ s ∈ run DataPlane.step .fresh [.openChannel (uuidOf 1), .openChannel (uuidOf 1),
          .openStream (uuidOf 1), .openStream (uuidOf 1), .register 0, .register 1],
      s.evictions = [(0, 1)] ∧ s.streams = [⟨uuidOf 1, false, none, .write, true⟩,
        ⟨uuidOf 1, false, none, .write, true⟩]) := by
  decide +kernel

end LinkSocks
