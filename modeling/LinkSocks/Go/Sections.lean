import LinkSocks.Go.Refs
import LinkSocks.Go.Tables

/-!
# Channels behind a lock

A Go map whose values are channels is shared by goroutines under a
`sync.RWMutex`.  A goroutine runs a program; an annotation of the program says
at each point which lock the goroutine holds and what it knows of the channel
it has in hand.  If every instruction fits its annotation, then in every
interleaving of any number of goroutines no channel in the map is closed, and
nothing is sent on, drained from or closed again on a channel that is closed.
Goroutines may also receive, outside the lock, from channels that they have
taken out of the map before.
-/

namespace Go

open List Option AList

structure RWMutex where
  readers : List ℕ
  writer : Option ℕ

/-- A buffered channel.  History: the key that it was made for. -/
structure Chan (K M : Type*) where
  items : List M
  closed : Bool
  key : K

/-- One instruction, with the points of the program it leads to. -/
inductive Instr (K M P : Type*) where
  | lock (next : P)
  | unlock (next : P)
  | rLock (next : P)
  | rUnlock (next : P)
  /-- `c, ok := m[k]` -/
  | lookup (k : K) (found missing : P)
  /-- `c = make(chan M, capacity); m[k] = c` -/
  | make (k : K) (next : P)
  /-- `delete(m, k)` -/
  | delete (k : K) (next : P)
  /-- `select { case c <- msg: default: }` -/
  | send (msg : M) (next : P)
  /-- The same for all messages in hand, one after the other. -/
  | sendAll (next : P)
  | close (next : P)
  /-- Receives without blocking until the channel has nothing to give. -/
  | drain (next : P)
  /-- `msg, ok := <-c` -/
  | receive (got closed : P)
  /-- Hands the messages in hand to somebody else, until that fails. -/
  | deliver (failed done : P)
  /-- A test of anything else. -/
  | choose (yes no : P)
  | halt

structure Goroutine (M P : Type*) where
  pc : P
  hand : Option ℕ
  msgs : List M

inductive Fault where
  | nilChannel
  | sendOnClosed
  | closeOfClosed
  | drainOfClosed
  deriving DecidableEq

structure Shared (K M P : Type*) where
  refs : GoMap K ℕ
  chans : List (Chan K M)
  mu : RWMutex
  goroutines : ℕ → Goroutine M P
  faults : List Fault

structure Program (K M P : Type*) where
  code : P → Instr K M P
  entry : P → Bool
  capacity : ℕ

inductive SectionAction (P : Type*) where
  | start (i : ℕ) (entry : P)
  /-- A step of goroutine `i`; the choice is used where there is one. -/
  | step (i : ℕ) (choice : Bool)

def SectionAction.isStepOf {P : Type*} (i : ℕ) : SectionAction P → Bool
  | .start .. => false
  | .step j _ => j == i

theorem SectionAction.not_isStepOf {P : Type*} {i : ℕ} {a : SectionAction P}
    (ha : ¬ ∃ choice, a = .step i choice) : ¬ a.isStepOf i = true := by
  cases a with
  | start j entry => exact Bool.false_ne_true
  | step j choice =>
    intro h
    obtain rfl : j = i := beq_iff_eq.mp h
    exact ha ⟨choice, rfl⟩

namespace Shared

variable {K M P : Type*}

/-! ## Steps -/

def set (s : Shared K M P) (i : ℕ) (g : Goroutine M P) : Shared K M P :=
  { s with goroutines := Function.update s.goroutines i g }

theorem goroutines_set_self {s : Shared K M P} {i : ℕ} (g : Goroutine M P) :
    (s.set i g).goroutines i = g := Function.update_self _ _ _

theorem goroutines_set_of_ne {s : Shared K M P} {i j : ℕ} (hj : j ≠ i)
    (g : Goroutine M P) : (s.set i g).goroutines j = s.goroutines j := Function.update_of_ne hj _ _

def fault (s : Shared K M P) (f : Fault) : Shared K M P := { s with faults := s.faults ++ [f] }

def setChan (s : Shared K M P) (o : ℕ) (c : Chan K M) : Shared K M P :=
  { s with chans := s.chans.set o c }

def setMu (s : Shared K M P) (mu : RWMutex) : Shared K M P := { s with mu := mu }

def trySend (capacity : ℕ) (s : Shared K M P) (o : ℕ) (msg : M) : Shared K M P :=
  match s.chans[o]? with
  | none => s.fault .nilChannel
  | some c =>
    if c.closed then s.fault .sendOnClosed
    else if c.items.length < capacity then s.setChan o { c with items := c.items ++ [msg] }
    else s

def tryClose (s : Shared K M P) (o : ℕ) : Shared K M P :=
  match s.chans[o]? with
  | none => s.fault .nilChannel
  | some c =>
    if c.closed then s.fault .closeOfClosed
    else s.setChan o { c with closed := true }

/-- One round of the loop that empties a channel.  A closed channel always has
something to give, so that the loop does not end. -/
def drainOne (s : Shared K M P) (i : ℕ) (g : Goroutine M P) (o : ℕ) (next : P) : Shared K M P :=
  match s.chans[o]? with
  | none => s.fault .nilChannel
  | some c =>
    let s := if c.closed then s.fault .drainOfClosed else s
    match c.items with
    | m :: items => (s.setChan o { c with items := items }).set i { g with msgs := g.msgs ++ [m] }
    | [] => if c.closed then s else s.set i { g with pc := next }

variable [DecidableEq K]

def makeChan (s : Shared K M P) (k : K) : Shared K M P :=
  { s with
    refs := s.refs.insert k s.chans.length
    chans := s.chans ++ [⟨[], false, k⟩] }

def deleteRef (s : Shared K M P) (k : K) : Shared K M P := { s with refs := s.refs.erase k }

def exec (capacity : ℕ) (s : Shared K M P) (i : ℕ) (choice : Bool)
    (g : Goroutine M P) : Instr K M P → Option (Shared K M P)
  | .lock next =>
    if s.mu.writer = none ∧ s.mu.readers = [] then
      some ((s.setMu ⟨[], some i⟩).set i { g with pc := next })
    else none
  | .unlock next => some ((s.setMu { s.mu with writer := none }).set i { g with pc := next })
  | .rLock next =>
    if s.mu.writer = none then
      some ((s.setMu { s.mu with readers := i :: s.mu.readers }).set i
        { g with pc := next })
    else none
  | .rUnlock next =>
    some ((s.setMu { s.mu with readers := s.mu.readers.erase i }).set i
      { g with pc := next })
  | .lookup k found missing =>
    match s.refs.lookup k with
    | some o => some (s.set i { g with pc := found, hand := some o })
    | none => some (s.set i { g with pc := missing, hand := none })
  | .make k next =>
    some ((s.makeChan k).set i
      { g with pc := next, hand := some s.chans.length })
  | .delete k next => some ((s.deleteRef k).set i { g with pc := next })
  | .send msg next =>
    match g.hand with
    | none => some (s.fault .nilChannel)
    | some o => some ((s.trySend capacity o msg).set i { g with pc := next })
  | .sendAll next =>
    match g.msgs, g.hand with
    | [], _ => some (s.set i { g with pc := next })
    | _ :: _, none => some (s.fault .nilChannel)
    | m :: msgs, some o => some ((s.trySend capacity o m).set i { g with msgs := msgs })
  | .close next =>
    match g.hand with
    | none => some (s.fault .nilChannel)
    | some o => some ((s.tryClose o).set i { g with pc := next })
  | .drain next =>
    match g.hand with
    | none => some (s.fault .nilChannel)
    | some o => some (s.drainOne i g o next)
  | .receive got closed =>
    match g.hand.bind (s.chans[·]?), g.hand with
    | some ⟨m :: items, isClosed, key⟩, some o =>
      some ((s.setChan o ⟨items, isClosed, key⟩).set i
        { g with pc := got, msgs := [m] })
    | some ⟨[], true, _⟩, some _ => some (s.set i { g with pc := closed })
    -- an open channel that is empty blocks, as does a missing one
    | _, _ => none
  | .deliver failed done =>
    match g.msgs with
    | [] => some (s.set i { g with pc := done })
    | _ :: msgs =>
      if choice then some (s.set i { g with msgs := msgs })
      else some (s.set i { g with pc := failed })
  | .choose yes no => some (s.set i { g with pc := if choice then yes else no })
  | .halt => none

def step (prog : Program K M P) (s : Shared K M P) : SectionAction P → Option (Shared K M P)
  | .start i entry =>
    match prog.code (s.goroutines i).pc with
    | .halt => if prog.entry entry then some (s.set i ⟨entry, none, []⟩) else none
    | _ => none
  | .step i choice => s.exec prog.capacity i choice (s.goroutines i) (prog.code (s.goroutines i).pc)

end Shared

/-! ## Annotations -/

inductive Mode where
  | free
  | read
  | write
  deriving DecidableEq

/-- What a goroutine knows of the channel it has in hand: it is the channel of
a key; it was the channel of a key, and nobody else can close it; or it was
made for a key whose channels may be received from at any time. -/
inductive Claim (K : Type*) where
  | any
  | mapped (k : K)
  | detached
  | held
  deriving DecidableEq

structure Note (K : Type*) where
  mode : Mode
  claim : Claim K

/-- What is left of a claim when the lock is given up. -/
def Claim.release {K : Type*} (taken : K → Bool) : Claim K → Claim K
  | .mapped k => if taken k then .held else .any
  | .held => .held
  | _ => .any

/-- What becomes of a claim when a key is deleted. -/
def Claim.delete {K : Type*} [DecidableEq K] (k : K) : Claim K → Claim K
  | .mapped k' => if k' = k then .detached else .mapped k'
  | claim => claim

/-- Others cannot spoil the claim while the lock is held, or not held. -/
def Note.Stable {K : Type*} (note : Note K) : Prop :=
  match note.mode, note.claim with
  | .free, .mapped _ => False
  | .free, .detached => False
  | .read, .detached => False
  | _, _ => True

/-- A point with the second note may follow one that ensures the first. -/
def Note.Leads {K : Type*} (before after : Note K) : Prop :=
  after.mode = before.mode ∧ (after.claim = .any ∨ after.claim = before.claim)

section Annotations

variable {K M P : Type*} [DecidableEq K]

/-- The instruction may stand at a point with this note. -/
def Note.Fits (taken : K → Bool) (note : P → Note K) (a : Note K) : Instr K M P → Prop
  | .lock next => a.mode = .free ∧ Note.Leads ⟨.write, a.claim⟩ (note next)
  | .unlock next => a.mode = .write ∧ Note.Leads ⟨.free, a.claim.release taken⟩ (note next)
  | .rLock next => a.mode = .free ∧ Note.Leads ⟨.read, a.claim⟩ (note next)
  | .rUnlock next => a.mode = .read ∧ Note.Leads ⟨.free, a.claim.release taken⟩ (note next)
  | .lookup k found missing =>
    a.mode ≠ .free ∧ Note.Leads ⟨a.mode, .mapped k⟩ (note found) ∧
      Note.Leads ⟨a.mode, .any⟩ (note missing)
  | .make k next => a.mode = .write ∧ Note.Leads ⟨.write, .mapped k⟩ (note next)
  | .delete k next => a.mode = .write ∧ Note.Leads ⟨.write, a.claim.delete k⟩ (note next)
  | .send _ next => (∃ k, a.claim = .mapped k) ∧ Note.Leads a (note next)
  | .sendAll next => (∃ k, a.claim = .mapped k) ∧ Note.Leads a (note next)
  | .close next => a.claim = .detached ∧ Note.Leads ⟨a.mode, .any⟩ (note next)
  | .drain next =>
    (∃ k, a.claim = .mapped k ∧ taken k = false) ∧ a.mode = .write ∧ Note.Leads a (note next)
  | .receive got closed => a.claim = .held ∧ Note.Leads a (note got) ∧ Note.Leads a (note closed)
  | .deliver failed done => Note.Leads a (note failed) ∧ Note.Leads a (note done)
  | .choose yes no => Note.Leads a (note yes) ∧ Note.Leads a (note no)
  | .halt => True

/-- An annotation that every instruction fits. -/
structure Program.Annotated (prog : Program K M P) (taken : K → Bool)
    (note : P → Note K) : Prop where
  stable : ∀ p, (note p).Stable
  fits : ∀ p, (note p).Fits taken note (prog.code p)
  entry : ∀ p, prog.entry p = true → note p = ⟨.free, .any⟩
  halt : ∀ p, prog.code p = .halt → note p = ⟨.free, .any⟩

end Annotations

/-! ## What annotations say of a state -/

namespace Shared

variable {K M P : Type*}

/-- The goroutine holds the lock in this mode. -/
def Holds (s : Shared K M P) (i : ℕ) : Mode → Prop
  | .free => i ∉ s.mu.readers ∧ s.mu.writer ≠ some i
  | .read => i ∈ s.mu.readers
  | .write => s.mu.writer = some i

def channelAt (s : Shared K M P) (o : ℕ) (P' : Chan K M → Prop) : Prop :=
  ∃ c, s.chans[o]? = some c ∧ P' c

variable [DecidableEq K]

def Knows (taken : K → Bool) (s : Shared K M P) (hand : Option ℕ) : Claim K → Prop
  | .any => True
  | .mapped k => ∃ o, hand = some o ∧ s.refs.lookup k = some o
  | .detached => ∃ o, hand = some o ∧ s.channelAt o (·.closed = false) ∧
      ∀ k, s.refs.lookup k ≠ some o
  | .held => ∃ o, hand = some o ∧ s.channelAt o (taken ·.key = true)

/-- A lock that is held for writing is held by nobody else. -/
structure Exclusive (mu : RWMutex) : Prop where
  nodup : mu.readers.Nodup
  writer : ∀ i, mu.writer = some i → mu.readers = []

/-- The channels in the map are open, and made for their key. -/
def Open (s : Shared K M P) : Prop :=
  ∀ k o, s.refs.lookup k = some o → s.channelAt o fun c => c.closed = false ∧ c.key = k

structure Safe (taken : K → Bool) (note : P → Note K) (s : Shared K M P) : Prop where
  mutex : Exclusive s.mu
  isOpen : s.Open
  holds : ∀ i, s.Holds i (note (s.goroutines i).pc).mode
  knows : ∀ i, s.Knows taken (s.goroutines i).hand
    (note (s.goroutines i).pc).claim
  faults : s.faults = []

/-- All goroutines have ended, and every channel in the map is open. -/
structure Quiescent (prog : Program K M P) (s : Shared K M P) : Prop where
  isOpen : s.Open
  readers : s.mu.readers = []
  writer : s.mu.writer = none
  halted : ∀ i, prog.code (s.goroutines i).pc = .halt
  faults : s.faults = []

/-- As `Safe`, of all goroutines but one. -/
structure SafeBut (taken : K → Bool) (note : P → Note K) (i : ℕ) (s : Shared K M P) : Prop where
  mutex : Exclusive s.mu
  isOpen : s.Open
  holds : ∀ j, j ≠ i → s.Holds j (note (s.goroutines j).pc).mode
  knows : ∀ j, j ≠ i → s.Knows taken (s.goroutines j).hand
    (note (s.goroutines j).pc).claim
  faults : s.faults = []

section Invariant

variable {taken : K → Bool} {note : P → Note K} {s s' : Shared K M P}
  {i j o : ℕ} {hand : Option ℕ} {claim : Claim K} {c c' : Chan K M} {k : K}

theorem Quiescent.safe {prog : Program K M P}
    (hprog : prog.Annotated taken note) (hs : s.Quiescent prog) : s.Safe taken note := by
  have hnote : ∀ i, note (s.goroutines i).pc = ⟨.free, .any⟩ := fun i => hprog.halt _ (hs.halted i)
  refine ⟨⟨?_, ?_⟩, hs.isOpen, fun i => ?_, fun i => ?_, hs.faults⟩
  · rw [hs.readers]
    exact nodup_nil
  · exact fun _ _ => hs.readers
  · rw [hnote i]
    refine ⟨?_, ?_⟩
    · rw [hs.readers]
      exact not_mem_nil
    · rw [hs.writer]
      exact some_ne_none i |>.symm
  · rw [hnote i]
    trivial

theorem Safe.but (hs : s.Safe taken note) (i : ℕ) : s.SafeBut taken note i :=
  ⟨hs.mutex, hs.isOpen, fun j _ => hs.holds j, fun j _ => hs.knows j, hs.faults⟩

theorem SafeBut.set (hs : s.SafeBut taken note i) (g : Goroutine M P)
    (hholds : s.Holds i (note g.pc).mode) (hknows : s.Knows taken g.hand (note g.pc).claim) :
    (s.set i g).Safe taken note := by
  refine ⟨hs.mutex, hs.isOpen, fun j => ?_, fun j => ?_, hs.faults⟩
  · by_cases hj : j = i
    · subst hj
      rw [goroutines_set_self]
      exact hholds
    · rw [goroutines_set_of_ne hj]
      exact hs.holds j hj
  · by_cases hj : j = i
    · subst hj
      rw [goroutines_set_self]
      exact hknows
    · rw [goroutines_set_of_ne hj]
      exact hs.knows j hj

/-! ### Claims -/

theorem Knows.leads {a b : Note K} (h : s.Knows taken hand a.claim)
    (hleads : a.Leads b) : s.Knows taken hand b.claim := by
  rcases hleads.2 with hany | hsame
  · rw [hany]
    trivial
  · rw [hsame]
    exact h

section

variable (h : s.Knows taken hand claim)
include h

/-- What is in hand when the lock is given up may still be received from, if
its key says so. -/
theorem Knows.release (hopen : s.Open) : s.Knows taken hand (claim.release taken) := by
  cases claim with
  | any => trivial
  | detached => trivial
  | held => exact h
  | mapped k =>
    obtain ⟨o, hhand, hlookup⟩ := h
    simp only [Claim.release]
    split
    · rename_i htaken
      obtain ⟨c, hc, -, hkey⟩ := hopen k o hlookup
      exact ⟨o, hhand, c, hc, (congrArg taken hkey).trans htaken⟩
    · trivial

/-- A key that is deleted leaves the channel in hand without any key. -/
theorem Knows.deleteRef (hopen : s.Open)
    (k : K) : (s.deleteRef k).Knows taken hand (claim.delete k) := by
  cases claim with
  | any => trivial
  | held => exact h
  | detached =>
    obtain ⟨o, hhand, hchan, hnone⟩ := h
    exact ⟨o, hhand, hchan, fun k' hk' => hnone k' (lookup_of_erase k' o hk')⟩
  | mapped k' =>
    obtain ⟨o, hhand, hlookup⟩ := h
    simp only [Claim.delete]
    split
    · rename_i hk
      subst hk
      obtain ⟨c, hc, hclosed, hkey⟩ := hopen k' o hlookup
      refine ⟨o, hhand, ⟨c, hc, hclosed⟩, fun k hk => ?_⟩
      obtain ⟨d, hd, -, hkey'⟩ := hopen k o (lookup_of_erase k o hk)
      cases hc.symm.trans hd
      have hsame : k = k' := hkey'.symm.trans hkey
      subst hsame
      cases hk.symm.trans (lookup_erase k s.refs)
    · rename_i hk
      exact ⟨o, hhand, (lookup_erase_ne hk).trans hlookup⟩

theorem Knows.of_chans (hrefs : s'.refs = s.refs) (hchans : ∀ o c, s.chans[o]? = some c →
      s'.channelAt o fun c' => c'.closed = c.closed ∧ c'.key = c.key) :
    s'.Knows taken hand claim := by
  cases claim with
  | any => trivial
  | mapped k =>
    obtain ⟨o, hhand, hlookup⟩ := h
    exact ⟨o, hhand, hrefs ▸ hlookup⟩
  | detached =>
    obtain ⟨o, hhand, ⟨c, hc, hclosed⟩, hnone⟩ := h
    obtain ⟨c', hc', hsame, -⟩ := hchans o c hc
    exact ⟨o, hhand, ⟨c', hc', hsame.trans hclosed⟩, hrefs ▸ hnone⟩
  | held =>
    obtain ⟨o, hhand, c, hc, htaken⟩ := h
    obtain ⟨c', hc', -, hkey⟩ := hchans o c hc
    exact ⟨o, hhand, c', hc', (congrArg taken hkey).trans htaken⟩

theorem Knows.of_keys (hclaim : claim = .any ∨ claim = .held)
    (hchans : ∀ o c, s.chans[o]? = some c → s'.channelAt o fun c' => c'.key = c.key) :
    s'.Knows taken hand claim := by
  rcases hclaim with hany | hheld
  · subst hany
    trivial
  · subst hheld
    obtain ⟨o, hhand, c, hc, htaken⟩ := h
    obtain ⟨c', hc', hkey⟩ := hchans o c hc
    exact ⟨o, hhand, c', hc', (congrArg taken hkey).trans htaken⟩

end

/-! ### What a goroutine may do to the state -/

/-- While somebody holds the lock for writing, the others hold nothing. -/
theorem SafeBut.claim_of_writer (hs : s.SafeBut taken note i)
    (hstable : ∀ p, (note p).Stable) (hwriter : s.mu.writer = some i) (hj : j ≠ i) :
    (note (s.goroutines j).pc).claim = .any ∨ (note (s.goroutines j).pc).claim = .held := by
  have hholds := hs.holds j hj
  have hnote := hstable (s.goroutines j).pc
  generalize note (s.goroutines j).pc = a at hholds hnote
  obtain ⟨mode, claim⟩ := a
  cases mode with
  | free =>
    cases claim with
    | any => exact .inl rfl
    | held => exact .inr rfl
    | mapped k => exact hnote.elim
    | detached => exact hnote.elim
  | read =>
    have hmem : j ∈ s.mu.readers := hholds
    rw [hs.mutex.writer i hwriter] at hmem
    cases hmem
  | write =>
    have hother : s.mu.writer = some j := hholds
    cases hwriter.symm.trans hother
    exact absurd rfl hj

omit [DecidableEq K] in
theorem Holds.of_iff {mode : Mode} (h : s.Holds j mode)
    (hreaders : j ∈ s'.mu.readers ↔ j ∈ s.mu.readers)
    (hwriter : s'.mu.writer = some j ↔ s.mu.writer = some j) : s'.Holds j mode := by
  cases mode with
  | free => exact ⟨fun hj => h.1 (hreaders.mp hj), fun hj => h.2 (hwriter.mp hj)⟩
  | read => exact hreaders.mpr h
  | write => exact hwriter.mpr h

section

variable (hs : s.SafeBut taken note i)
include hs

theorem SafeBut.setMu {mu : RWMutex} (hmu : Exclusive mu)
    (hreaders : ∀ j, j ≠ i → (j ∈ mu.readers ↔ j ∈ s.mu.readers))
    (hwriter : ∀ j, j ≠ i → (mu.writer = some j ↔ s.mu.writer = some j)) :
    (s.setMu mu).SafeBut taken note i :=
  ⟨hmu, hs.isOpen, fun j hj => (hs.holds j hj).of_iff (hreaders j hj) (hwriter j hj),
    hs.knows, hs.faults⟩

theorem SafeBut.lock (hwriter : s.mu.writer = none) (hreaders : s.mu.readers = []) :
    (s.setMu ⟨[], some i⟩).SafeBut taken note i := by
  refine hs.setMu ⟨nodup_nil, fun _ _ => rfl⟩ (fun j _ => ?_) fun j hj => ?_
  · rw [hreaders]
  · rw [hwriter]
    exact iff_of_false (fun h => hj (some.inj h).symm) (some_ne_none j).symm

theorem SafeBut.unlock (hwriter : s.mu.writer = some i) :
    (s.setMu { s.mu with writer := none }).SafeBut taken note i := by
  refine hs.setMu ⟨hs.mutex.nodup, fun j h => ?_⟩ (fun j _ => Iff.rfl) fun j hj => ?_
  · exact absurd h.symm (some_ne_none j)
  · rw [hwriter]
    exact iff_of_false (some_ne_none j).symm fun h => hj (some.inj h).symm

theorem SafeBut.rLock (hwriter : s.mu.writer = none) (hi : i ∉ s.mu.readers) :
    (s.setMu { s.mu with readers := i :: s.mu.readers }).SafeBut taken note i := by
  refine hs.setMu ⟨nodup_cons.mpr ⟨hi, hs.mutex.nodup⟩, fun j h => ?_⟩
    (fun j hj => mem_cons.trans (or_iff_right hj)) fun j _ => Iff.rfl
  cases hwriter.symm.trans h

theorem SafeBut.rUnlock :
    (s.setMu { s.mu with readers := s.mu.readers.erase i }).SafeBut taken note i := by
  refine hs.setMu ⟨hs.mutex.nodup.erase i, fun j h => ?_⟩
    (fun j => mem_erase_of_ne) fun j _ => Iff.rfl
  have hnil := hs.mutex.writer j h
  rw [hnil]
  rfl

end

omit [DecidableEq K] in
theorem channelAt_setChan (hc : s.chans[o]? = some c) {Q : Chan K M → Prop}
    (hQ : Q c') : (s.setChan o c').channelAt o Q := by
  exact ⟨c', getElem?_set_of_some hc, hQ⟩

omit [DecidableEq K] in
theorem setChan_of_ne {p : ℕ} (hp : p ≠ o) : (s.setChan o c').chans[p]? = s.chans[p]? :=
  getElem?_set_ne hp.symm

omit [DecidableEq K] in
theorem setChan_same (hc : s.chans[o]? = some c) (hkey : c'.key = c.key)
    (hclosed : c'.closed = c.closed) (p : ℕ) (d : Chan K M) (hd : s.chans[p]? = some d) :
    (s.setChan o c').channelAt p fun d' => d'.closed = d.closed ∧ d'.key = d.key := by
  by_cases hp : p = o
  · subst hp
    cases hc.symm.trans hd
    exact channelAt_setChan hc ⟨hclosed, hkey⟩
  · exact ⟨d, (setChan_of_ne hp).trans hd, rfl, rfl⟩

theorem Knows.setChan (h : s.Knows taken hand claim)
    (hc : s.chans[o]? = some c) (hkey : c'.key = c.key) (hclosed : c'.closed = c.closed) :
    (s.setChan o c').Knows taken hand claim := h.of_chans rfl (setChan_same hc hkey hclosed)

section

variable (hs : s.SafeBut taken note i)
include hs

theorem SafeBut.setChan
    (hc : s.chans[o]? = some c) (hkey : c'.key = c.key) (hclosed : c'.closed = c.closed) :
    (s.setChan o c').SafeBut taken note i := by
  have hsame := setChan_same hc hkey hclosed
  refine ⟨hs.mutex, fun k p hk => ?_, hs.holds,
    fun j hj => (hs.knows j hj).setChan hc hkey hclosed, hs.faults⟩
  obtain ⟨d, hd, hopen, hdkey⟩ := hs.isOpen k p hk
  obtain ⟨d', hd', hc', hk'⟩ := hsame p d hd
  exact ⟨d', hd', hc'.trans hopen, hk'.trans hdkey⟩

section

variable (hstable : ∀ p, (note p).Stable) (hwriter : s.mu.writer = some i)
include hstable hwriter

theorem SafeBut.closeChan (hc : s.chans[o]? = some c) (hnone : ∀ k, s.refs.lookup k ≠ some o) :
    (s.setChan o { c with closed := true }).SafeBut taken note i := by
  refine ⟨hs.mutex, fun k p hk => ?_, hs.holds, fun j hj => ?_, hs.faults⟩
  · have hp : p ≠ o := fun h => hnone k (h ▸ hk)
    obtain ⟨d, hd, hd'⟩ := hs.isOpen k p hk
    exact ⟨d, (setChan_of_ne hp).trans hd, hd'⟩
  · refine (hs.knows j hj).of_keys (hs.claim_of_writer hstable hwriter hj) fun p d hd => ?_
    by_cases hp : p = o
    · subst hp
      cases hc.symm.trans hd
      exact channelAt_setChan hc rfl
    · exact ⟨d, (setChan_of_ne hp).trans hd, rfl⟩

theorem SafeBut.makeChan (k : K) : (s.makeChan k).SafeBut taken note i := by
  have hold : ∀ p d, s.chans[p]? = some d →
      (s.makeChan k).chans[p]? = some d := fun _ _ hd => getElem?_append_of_some hd _
  refine ⟨hs.mutex, fun k' p hk => ?_, hs.holds, fun j hj => ?_, hs.faults⟩
  · by_cases hkk : k' = k
    · subst hkk
      cases (lookup_insert s.refs).symm.trans hk
      exact ⟨_, getElem?_concat_length, rfl, rfl⟩
    · obtain ⟨d, hd, hd'⟩ := hs.isOpen k' p ((lookup_insert_ne hkk).symm.trans hk)
      exact ⟨d, hold p d hd, hd'⟩
  · exact (hs.knows j hj).of_keys (hs.claim_of_writer hstable hwriter hj)
      fun p d hd => ⟨d, hold p d hd, rfl⟩

theorem SafeBut.deleteRef (k : K) : (s.deleteRef k).SafeBut taken note i := by
  refine ⟨hs.mutex, fun k' p hk => ?_, hs.holds, fun j hj => ?_, hs.faults⟩
  · exact hs.isOpen k' p (lookup_of_erase k' p hk)
  · exact (hs.knows j hj).of_keys (hs.claim_of_writer hstable hwriter hj) fun p d hd => ⟨d, hd, rfl⟩

end

/-! ### Instructions -/

theorem SafeBut.goOn {a : Note K} {g : Goroutine M P} (hleads : a.Leads (note g.pc))
    (hholds : s.Holds i a.mode) (hknows : s.Knows taken g.hand a.claim) :
    (s.set i g).Safe taken note := by
  refine hs.set g ?_ (hknows.leads hleads)
  rw [hleads.1]
  exact hholds

end

theorem Knows.isOpen (h : s.Knows taken hand (.mapped k)) (hopen : s.Open) :
    ∃ o c, hand = some o ∧ s.chans[o]? = some c ∧ c.closed = false ∧ c.key = k := by
  obtain ⟨o, hhand, hlookup⟩ := h
  obtain ⟨c, hc, hclosed, hkey⟩ := hopen k o hlookup
  exact ⟨o, c, hhand, hc, hclosed, hkey⟩

/-- Sending on an open channel changes its messages, or nothing. -/
theorem SafeBut.trySend (hs : s.SafeBut taken note i) (capacity : ℕ) (msg : M)
    (hc : s.chans[o]? = some c) (hclosed : c.closed = false) :
    (s.trySend capacity o msg).SafeBut taken note i ∧ (s.trySend capacity o msg).mu = s.mu ∧
      ∀ hand claim, s.Knows taken hand claim →
        (s.trySend capacity o msg).Knows taken hand claim := by
  have heq : s.trySend capacity o msg = if c.items.length < capacity then
        s.setChan o { c with items := c.items ++ [msg] }
      else s := by
    simp only [Shared.trySend, hc, hclosed, Bool.false_eq_true, if_false]
  rw [heq]
  split
  · exact ⟨hs.setChan hc rfl rfl, rfl, fun _ _ h => h.setChan hc rfl rfl⟩
  · exact ⟨hs, rfl, fun _ _ h => h⟩

variable {capacity : ℕ} {choice : Bool} {next : P} {msg : M}
  {instr : Instr K M P}

section

variable (hs : s.Safe taken note)
include hs

/-- A send under the lock finds its channel open. -/
theorem Safe.trySend (hclaim : (note (s.goroutines i).pc).claim = .mapped k)
    (hhand : (s.goroutines i).hand = some o) {g : Goroutine M P}
    (hg : g.hand = (s.goroutines i).hand) (hleads : (note (s.goroutines i).pc).Leads (note g.pc)) :
    ((s.trySend capacity o msg).set i g).Safe taken note := by
  have hknows := hs.knows i
  obtain ⟨o', c, hhand', hc, hclosed, -⟩ := (hclaim ▸ hknows).isOpen hs.isOpen
  cases hhand.symm.trans hhand'
  obtain ⟨hbut, hmu, hkeep⟩ := (hs.but i).trySend capacity msg hc hclosed
  refine hbut.goOn hleads ((hs.holds i).of_iff ?_ ?_) (hkeep _ _ (hg ▸ hknows))
  · rw [hmu]
  · rw [hmu]

theorem Safe.tryClose (hstable : ∀ p, (note p).Stable)
    (hclaim : (note (s.goroutines i).pc).claim = .detached)
    (hhand : (s.goroutines i).hand = some o) {g : Goroutine M P}
    (hleads : Note.Leads ⟨(note (s.goroutines i).pc).mode, .any⟩ (note g.pc)) :
    ((s.tryClose o).set i g).Safe taken note := by
  have hholds := hs.holds i
  obtain ⟨o', hhand', ⟨c, hc, hclosed⟩, hnone⟩ := hclaim ▸ hs.knows i
  cases hhand.symm.trans hhand'
  have hwriter : s.mu.writer = some i := by
    have hnote := hstable (s.goroutines i).pc
    generalize note (s.goroutines i).pc = a at hholds hnote hclaim
    obtain ⟨mode, claim⟩ := a
    cases hclaim
    cases mode with
    | free => exact hnote.elim
    | read => exact hnote.elim
    | write => exact hholds
  simp only [Shared.tryClose, hc, hclosed, Bool.false_eq_true, if_false]
  exact ((hs.but i).closeChan hstable hwriter hc hnone).goOn hleads hholds trivial

theorem Safe.drainOne
    (hclaim : (note (s.goroutines i).pc).claim = .mapped k) (hhand : (s.goroutines i).hand = some o)
    (hleads : (note (s.goroutines i).pc).Leads (note next)) :
    (s.drainOne i (s.goroutines i) o next).Safe taken note := by
  have hknows := hs.knows i
  obtain ⟨o', ⟨items, closed, key⟩, hhand', hc, hclosed, -⟩ := (hclaim ▸ hknows).isOpen hs.isOpen
  cases hhand.symm.trans hhand'
  cases hclosed
  simp only [Shared.drainOne, hc, Bool.false_eq_true, if_false]
  cases items with
  | nil => exact (hs.but i).goOn hleads (hs.holds i) hknows
  | cons m items =>
    have hbut : (s.setChan o ⟨items, false, key⟩).SafeBut taken note i :=
      (hs.but i).setChan hc rfl rfl
    exact hbut.set _ (hs.holds i) (hknows.setChan hc rfl rfl)

theorem Safe.hand_ne_none (hclaim : (∃ k, (note (s.goroutines i).pc).claim = .mapped k) ∨
      (note (s.goroutines i).pc).claim = .detached) : (s.goroutines i).hand ≠ none := by
  intro hnone
  have hknows := hs.knows i
  obtain ⟨k, hclaim⟩ | hclaim := hclaim <;> rw [hclaim] at hknows <;>
    obtain ⟨o, hhand, -⟩ := hknows <;> cases hnone.symm.trans hhand

/-- One instruction that fits its annotation. -/
theorem Safe.exec (hstable : ∀ p, (note p).Stable)
    (hfits : (note (s.goroutines i).pc).Fits taken note instr)
    (h : s.exec capacity i choice (s.goroutines i) instr = some s') : s'.Safe taken note := by
  have hbut := hs.but i
  have hholds := hs.holds i
  have hknows := hs.knows i
  revert hfits h
  fun_cases Shared.exec capacity s i choice (s.goroutines i) instr <;> intro hfits h <;> cases h
  case case1 next hfree =>
    exact (hbut.lock hfree.1 hfree.2).goOn hfits.2 rfl hknows
  case case3 next =>
    rw [hfits.1] at hholds
    have hnil : s.mu.readers = [] := hs.mutex.writer i hholds
    refine (hbut.unlock hholds).goOn hfits.2 ⟨?_, ?_⟩ (hknows.release hs.isOpen)
    · exact hnil ▸ not_mem_nil
    · exact (some_ne_none i).symm
  case case4 next hfree =>
    rw [hfits.1] at hholds
    exact (hbut.rLock hfree hholds.1).goOn hfits.2 mem_cons_self hknows
  case case6 next =>
    rw [hfits.1] at hholds
    refine hbut.rUnlock.goOn hfits.2 ⟨?_, fun hwriter => ?_⟩ (hknows.release hs.isOpen)
    · exact hs.mutex.nodup.not_mem_erase
    · have hmem : i ∈ s.mu.readers := hholds
      rw [hs.mutex.writer i hwriter] at hmem
      cases hmem
  case case7 o hlookup => exact hbut.goOn hfits.2.1 hholds ⟨o, rfl, hlookup⟩
  case case8 => exact hbut.goOn hfits.2.2 hholds trivial
  case case9 k next =>
    rw [hfits.1] at hholds
    exact (hbut.makeChan hstable hholds k).goOn hfits.2 hholds ⟨_, rfl, lookup_insert s.refs⟩
  case case10 k next =>
    rw [hfits.1] at hholds
    exact (hbut.deleteRef hstable hholds k).goOn hfits.2 hholds (hknows.deleteRef hs.isOpen k)
  case case11 hnone | case14 hnone _ =>
    exact absurd hnone (hs.hand_ne_none (.inl hfits.1))
  case case12 hhand =>
    obtain ⟨⟨k, hclaim⟩, hleads⟩ := hfits
    exact hs.trySend hclaim hhand rfl hleads
  case case15 hhand _ =>
    obtain ⟨⟨k, hclaim⟩, -⟩ := hfits
    exact hs.trySend hclaim hhand rfl ⟨rfl, .inr rfl⟩
  case case16 hnone => exact absurd hnone (hs.hand_ne_none (.inr hfits.1))
  case case17 hhand => exact hs.tryClose hstable hfits.1 hhand hfits.2
  case case18 hnone =>
    obtain ⟨⟨k, hclaim, -⟩, -⟩ := hfits
    exact absurd hnone (hs.hand_ne_none (.inl ⟨k, hclaim⟩))
  case case19 hhand =>
    obtain ⟨⟨k, hclaim, -⟩, -, hleads⟩ := hfits
    exact hs.drainOne hclaim hhand hleads
  case case20 got _ m items closed key o hhand hc =>
    simp only [hhand, bind_some] at hc
    have hset : (s.setChan o ⟨items, closed, key⟩).SafeBut taken note i := hbut.setChan hc rfl rfl
    exact hset.goOn hfits.2.1 hholds (hknows.setChan hc rfl rfl)
  case case21 => exact hbut.goOn hfits.2.2 hholds hknows
  case case13 | case23 => exact hbut.goOn hfits.2 hholds hknows
  case case24 => exact hbut.set _ hholds hknows
  case case25 => exact hbut.goOn hfits.1 hholds hknows
  case case26 =>
    cases choice with
    | true => exact hbut.goOn hfits.1 hholds hknows
    | false => exact hbut.goOn hfits.2 hholds hknows

end

variable {prog : Program K M P}

/-- Every action of an annotated program. -/
theorem Safe.step (hprog : prog.Annotated taken note) (hs : s.Safe taken note)
    {a : SectionAction P} (h : s.step prog a = some s') : s'.Safe taken note := by
  cases a with
  | start i entry =>
    simp only [Shared.step] at h
    split at h
    · rename_i hhalt
      split at h <;> cases h
      rename_i hentry
      have hholds := hs.holds i
      rw [hprog.halt _ hhalt] at hholds
      refine (hs.but i).set _ ?_ ?_
      · rw [hprog.entry entry hentry]
        exact hholds
      · rw [hprog.entry entry hentry]
        trivial
    · cases h
  | step i choice => exact hs.exec hprog.stable (hprog.fits _) h

/-- In every interleaving, an annotated program is safe. -/
theorem Safe.run (hprog : prog.Annotated taken note)
    {actions : List (SectionAction P)} {t : Shared K M P} (hs : s.Safe taken note)
    (hrun : run (Shared.step prog) s actions = some t) : t.Safe taken note :=
  run_preserves (fun _ _ _ hI => hI.step hprog) hs hrun

/-! ### Draining ends -/

omit [DecidableEq K] in
theorem trySend_goroutines (capacity o : ℕ) (msg : M) :
    (s.trySend capacity o msg).goroutines = s.goroutines := by
  fun_cases Shared.trySend capacity s o msg <;> rfl

omit [DecidableEq K] in
theorem tryClose_goroutines (o : ℕ) : (s.tryClose o).goroutines = s.goroutines := by
  fun_cases Shared.tryClose s o <;> rfl

omit [DecidableEq K] in
theorem drainOne_goroutines (hj : j ≠ i) (g : Goroutine M P) (o : ℕ) (next : P) :
    (s.drainOne i g o next).goroutines j = s.goroutines j := by
  simp only [Shared.drainOne]
  split
  · rfl
  · split
    · rw [goroutines_set_of_ne hj]
      simp only [Shared.setChan]
      split <;> rfl
    · split
      · rfl
      · rw [goroutines_set_of_ne hj]

theorem exec_goroutines (hj : j ≠ i) {g : Goroutine M P}
    (h : s.exec capacity i choice g instr = some s') : s'.goroutines j = s.goroutines j := by
  revert h
  fun_cases Shared.exec capacity s i choice g instr <;> intro h <;> cases h
  case case11 | case14 | case16 | case18 => rfl
  case case12 | case15 => rw [goroutines_set_of_ne hj, trySend_goroutines]
  case case17 => rw [goroutines_set_of_ne hj, tryClose_goroutines]
  case case19 => exact drainOne_goroutines hj g _ _
  all_goals exact goroutines_set_of_ne hj _

/-- Somebody without the lock changes no channel but those that may be received
from at any time. -/
theorem Safe.exec_chans (hs : s.Safe taken note) (hstable : ∀ p, (note p).Stable)
    (hwriter : s.mu.writer = some i) (hj : j ≠ i)
    (hfits : (note (s.goroutines j).pc).Fits taken note instr)
    (h : s.exec capacity j choice (s.goroutines j) instr = some s')
    (hc : s.chans[o]? = some c) (hkey : taken c.key = false) : s'.chans[o]? = some c := by
  have hclaim := (hs.but i).claim_of_writer hstable hwriter hj
  have hnotMapped : ∀ k, (note (s.goroutines j).pc).claim ≠ .mapped k := by
    intro k hk
    rcases hclaim with hany | hheld
    · cases hany.symm.trans hk
    · cases hheld.symm.trans hk
  revert hfits h
  fun_cases Shared.exec capacity s j choice (s.goroutines j) instr <;> intro hfits h <;> cases h
  case case9 =>
    have hholds := hs.holds j
    rw [hfits.1] at hholds
    cases hwriter.symm.trans hholds
    exact absurd rfl hj
  case case11 | case12 | case13 | case14 | case15 =>
    obtain ⟨⟨k, hk⟩, -⟩ := hfits
    exact absurd hk (hnotMapped k)
  case case16 | case17 =>
    rcases hclaim with hany | hheld
    · cases hany.symm.trans hfits.1
    · cases hheld.symm.trans hfits.1
  case case18 | case19 =>
    obtain ⟨⟨k, hk, -⟩, -⟩ := hfits
    exact absurd hk (hnotMapped k)
  case case20 q hq _ =>
    have hknows := hs.knows j
    rw [hfits.1] at hknows
    obtain ⟨p, hhand, d, hd, htaken⟩ := hknows
    cases hhand.symm.trans hq
    have hp : o ≠ q := by
      rintro rfl
      cases hc.symm.trans hd
      cases hkey.symm.trans htaken
    exact (setChan_of_ne hp).trans hc
  all_goals exact hc

def inHand (s : Shared K M P) (i : ℕ) : List M :=
  ((s.goroutines i).hand.bind (s.chans[·]?)).elim [] Chan.items

omit [DecidableEq K] in
theorem inHand_of (hhand : (s.goroutines i).hand = some o)
    (hc : s.chans[o]? = some c) : s.inHand i = c.items := by
  simp only [inHand, hhand, bind_some, hc, elim_some]

section

variable (hprog : prog.Annotated taken note) (hs : s.Safe taken note)
  (hcode : prog.code (s.goroutines i).pc = .drain next)
include hprog hs hcode

theorem Safe.draining : s.mu.writer = some i ∧ ∃ o c, (s.goroutines i).hand = some o ∧
      s.chans[o]? = some c ∧ c.closed = false ∧ taken c.key = false := by
  have hfits := hprog.fits (s.goroutines i).pc
  rw [hcode] at hfits
  obtain ⟨⟨k, hclaim, htaken⟩, hmode, -⟩ := hfits
  have hholds := hs.holds i
  rw [hmode] at hholds
  obtain ⟨o, c, hhand, hc, hclosed, hkey⟩ := (hclaim ▸ hs.knows i).isOpen hs.isOpen
  exact ⟨hholds, o, c, hhand, hc, hclosed, (congrArg taken hkey).trans htaken⟩

/-- Each round of a drain takes one message out. -/
theorem Safe.drain_round (hnext : next ≠ (s.goroutines i).pc)
    (h : s.step prog (.step i choice) = some s')
    (hstay : (s'.goroutines i).pc = (s.goroutines i).pc) :
    (s.inHand i).length = (s'.inHand i).length + 1 := by
  obtain ⟨-, o, ⟨items, closed, key⟩, hhand, hc, hclosed, -⟩ := hs.draining hprog hcode
  cases hclosed
  simp only [Shared.step, hcode, Shared.exec, hhand, Shared.drainOne, hc,
    Bool.false_eq_true, if_false, some.injEq] at h
  cases items with
  | nil =>
    subst h
    rw [goroutines_set_self] at hstay
    exact absurd hstay hnext
  | cons m items =>
    subst h
    obtain ⟨hlt, -⟩ := List.getElem?_eq_some_iff.mp hc
    have hhand' : (((s.setChan o ⟨items, false, key⟩).set i ⟨(s.goroutines i).pc, some o,
          (s.goroutines i).msgs ++ [m]⟩).goroutines i).hand = some o := by
      rw [goroutines_set_self]
    rw [inHand_of hhand hc, inHand_of hhand' (getElem?_set_self hlt)]
    rfl

/-- Nobody else touches a channel that is being drained. -/
theorem Safe.drain_frame
    {a : SectionAction P} (ha : ∀ choice, a ≠ .step i choice) (h : s.step prog a = some s') :
    s'.goroutines i = s.goroutines i ∧ s'.inHand i = s.inHand i := by
  obtain ⟨hwriter, o, c, hhand, hc, -, hkey⟩ := hs.draining hprog hcode
  cases a with
  | start j entry =>
    by_cases hj : j = i
    · subst hj
      simp only [Shared.step, hcode] at h
      cases h
    · simp only [Shared.step] at h
      split at h <;> try split_ifs at h
      all_goals cases h
      have hsame := goroutines_set_of_ne (s := s) (Ne.symm hj) ⟨entry, none, []⟩
      refine ⟨hsame, ?_⟩
      rw [inHand_of hhand hc]
      exact inHand_of ((congrArg Goroutine.hand hsame).trans hhand) hc
  | step j choice =>
    have hj : j ≠ i := by
      rintro rfl
      exact ha choice rfl
    have hsame := exec_goroutines hj.symm h
    refine ⟨hsame, ?_⟩
    rw [inHand_of hhand hc]
    exact inHand_of ((congrArg Goroutine.hand hsame).trans hhand)
      (hs.exec_chans hprog.stable hwriter hj (hprog.fits _) h hc hkey)

/-- However the goroutines are interleaved, a loop that empties a channel makes
no more rounds than there are messages in the channel when it begins. -/
theorem Safe.drain_terminates (hnext : next ≠ (s.goroutines i).pc)
    {actions : List (SectionAction P)} {t : Shared K M P}
    (hrun : Go.run (Shared.step prog) s actions = some t) (hstay : Always (Shared.step prog)
      (fun u => (u.goroutines i).pc = (s.goroutines i).pc) s actions) :
    actions.countP (·.isStepOf i) ≤ (s.inHand i).length := by
  -- the channel loses a message with each round, and nothing otherwise
  induction actions generalizing s with
  | nil => exact Nat.zero_le _
  | cons a actions ih =>
    obtain ⟨s', hs', hrest⟩ := run_cons hrun
    have hlater := hstay.2 s' hs'
    have hpc : (s'.goroutines i).pc = (s.goroutines i).pc := hlater.head
    rw [← hpc] at hcode hnext hlater
    have hrounds := ih (hs.step hprog hs') hcode hnext hrest hlater
    rw [hpc] at hcode hnext
    rw [countP_cons]
    by_cases ha : ∃ choice, a = .step i choice
    · obtain ⟨choice, rfl⟩ := ha
      have hround := hs.drain_round hprog hcode hnext hs' hpc
      rw [SectionAction.isStepOf, beq_self_eq_true, if_pos rfl]
      omega
    · have hframe := hs.drain_frame hprog hcode (not_exists.mp ha) hs'
      rw [← hframe.2, if_neg (SectionAction.not_isStepOf ha)]
      exact hrounds

end

theorem drain_enabled (hcode : prog.code (s.goroutines i).pc = .drain next) (choice : Bool) :
    (s.step prog (.step i choice)).isSome := by
  simp only [Shared.step, hcode, Shared.exec]
  split <;> rfl

end Invariant

end Shared

end Go
