import LinkSocks.Go.Word

/-!
# Slices, errors and panics

A Go function that indexes its input ends in one of three ways: it returns a
value, it returns an error, or it panics because an index or a slice
expression was out of bounds.  `Result` keeps the three apart, so that the
absence of a panic can be stated and proved.
-/

namespace Go

/-- A Go `error`: a text, or a wrapped cause behind (`"text: %w"`) or in front
of (`"%w: text"`) a text. -/
inductive Error where
  | msg (text : String)
  | wrap (text : String) (cause : Error)
  | wrapFront (cause : Error) (text : String)
  deriving DecidableEq, Repr

/-- `err.Error()`. -/
def Error.text : Error → String
  | .msg text => text
  | .wrap text cause => text ++ ": " ++ cause.text
  | .wrapFront cause text => cause.text ++ ": " ++ text

/-- The two ways of not returning a value. -/
inductive Abort where
  | error (e : Error)
  | panic
  deriving DecidableEq, Repr

/-- The outcome of a Go function that returns `(α, error)` and may panic. -/
abbrev Result (α : Type*) := Except Abort α

/-- `return nil, fmt.Errorf(text)`. -/
def fail (text : String) : Result α := .error (.error (.msg text))

/-- A call whose error is returned as `fmt.Errorf("text: %w", err)`. -/
def orWrap (text : String) : Except Error α → Result α
  | .ok a => .ok a
  | .error e => .error (.error (.wrap text e))

/-- The index expression `b[i]`. -/
def index (b : List α) (i : ℕ) : Result α :=
  match b[i]? with
  | some x => .ok x
  | none => .error .panic

/-- The slice expression `b[lo:hi]`. -/
def slice (b : List α) (lo hi : ℕ) : Result (List α) :=
  if lo ≤ hi ∧ hi ≤ b.length then .ok ((b.take hi).drop lo)
  else .error .panic

/-- The slice expression `b[lo:]`, whose bound is an `int`. -/
def sliceFrom (b : List α) (lo : Int) : Result (List α) :=
  if 0 ≤ lo ∧ lo ≤ b.length then .ok (b.drop lo.toNat)
  else .error .panic

/-- The slice expression `b[lo:hi]` with `int` bounds. -/
def sliceInt (b : List α) (lo hi : Int) : Result (List α) :=
  if 0 ≤ lo ∧ 0 ≤ hi then slice b lo.toNat hi.toNat
  else .error .panic

/-! ## Sequencing -/

variable {r : Result α}

@[simp] theorem ok_bind (a : α) (f : α → Result β) : (Except.ok a >>= f) = f a := rfl

@[simp] theorem map_ok (a : α) (f : α → β) : f <$> (Except.ok a : Result α) = .ok (f a) := rfl

@[simp] theorem pure_eq_ok (a : α) : (pure a : Result α) = .ok a := rfl

variable {f : α → Result β} {p : Prop} {text : String}

theorem bind_eq_ok {b : β} (h : r >>= f = .ok b) : ∃ a, r = .ok a ∧ f a = .ok b := by
  cases r with
  | ok a => exact ⟨a, rfl, h⟩
  | error e => cases h

theorem map_eq_ok {f : α → β} {b : β} (h : f <$> r = .ok b) : ∃ a, r = .ok a ∧ b = f a := by
  cases r with
  | ok a =>
    cases h
    exact ⟨a, rfl, rfl⟩
  | error e => cases h

theorem guard_eq_ok [Decidable p]
    {a : α} (h : (if p then fail text else r) = .ok a) : ¬ p ∧ r = .ok a := by
  by_cases hp : p
  · rw [if_pos hp] at h
    cases h
  · rw [if_neg hp] at h
    exact ⟨hp, h⟩

/-! ## In-bounds expressions -/

variable {b : List α}

theorem index_of_lt {i : ℕ} (h : i < b.length) : index b i = .ok (b.get ⟨i, h⟩) := by
  simp [index, h]

variable {lo hi : ℕ}

theorem slice_of_le (hlo : lo ≤ hi) (hhi : hi ≤ b.length) :
    slice b lo hi = .ok ((b.take hi).drop lo) := by
  rw [slice, if_pos ⟨hlo, hhi⟩]

theorem slice_out_of_bounds (h : hi < lo ∨ b.length < hi) : slice b lo hi = .error .panic := by
  rw [slice, if_neg]
  omega

theorem slice_length {b s : List α} (h : slice b lo hi = .ok s) : s.length = hi - lo := by
  rw [slice] at h
  split at h <;> cases h
  simp only [List.length_drop, List.length_take]
  omega

theorem sliceFrom_of_le {lo : Int} (h0 : 0 ≤ lo) (h1 : lo ≤ b.length) :
    sliceFrom b lo = .ok (b.drop lo.toNat) := by
  rw [sliceFrom, if_pos ⟨h0, h1⟩]

/-! ## Reading back a concatenation

A packed frame is a concatenation of fields, and every offset of its parser is
the length of the fields in front.  -/

@[simp] theorem index_zero (x : α) : index (x :: b) 0 = .ok x := rfl

@[simp] theorem index_succ (x : α) (n : ℕ) : index (x :: b) (n + 1) = index b n := rfl

@[simp] theorem index_append (front : List α) (n : ℕ) :
    index (front ++ b) (front.length + n) = index b n := by
  rw [index, List.getElem?_append_right (by omega), Nat.add_sub_cancel_left, index]

@[simp] theorem index_length (front : List α) : index (front ++ b) front.length = index b 0 :=
  index_append front 0

theorem slice_middle (front field rest : List α)
    (hlo : lo = front.length) (hhi : hi = front.length + field.length) :
    slice (front ++ (field ++ rest)) lo hi = .ok field := by
  subst hlo hhi
  rw [slice_of_le (by omega) (by simp)]
  simp [List.take_append]

@[simp] theorem slice_succ (x : α) : slice (x :: b) (lo + 1) (hi + 1) = slice b lo hi := by
  simp [slice]

@[simp] theorem slice_append (front : List α) :
    slice (front ++ b) (front.length + lo) (front.length + hi) = slice b lo hi := by
  induction front with
  | nil => simp
  | cons x front ih => simpa [Nat.add_right_comm _ 1] using ih

@[simp] theorem slice_front (field rest : List α) :
    slice (field ++ rest) 0 field.length = .ok field := slice_middle [] field rest rfl (by simp)

@[simp] theorem slice_all (field : List α) : slice field 0 field.length = .ok field := by
  simpa using slice_front field []

theorem sliceFrom_append (front rest : List α) {lo : Int}
    (h : lo = front.length) : sliceFrom (front ++ rest) lo = .ok rest := by
  subst h
  rw [sliceFrom_of_le (by omega) (by rw [List.length_append]; omega)]
  simp

/-! ## Absence of panics -/

/-- The call returns, with a value or with an error. -/
def Returns (r : Result α) : Prop := r ≠ .error .panic

theorem returns_ok (a : α) : Returns (.ok a : Result α) := by
  simp [Returns]

theorem returns_pure (a : α) : Returns (pure a : Result α) := returns_ok a

theorem returns_fail (text : String) : Returns (fail text : Result α) := by
  simp [Returns, fail]

theorem returns_orWrap (text : String) (r : Except Error α) : Returns (orWrap text r) := by
  cases r with
  | ok a => exact returns_ok a
  | error e => simp [Returns, orWrap]

theorem Returns.bind (hr : Returns r) (hf : ∀ a, r = .ok a → Returns (f a)) :
    Returns (r >>= f) := by
  cases r with
  | ok a => exact hf a rfl
  | error e =>
    intro h
    apply hr
    cases h
    rfl

theorem Returns.index {i : ℕ} (hi : i < b.length)
    (hf : ∀ x, Returns (f x)) : Returns (Go.index b i >>= f) := by
  rw [index_of_lt hi]
  exact hf _

theorem Returns.slice {f : List α → Result β} (hlo : lo ≤ hi)
    (hhi : hi ≤ b.length) (hf : ∀ s, s.length = hi - lo → Returns (f s)) :
    Returns (Go.slice b lo hi >>= f) := by
  have hs := slice_of_le hlo hhi
  rw [hs]
  exact hf _ (slice_length hs)

theorem Returns.sliceFrom {lo : Int} {f : List α → Result β} (h0 : 0 ≤ lo)
    (h1 : lo ≤ b.length) (hf : ∀ s, s.length = b.length - lo.toNat → Returns (f s)) :
    Returns (Go.sliceFrom b lo >>= f) := by
  rw [sliceFrom_of_le h0 h1]
  exact hf _ List.length_drop

theorem Returns.map (hr : Returns r) (f : α → β) : Returns (f <$> r) := by
  cases r with
  | ok a => exact returns_ok (f a)
  | error e =>
    intro h
    apply hr
    cases h
    rfl

theorem Returns.ite [Decidable p] {r s : Result α}
    (hr : p → Returns r) (hs : ¬p → Returns s) : Returns (if p then r else s) := by
  by_cases h : p
  · rw [if_pos h]
    exact hr h
  · rw [if_neg h]
    exact hs h

theorem Returns.guard [Decidable p] (hr : ¬p → Returns r) : Returns (if p then fail text else r) :=
  .ite (fun _ => returns_fail text) hr

end Go
