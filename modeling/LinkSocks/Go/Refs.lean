import LinkSocks.Go.Machine

/-!
# Maps to objects

A Go map whose values are pointers is a map to positions in a list of objects.
An object outlives its entry in the map for as long as somebody else holds the
pointer.  As long as every entry is given an object of its own, an operation on
the object of one key does not show at any other.
-/

namespace Go

open List

section Refs

variable {K T : Type*} [DecidableEq K] {refs refs' : GoMap K ℕ}
  {objects objects' : List T} {i : ℕ} {j k : K}

/-- The object of a key. -/
def deref (refs : GoMap K ℕ) (objects : List T) (k : K) : Option T :=
  (refs.lookup k).bind fun i => objects[i]?

/-- Every key has an object of its own. -/
structure Unshared (refs : GoMap K ℕ) (objects : List T) : Prop where
  lt : ∀ k i, refs.lookup k = some i → i < objects.length
  inj : ∀ j k i, refs.lookup j = some i → refs.lookup k = some i → j = k

/-- The object at `i` is that of `k`, or has no key any more. -/
structure BelongsTo (refs : GoMap K ℕ) (objects : List T) (i : ℕ) (k : K) : Prop where
  lt : i < objects.length
  key : ∀ j, refs.lookup j = some i → j = k

theorem Unshared.empty : Unshared (∅ : GoMap K ℕ) ([] : List T) where
  lt := fun _ _ h => nomatch h
  inj := fun _ _ _ h => nomatch h

theorem Unshared.belongsTo (h : Unshared refs objects) {k : K}
    (hk : refs.lookup k = some i) : BelongsTo refs objects i k where
  lt := h.lt k i hk
  key := fun j hj => h.inj j k i hj hk

theorem Unshared.mono (h : Unshared refs objects)
    (hrefs : ∀ k i, refs'.lookup k = some i → refs.lookup k = some i)
    (hlength : objects'.length = objects.length) : Unshared refs' objects' where
  lt := fun k i hk => hlength ▸ h.lt k i (hrefs k i hk)
  inj := fun j k i hj hk => h.inj j k i (hrefs j i hj) (hrefs k i hk)

theorem BelongsTo.mono {k : K} (h : BelongsTo refs objects i k)
    (hrefs : ∀ k i, refs'.lookup k = some i → refs.lookup k = some i)
    (hlength : objects'.length = objects.length) : BelongsTo refs' objects' i k where
  lt := hlength ▸ h.lt
  key := fun j hj => h.key j (hrefs j i hj)

theorem deref_erase_of_ne (hj : j ≠ k) : deref (refs.erase k) objects j = deref refs objects j := by
  rw [deref, deref, AList.lookup_erase_ne hj]

/-! ## A new object -/

theorem Unshared.alloc (h : Unshared refs objects) (k : K) (x : T) :
    Unshared (refs.insert k objects.length) (objects ++ [x]) := by
  have hcases : ∀ j i, (refs.insert k objects.length).lookup j = some i →
      j = k ∧ i = objects.length ∨ i < objects.length ∧ refs.lookup j = some i := by
    intro j i hj
    obtain ⟨hjk, hi⟩ | ⟨-, hold⟩ := lookup_insert_cases hj
    · exact .inl ⟨hjk, hi⟩
    · exact .inr ⟨h.lt j i hold, hold⟩
  constructor
  · intro j i hj
    rw [length_append, length_singleton]
    rcases hcases j i hj with ⟨-, rfl⟩ | ⟨hlt, -⟩ <;> omega
  · intro j j' i hj hj'
    rcases hcases j i hj with ⟨rfl, hi⟩ | ⟨hlt, hold⟩
    · rcases hcases j' i hj' with ⟨rfl, -⟩ | ⟨hlt', -⟩
      · rfl
      · omega
    · rcases hcases j' i hj' with ⟨-, hi'⟩ | ⟨-, hold'⟩
      · omega
      · exact h.inj j j' i hold hold'

theorem BelongsTo.alloc {j : K} (h : BelongsTo refs objects i j) (k : K)
    (x : T) : BelongsTo (refs.insert k objects.length) (objects ++ [x]) i j where
  lt := by
    have hlt := h.lt
    rw [length_append]
    omega
  key := by
    intro j' hj'
    obtain ⟨-, rfl⟩ | ⟨-, hold⟩ := lookup_insert_cases hj'
    · -- the new object is at another position
      exact absurd h.lt (lt_irrefl _)
    · exact h.key j' hold

theorem deref_alloc_self (k : K) (x : T) :
    deref (refs.insert k objects.length) (objects ++ [x]) k = some x := by
  simp [deref]

theorem deref_alloc_of_ne (h : Unshared refs objects) (hj : j ≠ k) (x : T) :
    deref (refs.insert k objects.length) (objects ++ [x]) j = deref refs objects j := by
  rw [deref, deref, AList.lookup_insert_ne hj]
  cases hlookup : refs.lookup j with
  | none => rfl
  | some i => exact getElem?_append_left (h.lt j i hlookup)

/-! ## A change to an object -/

theorem deref_of_lookup {k : K} (h : refs.lookup k = some i) :
    deref refs objects k = objects[i]? := by
  rw [deref, h, Option.bind_some]

theorem BelongsTo.deref_of_ne (h : BelongsTo refs objects i k)
    (hj : j ≠ k) (hobjects : ∀ m, m ≠ i → objects'[m]? = objects[m]?) :
    deref refs objects' j = deref refs objects j := by
  rw [deref, deref]
  cases hlookup : refs.lookup j with
  | none => rfl
  | some m =>
    refine hobjects m ?_
    intro hm
    exact hj (h.key j (hm ▸ hlookup))

end Refs

end Go
