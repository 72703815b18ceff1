import LinkSocks.Go.Machine

/-!
# Items in the hands of goroutines

Goroutines are kept in a map, and each holds some items while it moves them from one place
to another.  As long as at most one of them holds anything, what is in their hands is one
list, and a step of one of them changes it at one end or takes it away as a whole.
-/

namespace Go

open AList Function

section Held

variable {K V β : Type*} [DecidableEq K] {hold : V → List β} {m : GoMap K V}
  {k : K} {v : V}

/-- What the goroutine at a key holds. -/
def held (hold : V → List β) (m : GoMap K V) (k : K) : List β := ((m.lookup k).map hold).getD []

theorem held_of_lookup (h : m.lookup k = some v) : held hold m k = hold v := by
  rw [held, h]
  rfl

theorem held_of_lookup_none (h : m.lookup k = none) : held hold m k = [] := by
  rw [held, h]
  rfl

theorem held_insert (m : GoMap K V) (k : K) (v : V) :
    held hold (m.insert k v) = Function.update (held hold m) k (hold v) := by
  funext j
  by_cases hj : j = k
  · subst hj
    rw [update_self, held_of_lookup (lookup_insert m)]
  · rw [update_of_ne hj, held, lookup_insert_ne hj, held]

theorem held_erase (m : GoMap K V) (k : K) :
    held hold (m.erase k) = Function.update (held hold m) k [] := by
  funext j
  by_cases hj : j = k
  · subst hj
    rw [update_self, held_of_lookup_none (lookup_erase j m)]
  · rw [update_of_ne hj, held, lookup_erase_ne hj, held]

theorem held_insert_same (h : held hold m k = hold v) : held hold (m.insert k v) = held hold m := by
  rw [held_insert, ← h, update_eq_self]

theorem held_erase_same (h : held hold m k = []) : held hold (m.erase k) = held hold m := by
  rw [held_erase, ← h, update_eq_self]

theorem held_eq_nil (h : ∀ j ∈ m.keys, held hold m j = []) (j : K) : held hold m j = [] := by
  cases hj : m.lookup j with
  | none => exact held_of_lookup_none hj
  | some v => exact h j (mem_keys_of_lookup hj)

end Held

section HeldOnce

variable {K β : Type*} {k : K} {g : K → List β} {items : List β}

/-- One goroutine holds `items`, and no other holds anything. -/
def HeldOnce (g : K → List β) (items : List β) : Prop := ∃ k, g k = items ∧ ∀ j, j ≠ k → g j = []

theorem HeldOnce.of_none [Nonempty K] (h : ∀ k, g k = []) : HeldOnce g [] :=
  ⟨Classical.arbitrary K, h _, fun j _ => h j⟩

theorem HeldOnce.eq_nil (h : HeldOnce g items) (hnone : ∀ k, g k = []) : items = [] := by
  obtain ⟨k, rfl, -⟩ := h
  exact hnone k

theorem HeldOnce.of_ne_nil (h : HeldOnce g items) (hk : g k ≠ []) :
    g k = items ∧ ∀ j, j ≠ k → g j = [] := by
  obtain ⟨k', hk', hothers⟩ := h
  obtain rfl : k = k' := by
    by_contra hne
    exact hk (hothers k hne)
  exact ⟨hk', hothers⟩

theorem HeldOnce.update [DecidableEq K] (hothers : ∀ j, j ≠ k → g j = []) (items : List β) :
    HeldOnce (Function.update g k items) items := by
  refine ⟨k, update_self .., fun j hj => ?_⟩
  rw [update_of_ne hj]
  exact hothers j hj

end HeldOnce

end Go
