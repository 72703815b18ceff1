import LinkSocks.Go.Maps

/-!
# Leases

A map records what its keys hold, and a list records what is taken.  Only some of
the values are of interest, such as those that are real resources and not markers.
-/

namespace Go

variable {K V : Type*} [DecidableEq K] {P : V → Prop} {m : GoMap K V}
  {taken taken' : List V} {k : K} {v : V}

/-- Of the values in `P`, none is held by two keys, and the list has exactly those
that are held. -/
structure Leased (P : V → Prop) (m : GoMap K V) (taken : List V) : Prop where
  exclusive : ∀ k k' v, P v → m.lookup k = some v → m.lookup k' = some v → k = k'
  mem_taken : ∀ v, P v → (v ∈ taken ↔ ∃ k, m.lookup k = some v)

theorem Leased.empty : Leased P (∅ : GoMap K V) [] where
  exclusive := fun _ _ _ _ h => nomatch h
  mem_taken := fun v _ => by simp

theorem Leased.insert (h : Leased P m taken) (hk : m.lookup k = none) (hfree : P v → v ∉ taken)
    (htaken : ∀ x, P x → (x ∈ taken' ↔ x = v ∨ x ∈ taken)) : Leased P (m.insert k v) taken' := by
  have hunheld : P v → ∀ j, m.lookup j ≠ some v :=
    fun hv j hj => hfree hv ((h.mem_taken v hv).mpr ⟨j, hj⟩)
  constructor
  · intro j j' x hx hj hj'
    rcases lookup_insert_cases hj with ⟨rfl, rfl⟩ | ⟨-, hold⟩ <;>
      rcases lookup_insert_cases hj' with ⟨rfl, heq⟩ | ⟨-, hold'⟩
    · rfl
    · exact absurd hold' (hunheld hx j')
    · exact absurd (heq ▸ hold) (hunheld (heq ▸ hx) j)
    · exact h.exclusive j j' x hx hold hold'
  · intro x hx
    rw [htaken x hx, h.mem_taken x hx]
    constructor
    · rintro (rfl | ⟨j, hj⟩)
      · exact ⟨k, AList.lookup_insert m⟩
      · refine ⟨j, ?_⟩
        rwa [AList.lookup_insert_ne]
        rintro rfl
        rw [hk] at hj
        cases hj
    · rintro ⟨j, hj⟩
      rcases lookup_insert_cases hj with ⟨-, rfl⟩ | ⟨-, hold⟩
      · exact .inl rfl
      · exact .inr ⟨j, hold⟩

theorem Leased.erase (h : Leased P m taken) (hk : m.lookup k = some v)
    (htaken : ∀ x, P x → (x ∈ taken' ↔ x ≠ v ∧ x ∈ taken)) : Leased P (m.erase k) taken' := by
  constructor
  · intro j j' x hx hj hj'
    exact h.exclusive j j' x hx (lookup_of_erase j x hj) (lookup_of_erase j' x hj')
  · intro x hx
    rw [htaken x hx, h.mem_taken x hx]
    constructor
    · rintro ⟨hne, j, hj⟩
      refine ⟨j, ?_⟩
      rwa [AList.lookup_erase_ne]
      rintro rfl
      exact hne (Option.some.inj (hj.symm.trans hk))
    · rintro ⟨j, hj⟩
      obtain ⟨hjk, hold⟩ := lookup_erase_cases hj
      refine ⟨?_, j, hold⟩
      -- whoever holds the value is the key that gives it back
      rintro rfl
      exact hjk (h.exclusive j k x hx hold hk)

end Go
