import LinkSocks.Go.Machine

/-!
# Maps that lose keys

Erasing several keys of a map, and the relation between a map and what is left
of it when only keys of a given list may have been erased.
-/

namespace Go

open List Option AList

variable {K V : Type*} [DecidableEq K] {gone gone' : List K}
  {m m' m'' : GoMap K V} {k : K} {keys : List K} {x : K} {v : V}

theorem lookup_erase_of_none (h : m.lookup k = none) (j : K) :
    (m.erase k).lookup j = m.lookup j := by
  by_cases hj : j = k
  · rw [hj, lookup_erase, h]
  · rw [lookup_erase_ne hj]

theorem lookup_erase_cases {j : K} (h : (m.erase k).lookup j = some v) :
    j ≠ k ∧ m.lookup j = some v := by
  refine ⟨?_, lookup_of_erase j v h⟩
  rintro rfl
  rw [lookup_erase] at h
  cases h

theorem lookup_insert_of_not_mem (hk : k ∉ m) {v w : V} {j : K}
    (h : m.lookup j = some w) : (m.insert k v).lookup j = some w := by
  have hj : j ≠ k := by
    rintro rfl
    exact hk (mem_keys_of_lookup h)
  rw [lookup_insert_ne hj]
  exact h

section Disjoint

variable {W : Type*} {n : GoMap K W}

theorem disjoint_insert_left (hk : k ∉ n) (h : ∀ x ∈ m, x ∉ n) {v : V} :
    ∀ x ∈ m.insert k v, x ∉ n := by
  intro x hx
  rcases (mem_insert _).mp hx with rfl | hmem
  exacts [hk, h x hmem]

theorem disjoint_insert_right (hk : k ∉ m) (h : ∀ x ∈ m, x ∉ n) {v : W} :
    ∀ x ∈ m, x ∉ n.insert k v := by
  intro x hx
  rw [mem_insert, not_or]
  exact ⟨fun heq => hk (heq ▸ hx), h x hx⟩

end Disjoint

/-- The map without any of the keys. -/
def eraseAll (m : GoMap K V) (keys : List K) : GoMap K V := keys.foldl (fun m k => m.erase k) m

theorem lookup_eraseAll (m : GoMap K V) (keys : List K) (k : K) :
    (eraseAll m keys).lookup k = if k ∈ keys then none else m.lookup k := by
  induction keys generalizing m with
  | nil => rfl
  | cons j keys ih =>
    rw [eraseAll, foldl_cons, ← eraseAll, ih]
    by_cases hj : k = j
    · subst hj
      simp [lookup_erase]
    · simp [mem_cons, hj, lookup_erase_ne hj]

theorem lookup_eraseAll_of_mem (h : k ∈ keys) : (eraseAll m keys).lookup k = none := by
  rw [lookup_eraseAll, if_pos h]

theorem lookup_eraseAll_of_not_mem (h : k ∉ keys) : (eraseAll m keys).lookup k = m.lookup k := by
  rw [lookup_eraseAll, if_neg h]

theorem mem_eraseAll : k ∈ eraseAll m keys ↔ k ∉ keys ∧ k ∈ m := by
  rw [← lookup_isSome, ← lookup_isSome, lookup_eraseAll]
  split <;> simp_all

/-- The loop over a map that deletes the entries with `p`. -/
def deleteIf (p : V → Bool) (m : GoMap K V) : GoMap K V :=
  eraseAll m ((m.entries.filter fun e => p e.2).map Sigma.fst)

theorem lookup_deleteIf (p : V → Bool) (m : GoMap K V) (k : K) :
    (deleteIf p m).lookup k = (m.lookup k).filter fun v => !p v := by
  have hkeys : k ∈ (m.entries.filter fun e => p e.2).map Sigma.fst ↔
      ∃ v, m.lookup k = some v ∧ p v = true := by
    constructor
    · intro hk
      obtain ⟨⟨k, v⟩, he, rfl⟩ := mem_map.mp hk
      obtain ⟨he, hp⟩ := mem_filter.mp he
      exact ⟨v, mem_lookup_iff.mpr he, hp⟩
    · rintro ⟨v, hv, hp⟩
      exact mem_map.mpr ⟨⟨k, v⟩, mem_filter.mpr ⟨mem_lookup_iff.mp hv, hp⟩, rfl⟩
  rw [deleteIf, lookup_eraseAll]
  cases hv : m.lookup k with
  | none =>
    rw [hv] at hkeys
    rw [if_neg (by simp [hkeys])]
    rfl
  | some v =>
    rw [hv] at hkeys
    cases hp : p v with
    | true =>
      rw [if_pos (hkeys.mpr ⟨v, rfl, hp⟩), filter_some, hp]
      rfl
    | false =>
      rw [if_neg (by simp [hkeys, hp]), filter_some, hp]
      rfl

theorem lookup_deleteIf_eq_some {p : V → Bool} :
    (deleteIf p m).lookup k = some v ↔ m.lookup k = some v ∧ p v = false := by
  rw [lookup_deleteIf, filter_eq_some_iff, Bool.not_eq_true']

/-- The map has lost some of the keys, and is the same otherwise. -/
def Restricts (gone : List K) (m m' : GoMap K V) : Prop :=
  ∀ x, m'.lookup x = m.lookup x ∨ x ∈ gone ∧ m'.lookup x = none

theorem Restricts.refl (gone : List K) (m : GoMap K V) : Restricts gone m m := fun _ => .inl rfl

theorem Restricts.of_eraseAll (h : keys ⊆ gone) (m : GoMap K V) :
    Restricts gone m (eraseAll m keys) := by
  intro x
  by_cases hx : x ∈ keys
  · exact .inr ⟨h hx, lookup_eraseAll_of_mem hx⟩
  · exact .inl (lookup_eraseAll_of_not_mem hx)

theorem Restricts.of_erase {k : K} (h : k ∈ gone) (m : GoMap K V) : Restricts gone m (m.erase k) :=
  have hsub : [k] ⊆ gone := by simpa using h
  .of_eraseAll hsub m

section

variable (h : Restricts gone m m')
include h

theorem Restricts.trans (h' : Restricts gone' m' m'') : Restricts (gone ++ gone') m m'' := by
  intro x
  rcases h' x with hsame' | ⟨hgone, hnone⟩
  · rcases h x with hsame | ⟨hgone, hnone⟩
    · exact .inl (hsame'.trans hsame)
    · exact .inr ⟨mem_append_left _ hgone, hsame'.trans hnone⟩
  · exact .inr ⟨mem_append_right _ hgone, hnone⟩

theorem Restricts.lookup (hx : m'.lookup x = some v) : m.lookup x = some v := by
  rcases h x with hsame | ⟨-, hnone⟩
  · rw [← hsame, hx]
  · rw [hnone] at hx
    contradiction

theorem Restricts.mem (hx : x ∈ m') : x ∈ m := by
  obtain ⟨v, hv⟩ := isSome_iff_exists.mp (lookup_isSome.mpr hx)
  exact lookup_isSome.mp (isSome_iff_exists.mpr ⟨v, h.lookup hv⟩)

theorem Restricts.lookup_none (hx : m.lookup x = none) : m'.lookup x = none :=
  (h x).elim (fun hsame => hsame.trans hx) And.right

theorem Restricts.same (hx : x ∉ gone) : m'.lookup x = m.lookup x :=
  (h x).resolve_right fun hgone => hx hgone.1

end

/-- The map has lost exactly these keys. -/
structure Erases (keys : List K) (m m' : GoMap K V) : Prop where
  erased : ∀ x ∈ keys, m'.lookup x = none
  kept : ∀ x, x ∉ keys → m'.lookup x = m.lookup x

theorem Erases.of_eraseAll (keys : List K) (m : GoMap K V) : Erases keys m (eraseAll m keys) :=
  ⟨fun _ => lookup_eraseAll_of_mem, fun _ => lookup_eraseAll_of_not_mem⟩

theorem Erases.refl (m : GoMap K V) : Erases [] m m := ⟨fun _ h => (nomatch h), fun _ _ => rfl⟩

theorem Erases.of_erase (k : K) (m : GoMap K V) : Erases [k] m (m.erase k) := .of_eraseAll [k] m

theorem Erases.trans {keys keys' : List K} (h : Erases keys m m')
    (h' : Erases keys' m' m'') : Erases (keys ++ keys') m m'' where
  erased := by
    intro x hx
    by_cases hsecond : x ∈ keys'
    · exact h'.erased x hsecond
    · rw [h'.kept x hsecond]
      exact h.erased x ((mem_append.mp hx).resolve_right hsecond)
  kept := by
    intro x hx
    rw [mem_append, not_or] at hx
    rw [h'.kept x hx.2, h.kept x hx.1]

theorem Erases.congr {keys keys' : List K} (h : Erases keys m m')
    (hkeys : ∀ x, x ∈ keys ↔ x ∈ keys') : Erases keys' m m' :=
  ⟨fun x hx => h.erased x ((hkeys x).mpr hx),
    fun x hx => h.kept x fun hmem => hx ((hkeys x).mp hmem)⟩

theorem Erases.lookup (h : Erases keys m m') (hx : m'.lookup x = some v) : m.lookup x = some v := by
  by_cases hmem : x ∈ keys
  · rw [h.erased x hmem] at hx
    contradiction
  · rwa [h.kept x hmem] at hx

theorem Erases.mem_iff (h : Erases keys m m') : x ∈ m' ↔ x ∉ keys ∧ x ∈ m := by
  rw [← lookup_isSome, ← lookup_isSome]
  by_cases hx : x ∈ keys
  · simp [h.erased x hx, hx]
  · simp [h.kept x hx, hx]

end Go
