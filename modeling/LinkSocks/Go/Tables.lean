import Mathlib.Data.List.Forall2
import Mathlib.Tactic.Common

/-!
# Lists as tables

Objects that a program creates and refers to are entries of a list here, and a
reference is an index.  These lemmas say what the table has after an entry was
replaced or added.
-/

namespace Go

open List Option

variable {α : Type*} {l : List α} {a b : α} {j k : ℕ}

theorem getElem?_set_of_some (h : l[k]? = some b) : (l.set k a)[k]? = some a :=
  List.getElem?_set_self (List.getElem?_eq_some_iff.mp h).1

theorem getElem?_set_cases (h : (l.set k a)[j]? = some b) :
    j = k ∧ b = a ∨ j ≠ k ∧ l[j]? = some b := by
  by_cases hj : j = k
  · subst hj
    have hlength := (List.getElem?_eq_some_iff.mp h).1
    rw [length_set] at hlength
    rw [getElem?_set_self hlength] at h
    exact .inl ⟨rfl, (some.inj h).symm⟩
  · rw [getElem?_set_ne (Ne.symm hj)] at h
    exact .inr ⟨hj, h⟩

theorem mem_set_of_some (h : l[k]? = some b) (a : α) : a ∈ l.set k a :=
  mem_of_getElem? (getElem?_set_of_some h)

theorem mem_set_of_ne {c : α} (h : l[k]? = some b) (hne : c ≠ b) (hc : c ∈ l) (a : α) :
    c ∈ l.set k a := by
  obtain ⟨j, hj⟩ := mem_iff_getElem?.mp hc
  have hjk : k ≠ j := by
    rintro rfl
    exact hne (some.inj (hj.symm.trans h))
  exact mem_of_getElem? ((getElem?_set_ne hjk).trans hj)

theorem getElem?_append_of_some (h : l[k]? = some b) (l' : List α) : (l ++ l')[k]? = some b := by
  rw [List.getElem?_append_left (List.getElem?_eq_some_iff.mp h).1]
  exact h

theorem getElem?_of_isPrefix {l' : List α} (hl : l <+: l') (h : l[k]? = some b) :
    l'[k]? = some b := by
  obtain ⟨rest, rfl⟩ := hl
  exact getElem?_append_of_some h rest

theorem getElem?_concat_cases (h : (l ++ [a])[j]? = some b) :
    l[j]? = some b ∨ j = l.length ∧ b = a := by
  rcases Nat.lt_trichotomy j l.length with hlt | rfl | hgt
  · rw [getElem?_append_left hlt] at h
    exact .inl h
  · rw [getElem?_concat_length] at h
    exact .inr ⟨rfl, (some.inj h).symm⟩
  · rw [getElem?_eq_none (by simp; omega)] at h
    cases h

section Rows

variable {β : Type*} {R : α → β → Prop} {l' : List β}

theorem exists_of_mem_left (h : List.Forall₂ R l l') {x : α} (hx : x ∈ l) : ∃ y ∈ l', R x y := by
  induction h with
  | nil => cases hx
  | cons hR _ ih =>
    obtain rfl | hx := mem_cons.mp hx
    · exact ⟨_, mem_cons_self, hR⟩
    · exact exists_mem_cons_of_exists (ih hx)

theorem exists_of_mem_right (h : List.Forall₂ R l l') {y : β} (hy : y ∈ l') : ∃ x ∈ l, R x y :=
  exists_of_mem_left h.flip hy

end Rows

end Go
