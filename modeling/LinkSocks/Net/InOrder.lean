import Mathlib.Data.List.Sort
import Mathlib.Tactic.Common

/-!
# In-order acceptance of numbered messages

A receiver that has taken in the numbers `1, …, r` takes in a number exactly
when it is the next one, and ignores every other.  `drain r ns` is how far it
gets when the numbers `ns` arrive one after another.
-/

namespace Net

open List

def advance (r n : ℕ) : ℕ := if n = r + 1 then n else r

def drain (r : ℕ) (ns : List ℕ) : ℕ := ns.foldl advance r

variable {r r' n k : ℕ} {ns : List ℕ}

theorem le_advance (r n : ℕ) : r ≤ advance r n := by
  rw [advance]
  split <;> omega

theorem advance_mono (h : r ≤ r') (n : ℕ) : advance r n ≤ advance r' n := by
  rw [advance, advance]
  split <;> split <;> omega

theorem advance_le (hr : r ≤ k) (hn : n ≤ k) : advance r n ≤ k := by
  rw [advance]
  split <;> omega

@[simp] theorem drain_nil (r : ℕ) : drain r [] = r := rfl

@[simp] theorem drain_cons (r n : ℕ) (ns : List ℕ) :
    drain r (n :: ns) = drain (advance r n) ns := rfl

theorem drain_append (r : ℕ) (ns later : List ℕ) :
    drain r (ns ++ later) = drain (drain r ns) later := foldl_append ..

theorem le_drain (r : ℕ) (ns : List ℕ) : r ≤ drain r ns := by
  induction ns generalizing r with
  | nil => exact le_rfl
  | cons n ns ih => exact (le_advance r n).trans (ih _)

theorem drain_mono (h : r ≤ r') (ns : List ℕ) : drain r ns ≤ drain r' ns := by
  induction ns generalizing r r' with
  | nil => exact h
  | cons n ns ih => exact ih (advance_mono h n)

theorem drain_le (hr : r ≤ k) (hns : ∀ n ∈ ns, n ≤ k) : drain r ns ≤ k := by
  induction ns generalizing r with
  | nil => exact hr
  | cons n ns ih =>
    rw [forall_mem_cons] at hns
    exact ih (advance_le hr hns.1) hns.2

/-- What brings a receiver to the last number also brings one that is ahead
of it there. -/
theorem drain_eq_of_le (hr : r ≤ r') (hr' : r' ≤ k) (hns : ∀ n ∈ ns, n ≤ k)
    (h : drain r ns = k) : drain r' ns = k :=
  le_antisymm (drain_le hr' hns) (h.symm.trans_le (drain_mono hr ns))

theorem drain_of_sorted (hr : r ≤ k) (hsorted : ns.Pairwise (· ≤ ·))
    (hns : ∀ n ∈ ns, n ≤ k) (hall : ∀ n, r < n → n ≤ k → n ∈ ns) : drain r ns = k := by
  induction ns generalizing r with
  | nil =>
    by_contra hne
    have hlt : r < k := lt_of_le_of_ne hr hne
    simpa using hall k hlt le_rfl
  | cons n ns ih =>
    rw [pairwise_cons] at hsorted
    rw [forall_mem_cons] at hns
    rw [drain_cons]
    by_cases hold : n ≤ r
    · -- a number that was taken in before changes nothing
      have hadvance : advance r n = r := by
        rw [advance, if_neg (by omega)]
      rw [hadvance]
      refine ih hr hsorted.2 hns.2 fun m hm hmk => ?_
      exact (mem_cons.mp (hall m hm hmk)).resolve_left (by omega)
    · -- the smallest of the rest is the next one
      have hnext : n = r + 1 := by
        have hmem := hall (r + 1) (by omega) (by omega)
        rcases mem_cons.mp hmem with hmem | hmem
        · exact hmem.symm
        · have hle := hsorted.1 _ hmem
          omega
      have hadvance : advance r n = n := by
        rw [advance, if_pos hnext]
      rw [hadvance]
      refine ih hns.1 hsorted.2 hns.2 fun m hm hmk => ?_
      exact (mem_cons.mp (hall m (by omega) hmk)).resolve_left (by omega)

end Net
