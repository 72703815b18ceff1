import Mathlib.Tactic.Common

/-!
# Methods that change state and return errors

A Go method that works on a receiver and may return an error is a function of the state
that gives a result and a new state; an error ends the method, and what it did to the
state stays.  These are the rules for one call after another.
-/

namespace Go

variable {ε σ τ α β : Type} {x : ExceptT ε (StateM σ) α} {f : α → ExceptT ε (StateM σ) β}
  {s s' : σ} {a : α} {b : β} {e : ε}

/-! ## One call after another -/

theorem run_bind_ok (h : x.run s = (.ok a, s')) (f : α → ExceptT ε (StateM σ) β) :
    (x >>= f).run s = (f a).run s' := by
  change (fun r : Except ε α × σ => ExceptT.bindCont f r.1 r.2) (x.run s) = _
  rw [h]
  rfl

theorem run_bind_error (h : x.run s = (.error e, s')) (f : α → ExceptT ε (StateM σ) β) :
    (x >>= f).run s = (.error e, s') := by
  change (fun r : Except ε α × σ => ExceptT.bindCont f r.1 r.2) (x.run s) = _
  rw [h]
  rfl

theorem run_get_bind (f : σ → ExceptT ε (StateM σ) β) (s : σ) :
    (get >>= f).run s = (f s).run s := rfl

theorem run_bind_cases (x : ExceptT ε (StateM σ) α) (f : α → ExceptT ε (StateM σ) β) (s : σ) :
    (∃ a s', x.run s = (.ok a, s') ∧ (x >>= f).run s = (f a).run s') ∨
      ∃ e s', x.run s = (.error e, s') ∧ (x >>= f).run s = (.error e, s') := by
  cases hx : x.run s with
  | mk result s' =>
    cases result with
    | ok a => exact .inl ⟨a, s', rfl, run_bind_ok hx f⟩
    | error e => exact .inr ⟨e, s', rfl, run_bind_error hx f⟩

theorem ok_of_run_bind (h : (x >>= f).run s = (.ok b, s')) :
    ∃ a s₁, x.run s = (.ok a, s₁) ∧ (f a).run s₁ = (.ok b, s') := by
  obtain ⟨a, s₁, hx, hrun⟩ | ⟨e, s₁, -, hrun⟩ := run_bind_cases x f s
  · exact ⟨a, s₁, hx, hrun.symm.trans h⟩
  · cases hrun.symm.trans h

/-! ## What a method leaves alone -/

/-- The method does not change `g` of the state, whether it returns or fails. -/
def Preserves (g : σ → τ) (x : ExceptT ε (StateM σ) α) : Prop := ∀ s, g (x.run s).2 = g s

namespace Preserves

variable {g : σ → τ}

theorem pure (a : α) : Preserves g (Pure.pure a : ExceptT ε (StateM σ) α) := fun _ => rfl

theorem throw (e : ε) : Preserves g (MonadExcept.throw e : ExceptT ε (StateM σ) α) := fun _ => rfl

theorem bind (hx : Preserves g x) (hf : ∀ a, Preserves g (f a)) : Preserves g (x >>= f) := by
  intro s
  obtain ⟨a, s', hrun, heq⟩ | ⟨e, s', hrun, heq⟩ := run_bind_cases x f s
  · rw [heq, hf a s', ← hx s, hrun]
  · rw [heq, ← hx s, hrun]

theorem ite {p : Prop} [Decidable p] {y : ExceptT ε (StateM σ) α} (hx : Preserves g x)
    (hy : Preserves g y) : Preserves g (if p then x else y) := by
  split
  · exact hx
  · exact hy

/-- If something has changed in the end, then a first call that changes nothing has
returned. -/
theorem returns_of_ne (hx : Preserves g x) (h : g ((x >>= f).run s).2 ≠ g s) :
    ∃ a s', x.run s = (.ok a, s') ∧ g s' = g s ∧ g ((f a).run s').2 ≠ g s' := by
  obtain ⟨a, s', hrun, heq⟩ | ⟨e, s', hrun, heq⟩ := run_bind_cases x f s
  · have hsame : g s' = g s := by rw [← hx s, hrun]
    refine ⟨a, s', hrun, hsame, ?_⟩
    rw [hsame, ← heq]
    exact h
  · refine absurd ?_ h
    rw [heq, ← hx s, hrun]

end Preserves

end Go
