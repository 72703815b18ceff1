import Mathlib.Data.List.AList
import Mathlib.Tactic.Common

/-!
# Concurrent programs as step functions

A program of several goroutines is a state and a partial step function: an action names the
goroutine that moves and the outcome of what it does not decide itself, such as a write that
fails.  A run is a list of actions, so a statement about every list of actions is one about
every interleaving.
-/

namespace Go

open List Option AList

/-- A Go `map`. -/
abbrev GoMap (K V : Type*) := AList fun _ : K => V

section Lookup

variable {K V : Type*} [DecidableEq K] {m : GoMap K V} {j k : K} {v w : V}

theorem mem_keys_of_lookup (h : m.lookup k = some v) : k ∈ m.keys := by
  apply AList.mem_keys.mp
  rw [← AList.lookup_isSome, h]
  rfl

theorem lookup_insert_cases (h : (m.insert k v).lookup j = some w) :
    (j = k ∧ w = v) ∨ (j ≠ k ∧ m.lookup j = some w) := by
  by_cases hj : j = k
  · subst hj
    rw [lookup_insert] at h
    exact .inl ⟨rfl, (some.inj h).symm⟩
  · rw [lookup_insert_ne hj] at h
    exact .inr ⟨hj, h⟩

theorem lookup_of_erase (j : K) (w : V) (h : (m.erase k).lookup j = some w) :
    m.lookup j = some w := by
  by_cases hj : j = k
  · subst hj
    rw [lookup_erase] at h
    contradiction
  · rwa [lookup_erase_ne hj] at h

end Lookup

section Branches

variable {α β : Type*} {b : β}

/-- What a step has checked, and what it has led to. -/
theorem of_ite_some {p : Prop} [Decidable p] {a : β} (h : (if p then some a else none) = some b) :
    p ∧ b = a := by
  split_ifs at h with hp
  exact ⟨hp, (some.inj h).symm⟩

theorem of_bind_ite_some {o : Option α} {p : α → Prop} [DecidablePred p] {f : α → β}
    (h : (o.bind fun x => if p x then some (f x) else none) = some b) :
    ∃ x, o = some x ∧ p x ∧ b = f x := by
  obtain ⟨x, hx, hf⟩ := bind_eq_some_iff.mp h
  exact ⟨x, hx, of_ite_some hf⟩

end Branches

section Runs

variable {σ ι : Type*} {step : σ → ι → Option σ}

/-- The state after a list of actions, if each of them was possible. -/
def run (step : σ → ι → Option σ) : σ → List ι → Option σ
  | s, [] => some s
  | s, a :: actions => (step s a).bind fun s' => run step s' actions

/-- Every action of the list meets `guard` in the state it is taken from. -/
def Guarded (step : σ → ι → Option σ) (guard : σ → ι → Prop) : σ → List ι → Prop
  | _, [] => True
  | s, a :: actions => guard s a ∧ ∀ s', step s a = some s' → Guarded step guard s' actions

/-- Whether a run is guarded can be found out by running it. -/
instance Guarded.decidable (step : σ → ι → Option σ) (guard : σ → ι → Prop)
    [∀ s a, Decidable (guard s a)] : ∀ s actions, Decidable (Guarded step guard s actions)
  | _, [] => isTrue trivial
  | s, a :: actions =>
    match h : step s a with
    | none =>
      decidable_of_iff (guard s a)
        ⟨fun hguard => ⟨hguard, fun _ hs => nomatch h.symm.trans hs⟩, And.left⟩
    | some s' =>
      have := Guarded.decidable step guard s' actions
      decidable_of_iff (guard s a ∧ Guarded step guard s' actions)
        (and_congr_right fun _ =>
          ⟨fun hrest _ hs => Option.some.inj (h.symm.trans hs) ▸ hrest, fun hrest => hrest s' h⟩)

variable {guard : σ → ι → Prop} {actions : List ι} {s t : σ} {a : ι} {I P : σ → Prop}

theorem guarded_of_forall_mem
    (h : ∀ a ∈ actions, ∀ s, guard s a) (s : σ) : Guarded step guard s actions := by
  induction actions generalizing s with
  | nil => trivial
  | cons a actions ih =>
    exact ⟨h a mem_cons_self s, fun s' _ => ih (fun b hb => h b (mem_cons_of_mem a hb)) s'⟩

theorem run_cons (h : run step s (a :: actions) = some t) :
    ∃ s', step s a = some s' ∧ run step s' actions = some t := bind_eq_some_iff.mp h

theorem run_append (s : σ) (actions later : List ι) : run step s (actions ++ later) =
      (run step s actions).bind fun t => run step t later := by
  induction actions generalizing s with
  | nil => rfl
  | cons a actions ih =>
    simp only [cons_append, run]
    cases step s a with
    | none => rfl
    | some s' => exact ih s'

theorem Guarded.next (h : Guarded step guard s (actions ++ [a]))
    (hrun : run step s actions = some t) : guard t a := by
  induction actions generalizing s with
  | nil =>
    cases hrun
    exact h.1
  | cons b actions ih =>
    obtain ⟨s', hs', hrest⟩ := run_cons hrun
    exact ih (h.2 s' hs') hrest

/-- If steps that look the same lead from states that look the same to states
that look the same, so do runs. -/
theorem run_map_congr {τ κ : Type*} {f : σ → τ} {g : ι → κ}
    (h : ∀ s s' a a', f s = f s' → g a = g a' → (step s a).map f = (step s' a').map f)
    {s' : σ} (hs : f s = f s') {actions' : List ι} (hactions : actions.map g = actions'.map g) :
    (run step s actions).map f = (run step s' actions').map f := by
  induction actions generalizing s s' actions' with
  | nil =>
    rw [map_nil, eq_comm, map_eq_nil_iff] at hactions
    subst hactions
    exact congrArg some hs
  | cons a actions ih =>
    cases actions' with
    | nil => cases hactions
    | cons a' actions' =>
      simp only [map_cons, cons.injEq] at hactions
      have hmap := h s s' a a' hs hactions.1
      simp only [run]
      cases hstep : step s a with
      | none =>
        rw [hstep, map_none, eq_comm, map_eq_none_iff] at hmap
        rw [hmap]
        rfl
      | some t =>
        rw [hstep, eq_comm] at hmap
        obtain ⟨t', ht', hsame⟩ := map_eq_some_iff.mp hmap
        rw [ht']
        exact ih hsame.symm hactions.2

theorem run_invariant (hstep : ∀ s a s', I s → guard s a → step s a = some s' → I s')
    (hI : I s) (hguard : Guarded step guard s actions)
    (hrun : run step s actions = some t) : I t := by
  induction actions generalizing s with
  | nil =>
    cases hrun
    exact hI
  | cons a actions ih =>
    obtain ⟨s', hs', hrest⟩ := run_cons hrun
    exact ih (hstep s a s' hI hguard.1 hs') (hguard.2 s' hs') hrest

theorem run_preserves (hstep : ∀ s a s', I s → step s a = some s' → I s')
    (hI : I s) (hrun : run step s actions = some t) : I t := by
  have hguard : Guarded step (fun _ _ => True) s actions :=
    guarded_of_forall_mem (fun _ _ _ => trivial) s
  exact run_invariant (fun s a s' h _ => hstep s a s' h) hI hguard hrun

/-- `P` holds in every state that the run passes, the first and the last
included. -/
def Always (step : σ → ι → Option σ) (P : σ → Prop) : σ → List ι → Prop
  | s, [] => P s
  | s, a :: actions => P s ∧ ∀ s', step s a = some s' → Always step P s' actions

theorem Always.head (h : Always step P s actions) : P s := by
  cases actions with
  | nil => exact h
  | cons a actions => exact h.1

/-- When guarded steps preserve an invariant that implies `P`, and a step that
is not guarded leads out of `P`, the guarded runs are those along which `P`
holds. -/
theorem always_iff_guarded (hP : ∀ s, I s → P s)
    (hstep : ∀ s a s', I s → guard s a → step s a = some s' → I s')
    (hbreak : ∀ s a s', I s → ¬ guard s a → step s a = some s' → ¬ P s')
    (hI : I s) (hrun : run step s actions = some t) :
    Always step P s actions ↔ Guarded step guard s actions := by
  induction actions generalizing s with
  | nil => exact iff_of_true (hP s hI) trivial
  | cons a actions ih =>
    obtain ⟨s', hs', hrest⟩ := run_cons hrun
    constructor
    · rintro ⟨-, hlater⟩
      have hguard : guard s a := by
        by_contra hguard
        exact hbreak s a s' hI hguard hs' (hlater s' hs').head
      refine ⟨hguard, fun u hu => ?_⟩
      cases hs'.symm.trans hu
      exact (ih (hstep s a s' hI hguard hs') hrest).mp (hlater s' hs')
    · rintro ⟨hguard, hlater⟩
      refine ⟨hP s hI, fun u hu => ?_⟩
      cases hs'.symm.trans hu
      exact (ih (hstep s a s' hI hguard hs') hrest).mpr (hlater s' hs')

/-! ### Runs that are evaluated -/

theorem of_run_isSome {R : Prop} (h : (run step s actions).isSome = true)
    (hR : ∀ t, run step s actions = some t → R) : R := by
  obtain ⟨t, hrun⟩ := isSome_iff_exists.mp h
  exact hR t hrun

section

variable {Q : σ → Prop} (h : ∃ t ∈ run step s actions, P t)
include h

theorem exists_run : ∃ t, run step s actions = some t ∧ P t := h

/-- What is read off the end of a run, and what follows from it. -/
theorem exists_run_and_of (hQ : ∀ t, run step s actions = some t → P t → Q t) :
    ∃ t ∈ run step s actions, P t ∧ Q t := by
  obtain ⟨t, hrun, hP⟩ := h
  exact ⟨t, hrun, hP, hQ t hrun hP⟩

theorem exists_run_and (hQ : ∀ t, run step s actions = some t → Q t) :
    ∃ t ∈ run step s actions, P t ∧ Q t := exists_run_and_of h fun t hrun _ => hQ t hrun

end

end Runs

end Go
