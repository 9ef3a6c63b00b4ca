/-
# Theory.Machine -- partial machines, their runs, and rules for invariants

A machine has start states and a partial step function on labels.  A label
carries every choice the machine does not make itself (inputs, the environment,
the scheduler), so a run is a list of labels and a fixed run can be evaluated.
`step s i = none` says that label `i` cannot happen in `s`.

* `invariant`: a predicate that holds at the start and survives every step holds
  in every reachable state.
* `throughout_of_allSteps`: the same along one run whose steps all satisfy a
  condition on the state before the step.
* `throughout_iff_allSteps`: when a step outside the condition breaks the
  property at once, the condition is exact for whole runs.
-/
import Mathlib.Tactic.ByContra

namespace Vibeio.Theory

set_option autoImplicit false

universe u v

structure Machine (σ : Type u) (ι : Type v) where
  start : σ → Prop
  step : σ → ι → Option σ

namespace Machine

variable {σ : Type u} {ι : Type v} (M : Machine σ ι)

/-- The state after a run, if every label of it can happen. -/
def exec (s : σ) : List ι → Option σ
  | [] => some s
  | i :: rest => (M.step s i).bind fun next => exec next rest

/-- The states some run from a start state ends in. -/
def Reachable (s : σ) : Prop := ∃ first labels, M.start first ∧ M.exec first labels = some s

/-- Every state a run passes through, both ends included, satisfies `P`. -/
def Throughout (P : σ → Prop) (s : σ) : List ι → Prop
  | [] => P s
  | i :: rest => P s ∧ ∀ next, M.step s i = some next → Throughout P next rest

/-- Every step of a run satisfies `C`, read at the state before the step. -/
def AllSteps (C : σ → ι → Prop) (s : σ) : List ι → Prop
  | [] => True
  | i :: rest => C s i ∧ ∀ next, M.step s i = some next → AllSteps C next rest

@[simp] theorem exec_nil (s : σ) : M.exec s [] = some s := rfl

theorem exec_cons {s t : σ} {i : ι} {rest : List ι} :
    M.exec s (i :: rest) = some t ↔ ∃ next, M.step s i = some next ∧ M.exec next rest = some t := by
  simp only [exec, Option.bind_eq_some_iff]

theorem exec_append {s t : σ} {front back : List ι} :
    M.exec s (front ++ back) = some t ↔
      ∃ middle, M.exec s front = some middle ∧ M.exec middle back = some t := by
  induction front generalizing s with
  | nil => simp
  | cons i rest ih =>
      rw [List.cons_append, exec_cons]
      constructor
      · rintro ⟨next, stepped, onward⟩
        obtain ⟨middle, first, second⟩ := ih.mp onward
        exact ⟨middle, M.exec_cons.mpr ⟨next, stepped, first⟩, second⟩
      · rintro ⟨middle, first, second⟩
        obtain ⟨next, stepped, onward⟩ := M.exec_cons.mp first
        exact ⟨next, stepped, ih.mpr ⟨middle, onward, second⟩⟩

theorem Reachable.of_start {s : σ} (starts : M.start s) : M.Reachable s := ⟨s, [], starts, rfl⟩

theorem Reachable.next {s t : σ} {i : ι} (reachable : M.Reachable s) (stepped : M.step s i = some t) :
    M.Reachable t := by
  obtain ⟨first, labels, starts, ran⟩ := reachable
  refine ⟨first, labels ++ [i], starts, M.exec_append.mpr ⟨s, ran, ?_⟩⟩
  exact M.exec_cons.mpr ⟨t, stepped, rfl⟩

/-- Some run leads from `s` to `t`. -/
def Runs (s t : σ) : Prop := ∃ labels, M.exec s labels = some t

variable {M} in
theorem Runs.refl (s : σ) : M.Runs s s := ⟨[], rfl⟩

variable {M} in
theorem Runs.trans {a b c : σ} (first : M.Runs a b) (second : M.Runs b c) : M.Runs a c := by
  obtain ⟨front, ranFront⟩ := first
  obtain ⟨back, ranBack⟩ := second
  exact ⟨front ++ back, M.exec_append.mpr ⟨b, ranFront, ranBack⟩⟩

variable {M} in
theorem Runs.of_step {s t : σ} (i : ι) (stepped : M.step s i = some t) : M.Runs s t :=
  ⟨[i], M.exec_cons.mpr ⟨t, stepped, rfl⟩⟩

/-- A machine whose steps mirror those of another mirrors its runs. -/
theorem exec_map {τ : Type*} {κ : Type*} {N : Machine τ κ} {f : σ → τ} {g : ι → κ}
    (mirrored : ∀ s i, N.step (f s) (g i) = (M.step s i).map f) (s : σ) (labels : List ι) :
    N.exec (f s) (labels.map g) = (M.exec s labels).map f := by
  induction labels generalizing s with
  | nil => rfl
  | cons i rest ih =>
      simp only [List.map_cons, exec, mirrored]
      cases M.step s i with
      | none => rfl
      | some next => exact ih next

variable {M} in
theorem AllSteps.cons {C : σ → ι → Prop} {s next : σ} {i : ι} {rest : List ι} (head : C s i)
    (stepped : M.step s i = some next) (tail : M.AllSteps C next rest) : M.AllSteps C s (i :: rest) := by
  refine ⟨head, fun other again => ?_⟩
  cases stepped.symm.trans again
  exact tail

/-! ## Invariants -/

variable {M} {I : σ → Prop}

/-- What one step preserves, a whole run preserves. -/
theorem exec_invariant (kept : ∀ s i t, I s → M.step s i = some t → I t) {s t : σ} {labels : List ι}
    (holds : I s) (ran : M.exec s labels = some t) : I t := by
  induction labels generalizing s with
  | nil => cases ran; exact holds
  | cons i rest ih =>
      obtain ⟨next, stepped, onward⟩ := M.exec_cons.mp ran
      exact ih (kept s i next holds stepped) onward

/-- **The invariant rule.** -/
theorem invariant (initial : ∀ s, M.start s → I s) (kept : ∀ s i t, I s → M.step s i = some t → I t)
    {s : σ} (reachable : M.Reachable s) : I s := by
  obtain ⟨first, labels, starts, ran⟩ := reachable
  exact exec_invariant kept (initial first starts) ran

variable {P : σ → Prop} {C : σ → ι → Prop}

theorem Throughout.head {s : σ} {labels : List ι} (holds : M.Throughout P s labels) : P s := by
  cases labels with
  | nil => exact holds
  | cons i rest => exact holds.1

/-- What every step keeps holds throughout every run. -/
theorem throughout_of_kept (kept : ∀ s i t, I s → M.step s i = some t → I t) {s : σ} (holds : I s)
    (labels : List ι) : M.Throughout I s labels := by
  induction labels generalizing s with
  | nil => exact holds
  | cons i rest ih => exact ⟨holds, fun next stepped => ih (kept s i next holds stepped)⟩

theorem Throughout.mono {Q : σ → Prop} (weaker : ∀ s, P s → Q s) {s : σ} {labels : List ι}
    (holds : M.Throughout P s labels) : M.Throughout Q s labels := by
  induction labels generalizing s with
  | nil => exact weaker s holds
  | cons i rest ih => exact ⟨weaker s holds.1, fun next stepped => ih (holds.2 next stepped)⟩

/-- An invariant kept by the steps that satisfy `C` holds throughout every run
made of such steps. -/
theorem throughout_of_allSteps (kept : ∀ s i t, I s → C s i → M.step s i = some t → I t)
    (enough : ∀ s, I s → P s) {s : σ} {labels : List ι} (holds : I s) (steps : M.AllSteps C s labels) :
    M.Throughout P s labels := by
  induction labels generalizing s with
  | nil => exact enough s holds
  | cons i rest ih =>
      refine ⟨enough s holds, fun next stepped => ?_⟩
      exact ih (kept s i next holds steps.1 stepped) (steps.2 next stepped)

/-- What an invariant and the condition give for single steps, they give for every
step of such a run. -/
theorem allSteps_of_allSteps {D : σ → ι → Prop}
    (kept : ∀ s i t, I s → C s i → M.step s i = some t → I t) (enough : ∀ s i, I s → C s i → D s i)
    {s : σ} {labels : List ι} (holds : I s) (steps : M.AllSteps C s labels) : M.AllSteps D s labels := by
  induction labels generalizing s with
  | nil => trivial
  | cons i rest ih =>
      refine ⟨enough s i holds steps.1, fun next stepped => ?_⟩
      exact ih (kept s i next holds steps.1 stepped) (steps.2 next stepped)

/-- **The condition is exact**: a run that can happen keeps `P` throughout if and
only if each of its steps satisfies `C`, provided a step outside `C` breaks `P`. -/
theorem throughout_iff_allSteps (kept : ∀ s i t, I s → C s i → M.step s i = some t → I t)
    (enough : ∀ s, I s → P s) (broken : ∀ s i t, I s → ¬ C s i → M.step s i = some t → ¬ P t)
    {s t : σ} {labels : List ι} (holds : I s) (ran : M.exec s labels = some t) :
    M.Throughout P s labels ↔ M.AllSteps C s labels := by
  refine ⟨fun throughout => ?_, throughout_of_allSteps kept enough holds⟩
  induction labels generalizing s with
  | nil => trivial
  | cons i rest ih =>
      obtain ⟨next, stepped, onward⟩ := M.exec_cons.mp ran
      have tail := throughout.2 next stepped
      have meets : C s i := by
        by_contra outside
        exact broken s i next holds outside stepped tail.head
      refine ⟨meets, fun other again => ?_⟩
      cases stepped.symm.trans again
      exact ih (kept s i next holds meets stepped) onward tail

end Machine

end Vibeio.Theory
