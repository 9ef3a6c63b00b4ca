/-
# Theory.Amortized -- sums along a run, bounded by a budget

Some steps of a machine are worth something: they are counted, or they are charged for.

* `total`: the sum of a weight over the steps of a run.
* `total_le`: a budget that every step lowers by what it gains, and raises by at most what
  it is charged for, bounds what the whole run gains.  The budget is a relation, so that
  it may carry an invariant, and so that a state may have several.
-/
import Vibeio.Theory.Machine

namespace Vibeio.Theory.Machine

set_option autoImplicit false

universe u v

variable {σ : Type u} {ι : Type v} (M : Machine σ ι)

/-- What the steps of a run weigh, each read at the state before it. -/
def total (weight : σ → ι → Nat) (s : σ) : List ι → Nat
  | [] => 0
  | i :: rest => weight s i + ((M.step s i).map fun next => total weight next rest).getD 0

theorem total_cons {weight : σ → ι → Nat} {s next : σ} {i : ι} {rest : List ι}
    (stepped : M.step s i = some next) :
    M.total weight s (i :: rest) = weight s i + M.total weight next rest := by
  rw [total, stepped]
  rfl

theorem total_zero (s : σ) (labels : List ι) : M.total (fun _ _ => 0) s labels = 0 := by
  induction labels generalizing s with
  | nil => rfl
  | cons i rest ih =>
      rw [total]
      cases M.step s i with
      | none => rfl
      | some next =>
          rw [Option.map_some, Option.getD_some, ih]

theorem total_mul (weight : σ → ι → Nat) (factor : Nat) (s : σ) (labels : List ι) :
    M.total (fun u i => weight u i * factor) s labels = M.total weight s labels * factor := by
  induction labels generalizing s with
  | nil => exact (Nat.zero_mul _).symm
  | cons i rest ih =>
      rw [total, total, Nat.add_mul]
      cases M.step s i with
      | none => rw [Option.map_none, Option.map_none, Option.getD_none, Nat.zero_mul]
      | some next => rw [Option.map_some, Option.map_some, Option.getD_some, Option.getD_some, ih]

variable {M} {C : σ → ι → Prop}

/-- **The budget rule.** -/
theorem total_le (Budget : Nat → σ → Prop) (gain charge : σ → ι → Nat)
    (pays : ∀ n s i t, Budget n s → C s i → M.step s i = some t →
      ∃ m, Budget m t ∧ m + gain s i ≤ n + charge s i)
    {n : Nat} {s t : σ} {labels : List ι} (budget : Budget n s) (ran : M.exec s labels = some t)
    (steps : M.AllSteps C s labels) :
    ∃ m, Budget m t ∧ m + M.total gain s labels ≤ n + M.total charge s labels := by
  induction labels generalizing s n with
  | nil =>
      cases ran
      exact ⟨n, budget, Nat.le_refl _⟩
  | cons i rest ih =>
      obtain ⟨next, stepped, onward⟩ := M.exec_cons.mp ran
      obtain ⟨m, left, first⟩ := pays n s i next budget steps.1 stepped
      obtain ⟨k, final, later⟩ := ih left onward (steps.2 next stepped)
      refine ⟨k, final, ?_⟩
      rw [M.total_cons stepped, M.total_cons stepped]
      omega

end Vibeio.Theory.Machine
