/-
# Theory.Streak -- counting how often in a row something happens along a run

Some steps of a machine carry a verdict.  A counter that goes up at `true`, back to
zero at `false` and stays otherwise counts the last verdicts in a row that were
`true`.

* `tally`: one step of such a counter.
* `record`: the verdicts of a run, read at the state before each step.
* `throughout_count_le_iff`: the counter stays within `k` along a run if and only if
  the record nowhere holds `k + 1` times `true` in a row.
-/
import Vibeio.Theory.Machine

namespace Vibeio.Theory

set_option autoImplicit false

universe u v

/-- What a verdict does to the counter. -/
def tally (count : Nat) : Option Bool → Nat
  | some true => count + 1
  | some false => 0
  | none => count

/-! ## Lists of verdicts -/

/-- A list of `true` at the front of `n` times `true` and then `false` is no longer
than `n`. -/
theorem le_of_replicate_prefix {m n : Nat} {rest : List Bool}
    (front : List.replicate m true <+: List.replicate n true ++ false :: rest) : m ≤ n := by
  induction n generalizing m with
  | zero =>
      cases m with
      | zero => exact Nat.le_refl 0
      | succ m =>
          rw [List.replicate_zero, List.nil_append, List.replicate_succ, List.cons_prefix_cons] at front
          cases front.1
  | succ n ih =>
      cases m with
      | zero => exact Nat.zero_le _
      | succ m =>
          rw [List.replicate_succ, List.replicate_succ, List.cons_append, List.cons_prefix_cons] at front
          exact Nat.succ_le_succ (ih front.2)

/-- A `false` after at most `k` times `true` separates what is before it from what
is behind. -/
theorem replicate_infix_false {k n : Nat} {rest : List Bool} (small : n ≤ k) :
    List.replicate (k + 1) true <:+: List.replicate n true ++ false :: rest ↔
      List.replicate (k + 1) true <:+: rest := by
  refine ⟨fun inside => ?_, fun inside => ?_⟩
  · induction n with
    | zero =>
        rw [List.replicate_zero, List.nil_append, List.infix_cons_iff] at inside
        rcases inside with front | behind
        · have := le_of_replicate_prefix (n := 0) front
          omega
        · exact behind
    | succ n ih =>
        have unrolled : List.replicate (n + 1) true ++ false :: rest =
            true :: (List.replicate n true ++ false :: rest) := rfl
        rw [unrolled, List.infix_cons_iff, ← unrolled] at inside
        rcases inside with front | behind
        · have := le_of_replicate_prefix front
          omega
        · exact ih (by omega) behind
  · exact List.infix_append_of_infix_right (List.infix_cons inside)

namespace Machine

variable {σ : Type u} {ι : Type v} (M : Machine σ ι)

/-- The verdicts of a run. -/
def record (verdict : σ → ι → Option Bool) (s : σ) : List ι → List Bool
  | [] => []
  | i :: rest => (verdict s i).toList ++ ((M.step s i).map fun next => record verdict next rest).getD []

theorem record_cons {verdict : σ → ι → Option Bool} {s next : σ} {i : ι} {rest : List ι}
    (stepped : M.step s i = some next) :
    M.record verdict s (i :: rest) = (verdict s i).toList ++ M.record verdict next rest := by
  rw [record, stepped]
  rfl

variable {M} {I : σ → Prop} {verdict : σ → ι → Option Bool} {count : σ → Nat}

/-- **The counter stays within `k` if and only if the record never holds `k + 1` times
`true` in a row**, the ones counted before the run included. -/
theorem throughout_count_le_iff (kept : ∀ s i t, I s → M.step s i = some t → I t)
    (counts : ∀ s i t, I s → M.step s i = some t → count t = tally (count s) (verdict s i))
    (k : Nat) {s t : σ} {labels : List ι} (holds : I s) (ran : M.exec s labels = some t) :
    M.Throughout (fun u => count u ≤ k) s labels ↔
      count s ≤ k ∧ ¬ List.replicate (k + 1) true <:+: List.replicate (count s) true ++ M.record verdict s labels := by
  induction labels generalizing s with
  | nil =>
      refine ⟨fun small => ⟨small, fun inside => ?_⟩, fun both => both.1⟩
      have short := inside.length_le
      have small' : count s ≤ k := small
      simp only [record, List.append_nil, List.length_replicate] at short
      omega
  | cons i rest ih =>
      obtain ⟨next, stepped, onward⟩ := M.exec_cons.mp ran
      have tail := ih (kept s i next holds stepped) onward
      have counted := counts s i next holds stepped
      have split : M.Throughout (fun u => count u ≤ k) s (i :: rest) ↔
          count s ≤ k ∧ M.Throughout (fun u => count u ≤ k) next rest := by
        refine ⟨fun all => ⟨all.1, all.2 next stepped⟩, fun both => ⟨both.1, fun other again => ?_⟩⟩
        cases stepped.symm.trans again
        exact both.2
      rw [split, tail, M.record_cons stepped, counted]
      -- the head of the record decides which count the tail starts from
      cases verdict s i with
      | none =>
          show _ ∧ _ ∧ _ ↔ _
          simp only [tally, Option.toList_none, List.nil_append]
          exact ⟨fun all => all.2, fun both => ⟨both.1, both⟩⟩
      | some starved =>
          cases starved with
          | false =>
              simp only [tally, Option.toList_some, List.cons_append, List.nil_append, List.replicate_zero,
                Nat.zero_le, true_and]
              refine and_congr_right fun small => not_congr ?_
              exact (replicate_infix_false small).symm
          | true =>
              have grown : List.replicate (count s + 1) true ++ M.record verdict next rest =
                  List.replicate (count s) true ++ true :: M.record verdict next rest := by
                rw [List.replicate_succ', List.append_assoc]
                rfl
              simp only [tally, Option.toList_some, List.cons_append, List.nil_append, ← grown]
              refine ⟨fun all => ⟨all.1, all.2.2⟩, fun both => ⟨both.1, ?_, both.2⟩⟩
              by_contra large
              apply both.2
              have full : count s + 1 = k + 1 := by omega
              rw [full]
              exact List.infix_append_left

end Machine

end Vibeio.Theory
