/-
# Driver.Served -- whom a completion driver wakes

A flush or a wait handles completions first and wakes afterwards.  Seen from an operation that
waits with a waker: its request is under way until the call that reads its completion, and the
waker is among those this call has collected.

* `Collects`: what such a call, or a part of one, does to the operations.  Parts are put
  together by `refl`, `still`, `ends` and `trans`.
* `ServedDriver`: a `CompletionDriver` with its flush and its wait.
* `clientStep_keeps`: no call of another operation, and nothing else a future asks of the
  driver, touches a request under way.
-/
import Vibeio.Driver.Clients

namespace Vibeio.Driver

open Vibeio.Theory

set_option autoImplicit false

variable {D X E K : Type}

/-- From `s` to the driver `d`, with `wakers` collected on the way: whose request has ended, has
its waker among them. -/
structure Collects (api : CompletionDriver D X E K) (s : Clients D) (wakers : List Waker) (d : D) : Prop where
  kept : Clients.Kept api { s with driver := d }
  collects : ∀ op ticket waker, s.ops op = .waiting ticket waker → ticket ∈ api.owed s.driver →
    ticket ∈ api.owed d ∨ waker ∈ wakers

namespace Collects

variable {api : CompletionDriver D X E K} {s : Clients D} {wakers more : List Waker} {d d' : D}

theorem refl (kept : Clients.Kept api s) : Collects api s [] s.driver :=
  ⟨kept, fun _ _ _ _ owes => .inl owes⟩

/-- No request ends. -/
theorem still (kept : Clients.Kept api { s with driver := d }) (owed : api.owed d = api.owed s.driver) :
    Collects api s wakers d :=
  ⟨kept, fun _ _ _ _ owes => .inl (owed ▸ owes)⟩

/-- One request ends, and whom its slot names is woken. -/
theorem ends (kept : Clients.Kept api s) (kept' : Clients.Kept api { s with driver := d }) {ticket : Ticket}
    {woken : Option Waker} (owed : api.owed s.driver = ticket ::ₘ api.owed d) (result : Int)
    (wakes : woken = ((api.table s.driver).complete api.release ticket.token result).1) :
    Collects api s woken.toList d := by
  refine ⟨kept', fun op other waker waits owes => ?_⟩
  have owes' : ticket ∈ api.owed s.driver := by
    rw [owed]
    exact Multiset.mem_cons_self _ _
  rw [owed, Multiset.mem_cons] at owes
  rcases owes with rfl | left
  · rw [wakes]
    have own : ((api.table s.driver).complete api.release other.token result).1 = some waker :=
      kept.sound.finish_wakes waits owes' result
    rw [own]
    exact .inr (List.mem_singleton_self _)
  · exact .inl left

theorem trans (first : Collects api s wakers d) (second : Collects api { s with driver := d } more d') :
    Collects api s (wakers ++ more) d' := by
  refine ⟨second.kept, fun op ticket waker waits owes => ?_⟩
  rcases first.collects op ticket waker waits owes with left | woken
  · rcases second.collects op ticket waker waits left with still | later
    · exact .inl still
    · exact .inr (List.mem_append_right _ later)
  · exact .inr (List.mem_append_left _ woken)

end Collects

/-- What a runtime uses of a completion driver besides the calls of operations.  `asked` tells
the steps that futures ask for from those of the driver and the system. -/
structure ServedDriver (api : CompletionDriver D X E K) where
  Env : Type
  Kernel : Type
  asked : K → Bool
  kernel : D → Kernel → Option D
  shouldFlush : D → Bool
  flush : D → Env → Option (List Waker × D)
  wait : D → Option Nat → Env → Option (List Waker × D)
  asked_spec : ∀ d k d', api.Inv d → asked k = true → api.step d k = some d' → api.owed d' = api.owed d
  kernel_spec : ∀ d k d', kernel d k = some d' → (∃ l, api.step d l = some d') ∧ api.owed d' = api.owed d
  flush_spec : ∀ s env wakers d, Clients.Kept api s → flush s.driver env = some (wakers, d) →
    Collects api s wakers d
  wait_spec : ∀ s timeout env wakers d, Clients.Kept api s → wait s.driver timeout env = some (wakers, d) →
    Collects api s wakers d

namespace ServedDriver

variable {api : CompletionDriver D X E K} (served : ServedDriver api) {s s' : Clients D} {op : Nat}

/-- The futures call the driver; nothing it does on its own is theirs to do. -/
def isCall : ClientStep E K → Bool
  | .driver k => served.asked k
  | _ => true

/-- The step is no poll and no drop of `op`. -/
def LetsBe (op : Nat) : ClientStep E K → Prop
  | .poll other _ _ | .drop other => other ≠ op
  | .driver _ => True

theorem poll_keeps {other : Nat} {waker : Waker} {env : E} (kept : Clients.Kept api s) (apart : op ≠ other)
    (here : s.ops other ≠ .gone) (fits : s.ops other = .idle → api.fits s.driver env = true) :
    (s.pollCompletion api other waker env).2.ops op = s.ops op ∧
      ∀ ticket ∈ api.owed s.driver, ticket ∈ api.owed (s.pollCompletion api other waker env).2.driver := by
  unfold Clients.pollCompletion
  cases state : s.ops other with
  | gone => exact absurd state here
  | waiting ticket old =>
      have taken := api.get_spec s.driver ticket.token
      simp only
      cases asked : api.getCompletionResult s.driver ticket.token with
      | mk result d =>
          rw [asked] at taken
          have same : api.owed d = api.owed s.driver := taken.2.2.1
          cases result with
          | some result => exact ⟨if_neg apart, fun t member => same.symm ▸ member⟩
          | none =>
              have left : api.owed (api.setCompletionWaker d ticket.token waker) = api.owed d :=
                (api.set_spec d ticket.token waker).2.1
              exact ⟨if_neg apart, fun t member => (left.trans same).symm ▸ member⟩
  | idle =>
      have spec := api.submit_spec s.driver s.submitters.length waker env kept.inv (fits state)
      simp only
      cases submitted : api.submitCompletion s.driver s.submitters.length waker env with
      | mk answer d =>
          rw [submitted] at spec
          cases answer with
          | ok result => exact ⟨rfl, fun t member => spec.2.1.symm ▸ member⟩
          | submitErr err => exact ⟨rfl, fun t member => spec.2.1.symm ▸ member⟩
          | retry token =>
              have grown : api.owed d = _ ::ₘ api.owed s.driver := spec.2.2.1
              exact ⟨if_neg apart, fun t member => grown.symm ▸ Multiset.mem_cons_of_mem member⟩

/-- **A request under way is nobody else's.** -/
theorem clientStep_keeps {l : ClientStep E K} (kept : Clients.Kept api s) (call : served.isCall l = true)
    (alone : LetsBe op l) (stepped : s.step api l = some s') :
    s'.ops op = s.ops op ∧ ∀ ticket ∈ api.owed s.driver, ticket ∈ api.owed s'.driver := by
  cases l with
  | poll other waker env =>
      simp only [Clients.step, Option.ite_none_right_eq_some, Option.some.injEq] at stepped
      obtain ⟨⟨here, fits⟩, rfl⟩ := stepped
      exact poll_keeps kept (fun same => alone same.symm) here fits
  | drop other =>
      have apart : op ≠ other := fun same => alone same.symm
      simp only [Clients.step, Option.ite_none_right_eq_some, Option.some.injEq] at stepped
      obtain ⟨-, rfl⟩ := stepped
      unfold Clients.dropOperation
      split
      · rename_i ticket old waits
        have same : api.owed (api.ignoreCompletion s.driver ticket.token ⟨other⟩) = api.owed s.driver :=
          (api.ignore_spec s.driver ticket.token ⟨other⟩).2.1
        exact ⟨if_neg apart, fun t member => same.symm ▸ member⟩
      · exact ⟨if_neg apart, fun t member => member⟩
  | driver k =>
      obtain ⟨d, moved, rfl⟩ := Option.map_eq_some_iff.mp stepped
      have same := served.asked_spec s.driver k d kept.inv call moved
      exact ⟨rfl, fun t member => same.symm ▸ member⟩

end ServedDriver

end Vibeio.Driver
