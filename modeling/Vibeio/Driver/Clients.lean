/-
# Driver.Clients -- operation futures over a completion driver

The futures in `op/` all go through a completion driver the same way:
`poll_completion` takes the result or leaves its waker, and submits when it holds
no token; `drop` hands its buffers to the driver.  `CompletionDriver` is what such a
driver offers, with what its calls do to the completion table and to the requests
under way; a driver's own steps may finish one request each.

Operations and driver together refine the `Exchange` (`step_refines`), so its
results hold of every run over every such driver (`Kept.sound`).  What only a drop can
break is broken exactly at the drops that break it (`throughout_iff_drops`); slots leak
at those `Exchange` names (`unleaked_iff_dropsRunning`).
-/
import Vibeio.Driver.Exchange

namespace Vibeio.Driver

open Vibeio.Theory

set_option autoImplicit false

/-- What a step of a driver does to the exchange: nothing, or one request ends. -/
inductive Progress {X : Type} (release : X → X) (table table' : CompletionTable X)
    (owed owed' : Multiset Ticket) (finished finished' : List (Ticket × Int)) : Prop where
  | quiet (table_eq : table' = table) (owed_eq : owed' = owed) (finished_eq : finished' = finished)
  | ends (ticket : Ticket) (result : Int) (owes : ticket ∈ owed)
      (table_eq : table' = (table.complete release ticket.token result).2)
      (owed_eq : owed' = owed.erase ticket) (finished_eq : finished' = finished ++ [(ticket, result)])

/-- A completion driver: its state `D`, the environment's part `E` of a submission,
its own steps `K`, and what `Inv` keeps of it. -/
structure CompletionDriver (D X E K : Type) where
  table : D → CompletionTable X
  owed : D → Multiset Ticket
  finished : D → List (Ticket × Int)
  release : X → X
  submitCompletion : D → Nat → Waker → E → CompletionIoResult × D
  getCompletionResult : D → Nat → Option Int × D
  setCompletionWaker : D → Nat → Waker → D
  ignoreCompletion : D → Nat → IgnoredData → D
  step : D → K → Option D
  Start : D → Prop
  Inv : D → Prop
  /-- The slab hands out a vacant entry. -/
  fits : D → E → Bool
  start_inv : ∀ d, Start d → Inv d
  start_empty : ∀ d, Start d → (∀ k, (table d).get k = none) ∧ owed d = 0 ∧ finished d = []
  submit_inv : ∀ d serial waker e, Inv d → fits d e → Inv (submitCompletion d serial waker e).2
  submit_spec : ∀ d serial waker e, Inv d → fits d e →
    match submitCompletion d serial waker e with
    | (.retry token, d') => (table d).get token = none ∧
        (∃ context, table d' = (table d).insert token
          { waiter := some waker, completed := none, ignoredData := none, context := context }) ∧
        owed d' = ⟨token, serial⟩ ::ₘ owed d ∧ finished d' = finished d
    | (_, d') => table d' = table d ∧ owed d' = owed d ∧ finished d' = finished d
  get_inv : ∀ d token, Inv d → Inv (getCompletionResult d token).2
  get_spec : ∀ d token, (getCompletionResult d token).1 = ((table d).getCompletionResult token).1 ∧
    table (getCompletionResult d token).2 = ((table d).getCompletionResult token).2 ∧
    owed (getCompletionResult d token).2 = owed d ∧
    finished (getCompletionResult d token).2 = finished d
  set_inv : ∀ d token waker, Inv d → Inv (setCompletionWaker d token waker)
  set_spec : ∀ d token waker,
    table (setCompletionWaker d token waker) = (table d).setCompletionWaker token waker ∧
    owed (setCompletionWaker d token waker) = owed d ∧
    finished (setCompletionWaker d token waker) = finished d
  ignore_inv : ∀ d token data, Inv d → Inv (ignoreCompletion d token data)
  ignore_spec : ∀ d token data,
    table (ignoreCompletion d token data) = (table d).ignoreCompletion token data ∧
    owed (ignoreCompletion d token data) = owed d ∧
    finished (ignoreCompletion d token data) = finished d
  step_inv : ∀ d k d', Inv d → step d k = some d' → Inv d'
  step_progress : ∀ d k d', Inv d → step d k = some d' →
    Progress release (table d) (table d') (owed d) (owed d') (finished d) (finished d')

/-- A driver and the operations over it.  Who submitted what, and what was handed
out, is history. -/
structure Clients (D : Type) where
  driver : D
  ops : Nat → OpState
  submitters : List Nat
  delivered : List Delivery

inductive ClientStep (E K : Type) where
  | poll (op : Nat) (waker : Waker) (env : E)
  | drop (op : Nat)
  | driver (k : K)

inductive Poll where
  | pending
  | ready (output : Except IoError Nat)

/-- What `poll_completion` makes of a raw result. -/
def opOutput (result : Int) : Except IoError Nat :=
  if result < 0 then .error (.os (-result).toNat) else .ok result.toNat

namespace Clients

variable {D X E K : Type} (api : CompletionDriver D X E K)

def become (s : Clients D) (op : Nat) (state : OpState) : Nat → OpState :=
  fun o => if o = op then state else s.ops o

/-- `poll_completion`, which the futures share. -/
def pollCompletion (s : Clients D) (op : Nat) (waker : Waker) (env : E) : Poll × Clients D :=
  match s.ops op with
  | .waiting ticket _ =>
      match api.getCompletionResult s.driver ticket.token with
      | (some result, d) => (.ready (opOutput result), { s with
          driver := d, ops := s.become op .idle, delivered := s.delivered ++ [⟨op, ticket, result⟩] })
      | (none, d) => (.pending, { s with
          driver := api.setCompletionWaker d ticket.token waker
          ops := s.become op (.waiting ticket waker) })
  | _ =>
      match api.submitCompletion s.driver s.submitters.length waker env with
      | (.ok result, d) => (.ready (opOutput result), { s with driver := d })
      | (.retry token, d) => (.pending, { s with
          driver := d, ops := s.become op (.waiting ⟨token, s.submitters.length⟩ waker)
          submitters := s.submitters ++ [op] })
      | (.submitErr err, d) => (.ready (.error err), { s with driver := d })

/-- `drop` inside the runtime. -/
def dropOperation (s : Clients D) (op : Nat) : Clients D :=
  match s.ops op with
  | .waiting ticket _ => { s with
      driver := api.ignoreCompletion s.driver ticket.token ⟨op⟩, ops := s.become op .gone }
  | _ => { s with ops := s.become op .gone }

/-- An operation is polled and dropped while it exists; an idle one that is polled
submits, into a slot that is vacant. -/
def step (s : Clients D) : ClientStep E K → Option (Clients D)
  | .poll op waker env =>
      if s.ops op ≠ .gone ∧ (s.ops op = .idle → api.fits s.driver env) then
        some (s.pollCompletion api op waker env).2
      else none
  | .drop op => if s.ops op ≠ .gone then some (s.dropOperation api op) else none
  | .driver k => (api.step s.driver k).map fun d => { s with driver := d }

structure Initial (s : Clients D) : Prop where
  driver : api.Start s.driver
  ops : ∀ op, s.ops op = .idle
  submitters : s.submitters = []
  delivered : s.delivered = []

def machine : Machine (Clients D) (ClientStep E K) where
  start := Initial api
  step := fun s l => s.step api l

/-- What the exchange sees of a driver and its clients. -/
def view (s : Clients D) : Exchange X where
  table := api.table s.driver
  owed := api.owed s.driver
  finished := api.finished s.driver
  ops := s.ops
  submitters := s.submitters
  delivered := s.delivered

/-- What holds of a driver and its clients at all times: the driver's invariant, and
the exchange has come as far. -/
structure Kept (s : Clients D) : Prop where
  inv : api.Inv s.driver
  mirrored : (Exchange.machine api.release).Reachable (s.view api)

/-- An operation is dropped only while its slot has no result. -/
def DropsRunning (s : Clients D) : ClientStep E K → Prop
  | .drop op => ∀ ticket waker, s.ops op = .waiting ticket waker →
      ∀ c, (api.table s.driver).get ticket.token = some c → c.completed = none
  | _ => True

/-! ## Refinement -/

/-- The exchange makes the step `x`, or none, where the clients make the step `l`. -/
def Mirrors (l : ClientStep E K) (before after : Exchange X) : Prop :=
  (after = before ∧ ∀ op, l ≠ .drop op) ∨
    ∃ x, before.step api.release x = some after ∧ ∀ op, x = .drop op ↔ l = .drop op

variable {api}

theorem initial_view {s : Clients D} (initial : Initial api s) : Exchange.Initial (s.view api) := by
  obtain ⟨empty, nothingOwed, nothingFinished⟩ := api.start_empty s.driver initial.driver
  exact ⟨empty, nothingOwed, nothingFinished, initial.ops, initial.submitters, initial.delivered⟩

theorem poll_waiting_refines {s : Clients D} {op : Nat} {ticket : Ticket} {old : Waker}
    (waits : s.ops op = .waiting ticket old) (inv : api.Inv s.driver) (waker : Waker) (env : E) :
    api.Inv (s.pollCompletion api op waker env).2.driver ∧
      (s.view api).step api.release (.poll op waker) =
        some ((s.pollCompletion api op waker env).2.view api) := by
  obtain ⟨result_eq, table_eq, owed_eq, finished_eq⟩ := api.get_spec s.driver ticket.token
  have kept := api.get_inv s.driver ticket.token inv
  have unfolded : (s.view api).step api.release (.poll op waker) =
      some ((s.view api).poll op ticket waker) := by
    simp only [Exchange.step, view, waits]
  rw [unfolded, Option.some.injEq]
  unfold pollCompletion Exchange.poll
  simp only [waits]
  cases asked : api.getCompletionResult s.driver ticket.token with
  | mk result d =>
      rw [asked] at result_eq table_eq owed_eq finished_eq kept
      have lookup : (api.table s.driver).getCompletionResult ticket.token = (result, api.table d) :=
        Prod.ext result_eq.symm table_eq.symm
      cases result with
      | some result =>
          refine ⟨kept, ?_⟩
          simp only [view, lookup, owed_eq, finished_eq]
          rfl
      | none =>
          obtain ⟨set_table, set_owed, set_finished⟩ := api.set_spec d ticket.token waker
          refine ⟨api.set_inv d ticket.token waker kept, ?_⟩
          simp only [view, lookup, set_table, set_owed, set_finished, owed_eq, finished_eq]
          rfl

theorem poll_idle_refines {s : Clients D} {op : Nat} (idle : s.ops op = .idle) (inv : api.Inv s.driver)
    {env : E} (fits : api.fits s.driver env = true) (waker : Waker) :
    api.Inv (s.pollCompletion api op waker env).2.driver ∧
      ((s.pollCompletion api op waker env).2.view api = s.view api ∨
        ∃ token context, (s.view api).step api.release (.submit op token waker context) =
          some ((s.pollCompletion api op waker env).2.view api)) := by
  have kept := api.submit_inv s.driver s.submitters.length waker env inv fits
  have spec := api.submit_spec s.driver s.submitters.length waker env inv fits
  unfold pollCompletion
  simp only [idle]
  cases submitted : api.submitCompletion s.driver s.submitters.length waker env with
  | mk answer d =>
      rw [submitted] at kept spec
      cases answer with
      | ok result =>
          obtain ⟨table_eq, owed_eq, finished_eq⟩ := spec
          exact ⟨kept, .inl (by simp only [view, table_eq, owed_eq, finished_eq])⟩
      | submitErr err =>
          obtain ⟨table_eq, owed_eq, finished_eq⟩ := spec
          exact ⟨kept, .inl (by simp only [view, table_eq, owed_eq, finished_eq])⟩
      | retry token =>
          obtain ⟨vacant, ⟨context, table_eq⟩, owed_eq, finished_eq⟩ := spec
          refine ⟨kept, .inr ⟨token, context, ?_⟩⟩
          simp only [Exchange.step, view, idle, vacant, Exchange.submit, table_eq, owed_eq, finished_eq]
          rfl

theorem drop_refines {s : Clients D} {op : Nat} (here : s.ops op ≠ .gone) (inv : api.Inv s.driver) :
    api.Inv (s.dropOperation api op).driver ∧
      (s.view api).step api.release (.drop op) = some ((s.dropOperation api op).view api) := by
  unfold dropOperation
  cases state : s.ops op with
  | gone => exact absurd state here
  | idle =>
      refine ⟨inv, ?_⟩
      simp only [Exchange.step, view, state]
      rfl
  | waiting ticket waker =>
      obtain ⟨table_eq, owed_eq, finished_eq⟩ := api.ignore_spec s.driver ticket.token ⟨op⟩
      refine ⟨api.ignore_inv _ _ _ inv, ?_⟩
      simp only [Exchange.step, view, state, Exchange.drop, table_eq, owed_eq, finished_eq]
      rfl

theorem driver_refines {s : Clients D} {k : K} {d : D} (inv : api.Inv s.driver)
    (stepped : api.step s.driver k = some d) :
    Clients.view api { s with driver := d } = s.view api ∨
      ∃ ticket result, (s.view api).step api.release (.finish ticket result) =
        some (Clients.view api { s with driver := d }) := by
  cases api.step_progress s.driver k d inv stepped with
  | quiet table_eq owed_eq finished_eq =>
      exact .inl (by simp only [view, table_eq, owed_eq, finished_eq])
  | ends ticket result owes table_eq owed_eq finished_eq =>
      refine .inr ⟨ticket, result, ?_⟩
      simp only [Exchange.step, view, owes, if_true, Exchange.finish, table_eq, owed_eq, finished_eq]

/-- **Clients and driver refine the exchange**, one step by at most one. -/
theorem step_refines {s s' : Clients D} {l : ClientStep E K} (inv : api.Inv s.driver)
    (stepped : s.step api l = some s') :
    api.Inv s'.driver ∧ Mirrors api l (s.view api) (s'.view api) := by
  cases l with
  | poll op waker env =>
      simp only [step] at stepped
      split at stepped
      · rename_i admissible
        cases stepped
        cases state : s.ops op with
        | gone => exact absurd state admissible.1
        | waiting ticket old =>
            obtain ⟨kept, mirrored⟩ := poll_waiting_refines state inv waker env
            exact ⟨kept, .inr ⟨_, mirrored, by simp⟩⟩
        | idle =>
            obtain ⟨kept, quiet | ⟨token, context, mirrored⟩⟩ :=
              poll_idle_refines state inv (admissible.2 state) waker
            · exact ⟨kept, .inl ⟨quiet, by simp⟩⟩
            · exact ⟨kept, .inr ⟨_, mirrored, by simp⟩⟩
      · cases stepped
  | drop op =>
      simp only [step] at stepped
      split at stepped
      · rename_i here
        cases stepped
        obtain ⟨kept, mirrored⟩ := drop_refines here inv
        exact ⟨kept, .inr ⟨_, mirrored, by simp⟩⟩
      · cases stepped
  | driver k =>
      obtain ⟨d, moved, rfl⟩ := Option.map_eq_some_iff.mp stepped
      refine ⟨api.step_inv s.driver k d inv moved, ?_⟩
      obtain quiet | ⟨ticket, result, mirrored⟩ := driver_refines inv moved
      · exact .inl ⟨quiet, by simp⟩
      · exact .inr ⟨_, mirrored, by simp⟩

/-! ## Every run -/

theorem kept_initial {s : Clients D} (initial : Initial api s) : Kept api s :=
  ⟨api.start_inv _ initial.driver, Machine.Reachable.of_start _ (initial_view initial)⟩

theorem Kept.sound {s : Clients D} (kept : Kept api s) : Exchange.Sound (s.view api) :=
  Exchange.sound_of_reachable kept.mirrored

theorem Kept.step {s s' : Clients D} {l : ClientStep E K} (kept : Kept api s)
    (stepped : s.step api l = some s') : Kept api s' := by
  obtain ⟨inv, ⟨same, -⟩ | ⟨x, mirrored, -⟩⟩ := step_refines kept.inv stepped
  · exact ⟨inv, same ▸ kept.mirrored⟩
  · exact ⟨inv, Machine.Reachable.next _ kept.mirrored mirrored⟩

theorem kept_of_reachable {s : Clients D} (reachable : (machine api).Reachable s) :
    Kept api s :=
  Machine.invariant (M := machine api) (fun _ => kept_initial)
    (fun _ _ _ kept stepped => Kept.step kept stepped) reachable

/-- A property of the exchange that only drops can break, and that a drop breaks
exactly outside `C`, holds throughout exactly the runs whose drops are all in `C`. -/
theorem throughout_iff_drops {P : Exchange X → Prop} {C : Exchange X → Nat → Prop}
    (initially : ∀ x, Exchange.Initial x → P x)
    (kept : ∀ x l x', Exchange.Sound x → P x → (∀ op, l = .drop op → C x op) →
      x.step api.release l = some x' → P x')
    (broken : ∀ x op x', Exchange.Sound x → ¬ C x op → x.step api.release (.drop op) = some x' → ¬ P x')
    {s t : Clients D} {labels : List (ClientStep E K)} (initial : Initial api s)
    (ran : (machine api).exec s labels = some t) :
    (machine api).Throughout (fun s => P (s.view api)) s labels ↔
      (machine api).AllSteps (fun s l => ∀ op, l = .drop op → C (s.view api) op) s labels := by
  refine Machine.throughout_iff_allSteps (M := machine api) (I := fun s => Kept api s ∧ P (s.view api)) ?_
    (fun _ holds => holds.2) ?_ ⟨kept_initial initial, initially _ (initial_view initial)⟩ ran
  · rintro s l s' ⟨inv, holds⟩ inside stepped
    refine ⟨Kept.step inv stepped, ?_⟩
    obtain ⟨-, ⟨same, -⟩ | ⟨x, mirrored, drops⟩⟩ := step_refines inv.inv stepped
    · exact same ▸ holds
    · exact kept _ x _ inv.sound holds (fun op drop => inside op ((drops op).mp drop)) mirrored
  · rintro s l s' ⟨inv, -⟩ outside stepped
    simp only [not_forall] at outside
    obtain ⟨op, rfl, violated⟩ := outside
    obtain ⟨-, ⟨-, notDrop⟩ | ⟨x, mirrored, drops⟩⟩ := step_refines (l := .drop op) inv.inv stepped
    · exact absurd rfl (notDrop op)
    · cases (drops op).mpr rfl
      exact broken _ op _ inv.sound violated mirrored

/-- **Slots leak exactly at such drops**, over every run. -/
theorem unleaked_iff_dropsRunning {s t : Clients D} {labels : List (ClientStep E K)}
    (initial : Initial api s) (ran : (machine api).exec s labels = some t) :
    (machine api).Throughout (fun s => Exchange.Unleaked (s.view api)) s labels ↔
      (machine api).AllSteps (DropsRunning api) s labels := by
  have condition : DropsRunning api = fun s l => ∀ op, l = .drop op →
      Exchange.DropsRunning (s.view api) (.drop op) := by
    funext s l
    cases l <;> simp [DropsRunning, Exchange.DropsRunning, view]
  rw [condition]
  refine throughout_iff_drops (C := fun x op => Exchange.DropsRunning x (.drop op))
    (fun _ => Exchange.unleaked_initial) ?_ ?_ initial ran
  · intro x l x' sound unleaked running stepped
    refine unleaked.step sound ?_ stepped
    unfold Exchange.DropsRunning
    split
    · exact running _ rfl
    · trivial
  · intro x op x' _ late stepped
    exact Exchange.leaked_of_drop late stepped

end Clients

end Vibeio.Driver
