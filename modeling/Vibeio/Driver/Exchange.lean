/-
# Driver.Exchange -- operations and their completions, without a driver

What a completion driver is for: an operation submits a request under a slot of
the completion table, the operating system owes that request a completion, the
completion's result goes to the operation that submitted it.  The table is the
drivers' own; the requests the system still owes are a multiset, and who submitted
what, what has finished and what was handed out is kept as history.

* `Sound`: what keeps the slots, the requests and the operations in step.  It
  holds in every reachable state (`sound_of_reachable`).
* `sound_of_reachable` and the lemmas after it are what the drivers use: a result
  is the submitter's own, a vacant slot has no request under way, a finished
  request wakes the waker of its latest poll.
* `Unleaked`: every occupied slot belongs to a waiting operation or to a request
  under way.  It survives every step but one (`Unleaked.step`): dropping an
  operation whose result is already in the slot.
-/
import Mathlib.Algebra.Order.Group.Multiset
import Mathlib.Data.Multiset.MapFold
import Mathlib.Tactic.Abel
import Vibeio.Driver.Basic
import Vibeio.Theory.Machine

namespace Vibeio.Driver

open Vibeio.Theory

set_option autoImplicit false

/-- A request the system owes a completion: its slot, and the number of its
submission. -/
structure Ticket where
  token : Nat
  serial : Nat
  deriving DecidableEq, Repr

/-- An operation future.  While it waits, `completion_token` is the ticket's token;
the serial number and the waker of its latest poll are history. -/
inductive OpState where
  | idle
  | waiting (ticket : Ticket) (waker : Waker)
  | gone
  deriving DecidableEq, Repr

/-- A result handed to an operation. -/
structure Delivery where
  op : Nat
  ticket : Ticket
  result : Int
  deriving DecidableEq, Repr

structure Exchange (X : Type) where
  table : CompletionTable X
  owed : Multiset Ticket
  finished : List (Ticket × Int)
  ops : Nat → OpState
  submitters : List Nat
  delivered : List Delivery

inductive ExchangeStep (X : Type) where
  | submit (op token : Nat) (waker : Waker) (context : X)
  | poll (op : Nat) (waker : Waker)
  | drop (op : Nat)
  | finish (ticket : Ticket) (result : Int)

namespace Exchange

variable {X : Type} (release : X → X)

/-- Operation `op` is now in state `state`. -/
def become (x : Exchange X) (op : Nat) (state : OpState) : Nat → OpState :=
  fun o => if o = op then state else x.ops o

def submit (x : Exchange X) (op token : Nat) (waker : Waker) (context : X) : Exchange X :=
  let ticket : Ticket := ⟨token, x.submitters.length⟩
  { x with
    table := x.table.insert token
      { waiter := some waker, completed := none, ignoredData := none, context := context }
    owed := ticket ::ₘ x.owed
    ops := x.become op (.waiting ticket waker)
    submitters := x.submitters ++ [op] }

/-- A poll of a waiting operation takes its result or leaves its waker. -/
def poll (x : Exchange X) (op : Nat) (ticket : Ticket) (waker : Waker) : Exchange X :=
  match x.table.getCompletionResult ticket.token with
  | (some result, table) =>
      { x with table := table, ops := x.become op .idle
               delivered := x.delivered ++ [⟨op, ticket, result⟩] }
  | (none, table) =>
      { x with table := table.setCompletionWaker ticket.token waker
               ops := x.become op (.waiting ticket waker) }

def drop (x : Exchange X) (op : Nat) (ticket : Ticket) : Exchange X :=
  { x with table := x.table.ignoreCompletion ticket.token ⟨op⟩, ops := x.become op .gone }

def finish (x : Exchange X) (ticket : Ticket) (result : Int) : Exchange X :=
  { x with table := (x.table.complete release ticket.token result).2
           owed := x.owed.erase ticket, finished := x.finished ++ [(ticket, result)] }

def step (x : Exchange X) : ExchangeStep X → Option (Exchange X)
  | .submit op token waker context =>
      match x.ops op, x.table.get token with
      | .idle, none => some (x.submit op token waker context)
      | _, _ => none
  | .poll op waker =>
      match x.ops op with
      | .waiting ticket _ => some (x.poll op ticket waker)
      | _ => none
  | .drop op =>
      match x.ops op with
      | .waiting ticket _ => some (x.drop op ticket)
      | .idle => some { x with ops := x.become op .gone }
      | .gone => none
  | .finish ticket result => if ticket ∈ x.owed then some (x.finish release ticket result) else none

structure Initial (x : Exchange X) : Prop where
  table : ∀ k, x.table.get k = none
  owed : x.owed = 0
  finished : x.finished = []
  ops : ∀ op, x.ops op = .idle
  submitters : x.submitters = []
  delivered : x.delivered = []

def machine : Machine (Exchange X) (ExchangeStep X) where
  start := Initial
  step := fun x l => x.step release l

/-- Everything a step can do. -/
theorem step_cases {x x' : Exchange X} {l : ExchangeStep X} (stepped : x.step release l = some x') :
    (∃ op token waker context, l = .submit op token waker context ∧ x.ops op = .idle ∧
        x.table.get token = none ∧ x' = x.submit op token waker context) ∨
      (∃ op ticket old waker, l = .poll op waker ∧ x.ops op = .waiting ticket old ∧
        x' = x.poll op ticket waker) ∨
      (∃ op ticket waker, l = .drop op ∧ x.ops op = .waiting ticket waker ∧ x' = x.drop op ticket) ∨
      (∃ op, l = .drop op ∧ x.ops op = .idle ∧ x' = { x with ops := x.become op .gone }) ∨
      (∃ ticket result, l = .finish ticket result ∧ ticket ∈ x.owed ∧
        x' = x.finish release ticket result) := by
  cases l with
  | submit op token waker context =>
      simp only [step] at stepped
      split at stepped
      · rename_i idle vacant
        cases stepped
        exact .inl ⟨op, token, waker, context, rfl, idle, vacant, rfl⟩
      · cases stepped
  | poll op waker =>
      simp only [step] at stepped
      split at stepped
      · rename_i ticket old waits
        cases stepped
        exact .inr (.inl ⟨op, ticket, old, waker, rfl, waits, rfl⟩)
      · cases stepped
  | drop op =>
      simp only [step] at stepped
      split at stepped
      · rename_i ticket waker waits
        cases stepped
        exact .inr (.inr (.inl ⟨op, ticket, waker, rfl, waits, rfl⟩))
      · rename_i idle
        cases stepped
        exact .inr (.inr (.inr (.inl ⟨op, rfl, idle, rfl⟩)))
      · cases stepped
  | finish ticket result =>
      simp only [step] at stepped
      split at stepped
      · rename_i owes
        cases stepped
        exact .inr (.inr (.inr (.inr ⟨ticket, result, rfl, owes, rfl⟩)))
      · cases stepped

/-- What is in the slot of a waiting operation: nothing yet, and the request is
under way, or the result of its request. -/
def HeldSlot (x : Exchange X) (ticket : Ticket) (waker : Waker) (c : Completion X) : Prop :=
  c.ignoredData = none ∧
    ((c.completed = none ∧ ticket ∈ x.owed ∧ c.waiter = some waker) ∨
      ∃ result, c.completed = some result ∧ (ticket, result) ∈ x.finished)

/-- The numbers of all submissions, under way and finished. -/
def serials (x : Exchange X) : Multiset Nat :=
  x.owed.map Ticket.serial + ↑(x.finished.map fun f => f.1.serial)

structure Sound (x : Exchange X) : Prop where
  tokens : (x.owed.map Ticket.token).Nodup
  serials : x.serials.Nodup
  issued : ∀ n ∈ x.serials, n < x.submitters.length
  owedSlot : ∀ t ∈ x.owed, ∃ c, x.table.get t.token = some c ∧ c.completed = none ∧
    (c.ignoredData = none → ∃ op waker, x.ops op = .waiting t waker)
  heldSlot : ∀ op t waker, x.ops op = .waiting t waker →
    ∃ c, x.table.get t.token = some c ∧ x.HeldSlot t waker c
  heldOnce : ∀ op t waker op' t' waker', x.ops op = .waiting t waker → x.ops op' = .waiting t' waker' →
    t.token = t'.token → op = op'
  submitter : ∀ op t waker, x.ops op = .waiting t waker → x.submitters[t.serial]? = some op
  undelivered : ∀ op t waker, x.ops op = .waiting t waker → ∀ d ∈ x.delivered, d.ticket.serial ≠ t.serial
  deliveredOnce : (x.delivered.map fun d => d.ticket.serial).Nodup
  deliveredRight : ∀ d ∈ x.delivered, x.submitters[d.ticket.serial]? = some d.op ∧
    (d.ticket, d.result) ∈ x.finished

theorem become_self (x : Exchange X) (op : Nat) (state : OpState) : x.become op state op = state :=
  if_pos rfl

theorem become_of_ne (x : Exchange X) {op o : Nat} (state : OpState) (other : o ≠ op) :
    x.become op state o = x.ops o :=
  if_neg other

/-- Only operations that waited before wait now. -/
theorem waiting_of_become {x : Exchange X} {op o : Nat} {state : OpState} {t : Ticket} {waker : Waker}
    (waits : x.become op state o = .waiting t waker) :
    (o = op ∧ state = .waiting t waker) ∨ (o ≠ op ∧ x.ops o = .waiting t waker) := by
  unfold become at waits
  split at waits
  · exact .inl ⟨by assumption, waits⟩
  · exact .inr ⟨by assumption, waits⟩

/-- Who waits goes on waiting while another operation, which did not wait, changes. -/
theorem become_of_idle {x : Exchange X} {op o : Nat} {t : Ticket} {waker : Waker} (state : OpState)
    (idle : x.ops op = .idle) (waits : x.ops o = .waiting t waker) : x.become op state o = .waiting t waker := by
  have other : o ≠ op := by
    rintro rfl
    rw [idle] at waits
    cases waits
  exact (become_of_ne x state other).trans waits

/-- The same when the other one waited for another ticket. -/
theorem become_of_waiting {x : Exchange X} {op o : Nat} {t t' : Ticket} {waker waker' : Waker}
    (state : OpState) (waits : x.ops op = .waiting t waker) (waits' : x.ops o = .waiting t' waker')
    (different : t' ≠ t) : x.become op state o = .waiting t' waker' := by
  have other : o ≠ op := by
    rintro rfl
    cases waits.symm.trans waits'
    exact different rfl
  exact (become_of_ne x state other).trans waits'

/-- A poll that finds a result. -/
theorem poll_of_completed {x : Exchange X} {op : Nat} {t : Ticket} {result : Int} {c : Completion X}
    (slot : x.table.get t.token = some c) (completed : c.completed = some result) (waker : Waker) :
    x.poll op t waker = { x with
      table := x.table.remove t.token, ops := x.become op .idle
      delivered := x.delivered ++ [⟨op, t, result⟩] } := by
  have taken := CompletionTable.getCompletionResult_some.mpr ⟨⟨c, slot, completed⟩, rfl⟩
  simp only [poll, taken]

/-- A poll that finds none. -/
theorem poll_of_running {x : Exchange X} {op : Nat} {t : Ticket}
    (running : ∀ c, x.table.get t.token = some c → c.completed = none) (waker : Waker) :
    x.poll op t waker = { x with
      table := x.table.setCompletionWaker t.token waker, ops := x.become op (.waiting t waker) } := by
  unfold poll
  split
  · rename_i result table taken
    obtain ⟨⟨c, slot, completed⟩, -⟩ := CompletionTable.getCompletionResult_some.mp taken
    rw [running c slot] at completed
    cases completed
  · rename_i table polled
    rw [(CompletionTable.getCompletionResult_none polled).1]

/-- Which of the two it is. -/
theorem completed_or_running (x : Exchange X) (t : Ticket) :
    (∃ c result, x.table.get t.token = some c ∧ c.completed = some result) ∨
      ∀ c, x.table.get t.token = some c → c.completed = none := by
  cases slot : x.table.get t.token with
  | none => exact .inr fun c found => by cases found
  | some c =>
      cases completed : c.completed with
      | none => exact .inr fun c' found => by cases found; exact completed
      | some result => exact .inl ⟨c, result, rfl, completed⟩

theorem sound_initial {x : Exchange X} (initial : Initial x) : Sound x := by
  obtain ⟨table, owed, finished, ops, submitters, delivered⟩ := initial
  constructor <;> simp [serials, owed, finished, ops, delivered]

/-- Two requests under way in one slot are one request. -/
theorem Sound.owed_inj {x : Exchange X} (sound : Sound x) {t t' : Ticket} (owes : t ∈ x.owed)
    (owes' : t' ∈ x.owed) (same : t.token = t'.token) : t = t' :=
  Multiset.inj_on_of_nodup_map sound.tokens t owes t' owes' same

/-- A vacant slot has no request under way. -/
theorem Sound.not_owed_of_vacant {x : Exchange X} (sound : Sound x) {token : Nat}
    (vacant : x.table.get token = none) : ∀ t ∈ x.owed, t.token ≠ token := by
  intro t owes same
  obtain ⟨c, found, -⟩ := sound.owedSlot t owes
  rw [same, vacant] at found
  cases found

theorem Sound.not_held_of_vacant {x : Exchange X} (sound : Sound x) {token : Nat}
    (vacant : x.table.get token = none) {op : Nat} {t : Ticket} {waker : Waker}
    (waits : x.ops op = .waiting t waker) : t.token ≠ token := by
  intro same
  obtain ⟨c, found, -⟩ := sound.heldSlot op t waker waits
  rw [same, vacant] at found
  cases found

theorem Sound.owed_issued {x : Exchange X} (sound : Sound x) {t : Ticket} (owes : t ∈ x.owed) :
    t.serial < x.submitters.length :=
  sound.issued _ (Multiset.mem_add.mpr (.inl (Multiset.mem_map_of_mem _ owes)))

theorem Sound.finished_issued {x : Exchange X} (sound : Sound x) {t : Ticket} {result : Int}
    (finished : (t, result) ∈ x.finished) : t.serial < x.submitters.length := by
  apply sound.issued
  refine Multiset.mem_add.mpr (.inr (Multiset.mem_coe.mpr (List.mem_map.mpr ⟨_, finished, rfl⟩)))

/-- A request under way shares its slot with no other request anyone waits for. -/
theorem Sound.owed_apart {x : Exchange X} (sound : Sound x) {t t' : Ticket} {op : Nat} {waker : Waker}
    (owes : t ∈ x.owed) (waits : x.ops op = .waiting t' waker) (other : t ≠ t') : t.token ≠ t'.token := by
  intro same
  obtain ⟨c, found, running, -⟩ := sound.owedSlot t owes
  obtain ⟨c', found', -, ⟨-, owes', -⟩ | ⟨result, completed, -⟩⟩ := sound.heldSlot op t' waker waits
  · exact other (sound.owed_inj owes owes' same)
  · rw [same, found'] at found
    cases found
    rw [running] at completed
    cases completed

/-- A slot with a result in it has no request under way. -/
theorem Sound.not_owed_of_completed {x : Exchange X} (sound : Sound x) {token : Nat} {c : Completion X}
    {result : Int} (slot : x.table.get token = some c) (completed : c.completed = some result) :
    ∀ t ∈ x.owed, t.token ≠ token := by
  intro t owes same
  obtain ⟨c', found, running, -⟩ := sound.owedSlot t owes
  rw [same] at found
  cases slot.symm.trans found
  rw [completed] at running
  cases running

theorem Sound.submit {x : Exchange X} (sound : Sound x) {op token : Nat} (waker : Waker) (context : X)
    (idle : x.ops op = .idle) (vacant : x.table.get token = none) :
    Sound (x.submit op token waker context) := by
  have noRequest := sound.not_owed_of_vacant vacant
  have fresh : x.submitters.length ∉ x.serials := fun member =>
    Nat.lt_irrefl _ (sound.issued _ member)
  have grown : (x.submit op token waker context).serials = x.submitters.length ::ₘ x.serials := by
    simp [Exchange.serials, Exchange.submit]
  have old : ∀ n o : Nat, x.submitters[n]? = some o → (x.submitters ++ [op])[n]? = some o := by
    intro n o found
    rw [List.getElem?_append_left (List.getElem?_eq_some_iff.mp found).1, found]
  constructor
  · simp only [Exchange.submit, Multiset.map_cons, Multiset.nodup_cons, Multiset.mem_map]
    refine ⟨?_, sound.tokens⟩
    rintro ⟨t, owes, same⟩
    exact noRequest t owes same
  · rw [grown, Multiset.nodup_cons]
    exact ⟨fresh, sound.serials⟩
  · intro n member
    rw [grown, Multiset.mem_cons] at member
    simp only [Exchange.submit, List.length_append, List.length_singleton]
    obtain rfl | before := member
    · omega
    · have := sound.issued n before
      omega
  · intro t owes
    simp only [Exchange.submit, Multiset.mem_cons] at owes
    simp only [Exchange.submit, Slab.get_insert]
    obtain rfl | before := owes
    · exact ⟨_, if_pos rfl, rfl, fun _ => ⟨op, waker, become_self _ _ _⟩⟩
    · obtain ⟨c, found, running, owner⟩ := sound.owedSlot t before
      refine ⟨c, by rw [if_neg (noRequest t before), found], running, fun kept => ?_⟩
      obtain ⟨o, w, waits⟩ := owner kept
      exact ⟨o, w, become_of_idle _ idle waits⟩
  · intro o t w waits
    simp only [Exchange.submit, Slab.get_insert]
    obtain ⟨rfl, same⟩ | ⟨-, before⟩ := waiting_of_become waits
    · cases same
      exact ⟨_, if_pos rfl, rfl, .inl ⟨rfl, Multiset.mem_cons_self _ _, rfl⟩⟩
    · obtain ⟨c, found, kept, held⟩ := sound.heldSlot o t w before
      refine ⟨c, by rw [if_neg (sound.not_held_of_vacant vacant before), found], kept, ?_⟩
      obtain ⟨running, owes, waiter⟩ | result := held
      · exact .inl ⟨running, Multiset.mem_cons_of_mem owes, waiter⟩
      · exact .inr result
  · intro o t w o' t' w' waits waits' same
    obtain ⟨rfl, first⟩ | ⟨-, before⟩ := waiting_of_become waits <;>
      obtain ⟨rfl, second⟩ | ⟨-, before'⟩ := waiting_of_become waits'
    · rfl
    · cases first
      exact absurd same.symm (sound.not_held_of_vacant vacant before')
    · cases second
      exact absurd same (sound.not_held_of_vacant vacant before)
    · exact sound.heldOnce o t w o' t' w' before before' same
  · intro o t w waits
    obtain ⟨rfl, same⟩ | ⟨-, before⟩ := waiting_of_become waits
    · cases same
      simp [Exchange.submit]
    · exact old _ _ (sound.submitter o t w before)
  · intro o t w waits d member
    obtain ⟨rfl, same⟩ | ⟨-, before⟩ := waiting_of_become waits
    · cases same
      have known := (sound.deliveredRight d member).1
      have bound := (List.getElem?_eq_some_iff.mp known).1
      simp only
      omega
    · exact sound.undelivered o t w before d member
  · exact sound.deliveredOnce
  · intro d member
    obtain ⟨who, result⟩ := sound.deliveredRight d member
    exact ⟨old _ _ who, result⟩

/-- A waiting operation lets go of its ticket, and nothing but its own slot
changes.  What is left to show concerns the requests under way. -/
theorem Sound.letGo {x x' : Exchange X} (sound : Sound x) {op : Nat} {t : Ticket} {waker : Waker}
    (waits : x.ops op = .waiting t waker) {state : OpState} (away : ∀ t w, state ≠ .waiting t w)
    (ops : x'.ops = x.become op state) (owed : x'.owed = x.owed) (finished : x'.finished = x.finished)
    (submitters : x'.submitters = x.submitters)
    (others : ∀ k, k ≠ t.token → x'.table.get k = x.table.get k)
    (owedSlot : ∀ t' ∈ x.owed, t'.token = t.token → ∃ c, x'.table.get t.token = some c ∧
      c.completed = none ∧ c.ignoredData ≠ none)
    (deliveredOnce : (x'.delivered.map fun d => d.ticket.serial).Nodup)
    (deliveredRight : ∀ d ∈ x'.delivered, x.submitters[d.ticket.serial]? = some d.op ∧
      (d.ticket, d.result) ∈ x.finished)
    (undelivered : ∀ d ∈ x'.delivered, d ∈ x.delivered ∨ d.ticket = t) : Sound x' := by
  have before : ∀ o t' w, x'.ops o = .waiting t' w → o ≠ op ∧ x.ops o = .waiting t' w := by
    intro o t' w waits'
    rw [ops] at waits'
    obtain ⟨-, impossible⟩ | found := waiting_of_become waits'
    · exact absurd impossible (away t' w)
    · exact found
  have elsewhere : ∀ o t' w, x'.ops o = .waiting t' w → t'.token ≠ t.token := by
    intro o t' w waits' same
    obtain ⟨different, old⟩ := before o t' w waits'
    exact different (sound.heldOnce o t' w op t waker old waits same)
  constructor
  · rw [owed]; exact sound.tokens
  · unfold Exchange.serials
    rw [owed, finished]
    exact sound.serials
  · unfold Exchange.serials
    rw [owed, finished, submitters]
    exact sound.issued
  · intro t' owes
    rw [owed] at owes
    by_cases same : t'.token = t.token
    · obtain ⟨c, found, running, ignored⟩ := owedSlot t' owes same
      exact ⟨c, same ▸ found, running, fun kept => absurd kept ignored⟩
    · obtain ⟨c, found, running, owner⟩ := sound.owedSlot t' owes
      refine ⟨c, (others _ same).trans found, running, fun kept => ?_⟩
      obtain ⟨o, w, waits'⟩ := owner kept
      refine ⟨o, w, ?_⟩
      rw [ops, become_of_waiting _ waits waits' (fun equal => same (congrArg Ticket.token equal))]
  · intro o t' w waits'
    obtain ⟨c, found, held⟩ := sound.heldSlot o t' w (before o t' w waits').2
    refine ⟨c, (others _ (elsewhere o t' w waits')).trans found, ?_⟩
    unfold HeldSlot
    rw [owed, finished]
    exact held
  · intro o t' w o' t'' w' waits' waits'' same
    exact sound.heldOnce o t' w o' t'' w' (before _ _ _ waits').2 (before _ _ _ waits'').2 same
  · intro o t' w waits'
    rw [submitters]
    exact sound.submitter o t' w (before o t' w waits').2
  · intro o t' w waits' d member
    obtain ⟨different, old⟩ := before o t' w waits'
    obtain known | mine := undelivered d member
    · exact sound.undelivered o t' w old d known
    · rw [mine]
      intro same
      have own := sound.submitter op t waker waits
      rw [same, sound.submitter o t' w old] at own
      exact different (Option.some.inj own)
  · exact deliveredOnce
  · intro d member
    rw [submitters, finished]
    exact deliveredRight d member

theorem Sound.drop {x : Exchange X} (sound : Sound x) {op : Nat} {t : Ticket} {waker : Waker}
    (waits : x.ops op = .waiting t waker) : Sound (x.drop op t) := by
  refine sound.letGo waits (fun _ _ => by simp) rfl rfl rfl rfl (fun k other => ?_)
    (fun t' owes same => ?_) sound.deliveredOnce sound.deliveredRight fun d member => .inl member
  · simp [Exchange.drop, CompletionTable.get_ignoreCompletion, other]
  · obtain ⟨c, found, running, -⟩ := sound.owedSlot t' owes
    rw [same] at found
    refine ⟨{ c with ignoredData := some ⟨op⟩ }, ?_, running, by simp⟩
    simp [Exchange.drop, CompletionTable.get_ignoreCompletion, found]

theorem Sound.dropIdle {x : Exchange X} (sound : Sound x) {op : Nat} (idle : x.ops op = .idle) :
    Sound { x with ops := x.become op .gone } := by
  have before : ∀ o t w, x.become op .gone o = .waiting t w → x.ops o = .waiting t w := by
    intro o t w waits
    obtain ⟨-, impossible⟩ | ⟨-, old⟩ := waiting_of_become waits
    · cases impossible
    · exact old
  refine ⟨sound.tokens, sound.serials, sound.issued, fun t owes => ?_, ?_, ?_, ?_, ?_,
    sound.deliveredOnce, sound.deliveredRight⟩
  · obtain ⟨c, found, running, owner⟩ := sound.owedSlot t owes
    refine ⟨c, found, running, fun kept => ?_⟩
    obtain ⟨o, w, waits⟩ := owner kept
    exact ⟨o, w, become_of_idle _ idle waits⟩
  · intro o t w waits
    exact sound.heldSlot o t w (before o t w waits)
  · intro o t w o' t' w' waits waits' same
    exact sound.heldOnce o t w o' t' w' (before _ _ _ waits) (before _ _ _ waits') same
  · intro o t w waits
    exact sound.submitter o t w (before o t w waits)
  · intro o t w waits
    exact sound.undelivered o t w (before o t w waits)

/-- A waiting operation leaves another waker in its slot. -/
theorem Sound.rewake {x : Exchange X} (sound : Sound x) {op : Nat} {t : Ticket} {old : Waker}
    (waits : x.ops op = .waiting t old)
    (running : ∀ c, x.table.get t.token = some c → c.completed = none) (waker : Waker) :
    Sound { x with table := x.table.setCompletionWaker t.token waker
                   ops := x.become op (.waiting t waker) } := by
  -- the same operations wait, for the same tickets
  have before : ∀ o t' w, x.become op (.waiting t waker) o = .waiting t' w →
      (o = op ∧ t' = t ∧ w = waker) ∨ (o ≠ op ∧ x.ops o = .waiting t' w) := by
    intro o t' w waits'
    obtain ⟨rfl, same⟩ | found := waiting_of_become waits'
    · cases same
      exact .inl ⟨rfl, rfl, rfl⟩
    · exact .inr found
  have held : ∀ o t' w, x.become op (.waiting t waker) o = .waiting t' w →
      ∃ w', x.ops o = .waiting t' w' := by
    intro o t' w waits'
    obtain ⟨rfl, rfl, -⟩ | ⟨-, found⟩ := before o t' w waits'
    · exact ⟨old, waits⟩
    · exact ⟨w, found⟩
  refine ⟨sound.tokens, sound.serials, sound.issued, ?_, ?_, ?_, ?_, ?_, sound.deliveredOnce,
    sound.deliveredRight⟩
  · intro t' owes
    obtain ⟨c, found, unfinished, owner⟩ := sound.owedSlot t' owes
    have still : c.ignoredData = none →
        ∃ o w, x.become op (.waiting t waker) o = .waiting t' w := by
      intro kept
      obtain ⟨o, w, waits'⟩ := owner kept
      by_cases mine : o = op
      · subst mine
        cases waits.symm.trans waits'
        exact ⟨o, waker, become_self x o _⟩
      · exact ⟨o, w, (become_of_ne x _ mine).trans waits'⟩
    simp only [CompletionTable.get_setCompletionWaker]
    split
    · rename_i same
      exact ⟨{ c with waiter := some waker }, by rw [← same, found]; rfl, unfinished, still⟩
    · exact ⟨c, found, unfinished, still⟩
  · intro o t' w waits'
    simp only [CompletionTable.get_setCompletionWaker]
    obtain ⟨rfl, rfl, rfl⟩ | ⟨different, found⟩ := before o t' w waits'
    · obtain ⟨c, slot, kept, ⟨unfinished, owes, -⟩ | ⟨result, completed, -⟩⟩ := sound.heldSlot o _ old waits
      · exact ⟨{ c with waiter := some w }, by simp [slot], kept, .inl ⟨unfinished, owes, rfl⟩⟩
      · rw [running c slot] at completed
        cases completed
    · obtain ⟨c, slot, heldSlot⟩ := sound.heldSlot o t' w found
      have elsewhere : t'.token ≠ t.token := fun same =>
        different (sound.heldOnce o t' w op t old found waits same)
      exact ⟨c, by rw [if_neg elsewhere, slot], heldSlot⟩
  · intro o t' w o' t'' w' waits' waits'' same
    obtain ⟨v, found⟩ := held o t' w waits'
    obtain ⟨v', found'⟩ := held o' t'' w' waits''
    exact sound.heldOnce o t' v o' t'' v' found found' same
  · intro o t' w waits'
    obtain ⟨v, found⟩ := held o t' w waits'
    exact sound.submitter o t' v found
  · intro o t' w waits'
    obtain ⟨v, found⟩ := held o t' w waits'
    exact sound.undelivered o t' v found

theorem Sound.poll {x : Exchange X} (sound : Sound x) {op : Nat} {t : Ticket} {old : Waker}
    (waits : x.ops op = .waiting t old) (waker : Waker) : Sound (x.poll op t waker) := by
  obtain ⟨c, result, found, completed⟩ | running := completed_or_running x t
  · -- the result is there: the slot is given back
    rw [poll_of_completed found completed]
    have finished : (t, result) ∈ x.finished := by
      obtain ⟨c', found', -, ⟨running, -⟩ | ⟨result', completed', finished⟩⟩ := sound.heldSlot op t old waits
      · cases found.symm.trans found'
        rw [completed] at running
        cases running
      · cases found.symm.trans found'
        cases completed.symm.trans completed'
        exact finished
    refine sound.letGo waits (fun _ _ => by simp) rfl rfl rfl rfl (fun k other => ?_)
      (fun t' owes same => ?_) ?_ (fun d member => ?_) fun d member => ?_
    · simp [Slab.get_remove, other]
    · exact absurd same (sound.not_owed_of_completed found completed t' owes)
    · simp only [List.map_append, List.map_cons, List.map_nil]
      refine List.nodup_append.mpr ⟨sound.deliveredOnce, by simp, ?_⟩
      intro n earlier n' mine same
      obtain ⟨d, member, rfl⟩ := List.mem_map.mp earlier
      cases List.mem_singleton.mp mine
      exact sound.undelivered op t old waits d member same
    · rw [List.mem_append, List.mem_singleton] at member
      obtain earlier | rfl := member
      · exact sound.deliveredRight d earlier
      · exact ⟨sound.submitter op t old waits, finished⟩
    · rw [List.mem_append, List.mem_singleton] at member
      obtain earlier | rfl := member
      · exact .inl earlier
      · exact .inr rfl
  · -- it is not: the waker is stored
    rw [poll_of_running running]
    exact sound.rewake waits running waker

variable {release}

theorem Sound.finish {x : Exchange X} (sound : Sound x) {t : Ticket} (owes : t ∈ x.owed) (result : Int) :
    Sound (x.finish release t result) := by
  obtain ⟨c, found, running, owner⟩ := sound.owedSlot t owes
  have moved : (x.finish release t result).serials = x.serials := by
    have split : x.owed = t ::ₘ x.owed.erase t := (Multiset.cons_erase owes).symm
    simp only [Exchange.serials, Exchange.finish, List.map_append, List.map_cons, List.map_nil]
    conv_rhs => rw [split, Multiset.map_cons]
    rw [← Multiset.coe_add, Multiset.coe_singleton, ← Multiset.singleton_add]
    abel
  have others : ∀ k, k ≠ t.token →
      (x.table.complete release t.token result).2.get k = x.table.get k :=
    fun k other => CompletionTable.get_complete_of_ne release x.table result other
  refine ⟨?_, moved ▸ sound.serials, moved ▸ sound.issued, ?_, ?_, sound.heldOnce, sound.submitter,
    sound.undelivered, sound.deliveredOnce, ?_⟩
  · exact Multiset.nodup_of_le (Multiset.map_le_map (Multiset.erase_le t x.owed)) sound.tokens
  · intro t' left
    have different : t' ≠ t := by
      rintro rfl
      have nodup := Multiset.Nodup.of_map Ticket.token sound.tokens
      exact (Multiset.Nodup.notMem_erase nodup) left
    have owes' := Multiset.mem_of_mem_erase left
    have elsewhere : t'.token ≠ t.token := fun same => different (sound.owed_inj owes' owes same)
    obtain ⟨c', found', running', owner'⟩ := sound.owedSlot t' owes'
    exact ⟨c', (others _ elsewhere).trans found', running', owner'⟩
  · intro o t' w waits
    obtain ⟨c', found', kept, held⟩ := sound.heldSlot o t' w waits
    by_cases same : t'.token = t.token
    · -- the slot is the one that finished, and the request was this operation's
      rw [same, found] at found'
      cases found'
      obtain ⟨o', w', waits'⟩ := owner kept
      cases sound.heldOnce o t' w o' t w' waits waits' same
      cases waits.symm.trans waits'
      have done := congrArg Prod.snd (CompletionTable.complete_of_kept release result found kept)
      refine ⟨{ c with waiter := none, completed := some result, context := release c.context }, ?_, kept,
        .inr ⟨result, rfl, by simp [Exchange.finish]⟩⟩
      simp only [Exchange.finish, done, Slab.get_insert_self]
    · refine ⟨c', (others _ same).trans found', kept, ?_⟩
      obtain ⟨unfinished, owes', waiter⟩ | ⟨r, completed, finished⟩ := held
      · have different : t' ≠ t := fun equal => same (congrArg Ticket.token equal)
        exact .inl ⟨unfinished, (Multiset.mem_erase_of_ne different).mpr owes', waiter⟩
      · exact .inr ⟨r, completed, List.mem_append_left _ finished⟩
  · intro d member
    obtain ⟨who, finished⟩ := sound.deliveredRight d member
    exact ⟨who, List.mem_append_left _ finished⟩

theorem Sound.step {x x' : Exchange X} {l : ExchangeStep X} (sound : Sound x)
    (stepped : x.step release l = some x') : Sound x' := by
  obtain ⟨op, token, waker, context, -, idle, vacant, rfl⟩ | ⟨op, t, old, waker, -, waits, rfl⟩ |
    ⟨op, t, waker, -, waits, rfl⟩ | ⟨op, -, idle, rfl⟩ | ⟨t, result, -, owes, rfl⟩ :=
    step_cases release stepped
  · exact sound.submit waker context idle vacant
  · exact sound.poll waits waker
  · exact sound.drop waits
  · exact sound.dropIdle idle
  · exact sound.finish owes result

/-- **Slots, requests and operations stay in step.** -/
theorem sound_of_reachable {x : Exchange X} (reachable : (machine release).Reachable x) : Sound x :=
  Machine.invariant (M := machine release) (fun _ initial => sound_initial initial)
    (fun _ _ _ sound stepped => Sound.step sound stepped) reachable

/-! ## What the drivers ask of it -/

/-- A finished request wakes the waker of its operation's latest poll. -/
theorem Sound.finish_wakes {x : Exchange X} (sound : Sound x) {op : Nat} {t : Ticket} {waker : Waker}
    (waits : x.ops op = .waiting t waker) (owes : t ∈ x.owed) (result : Int) :
    (x.table.complete release t.token result).1 = some waker := by
  obtain ⟨c, found, kept, ⟨-, -, waiter⟩ | ⟨r, completed, -⟩⟩ := sound.heldSlot op t waker waits
  · rw [CompletionTable.complete_of_kept release result found kept, waiter]
  · obtain ⟨c', found', running, -⟩ := sound.owedSlot t owes
    cases found.symm.trans found'
    rw [completed] at running
    cases running

/-- A result in the slot of a waiting operation is the result of its own request,
and its request has no other. -/
theorem Sound.result_own {x : Exchange X} (sound : Sound x) {op : Nat} {t : Ticket} {waker : Waker}
    (waits : x.ops op = .waiting t waker) {c : Completion X} (found : x.table.get t.token = some c)
    {result : Int} (completed : c.completed = some result) : (t, result) ∈ x.finished := by
  obtain ⟨c', found', -, ⟨running, -⟩ | ⟨r, completed', finished⟩⟩ := sound.heldSlot op t waker waits
  · cases found.symm.trans found'
    rw [completed] at running
    cases running
  · cases found.symm.trans found'
    cases completed.symm.trans completed'
    exact finished

/-- A submission finishes at most once. -/
theorem Sound.finished_once {x : Exchange X} (sound : Sound x) {t t' : Ticket} {r r' : Int}
    (first : (t, r) ∈ x.finished) (second : (t', r') ∈ x.finished) (same : t.serial = t'.serial) :
    (t, r) = (t', r') := by
  have nodup : (x.finished.map fun f => f.1.serial).Nodup :=
    Multiset.coe_nodup.mp (Multiset.nodup_of_le (Multiset.le_add_left _ _) sound.serials)
  exact List.inj_on_of_nodup_map nodup first second same

/-! ## Leaked slots -/

/-- A slot holding the data of a dropped operation still expects a completion, and
every occupied slot belongs to a waiting operation or to a request under way. -/
def Unleaked (x : Exchange X) : Prop :=
  ∀ k c, x.table.get k = some c → (c.ignoredData ≠ none → c.completed = none) ∧
    ((∃ op t waker, x.ops op = .waiting t waker ∧ t.token = k) ∨ ∃ t ∈ x.owed, t.token = k)

/-- An operation is dropped only while its slot has no result. -/
def DropsRunning (x : Exchange X) : ExchangeStep X → Prop
  | .drop op => ∀ t waker, x.ops op = .waiting t waker →
      ∀ c, x.table.get t.token = some c → c.completed = none
  | _ => True

theorem unleaked_initial {x : Exchange X} (initial : Initial x) : Unleaked x := by
  intro k c found
  rw [initial.table k] at found
  cases found

/-- An owner other than `op` is still one after `op` has changed. -/
theorem owner_of_become {x : Exchange X} {op k : Nat} (state : OpState)
    (notMine : ∀ t waker, x.ops op = .waiting t waker → t.token ≠ k)
    (owner : ∃ o t waker, x.ops o = .waiting t waker ∧ t.token = k) :
    ∃ o t waker, x.become op state o = .waiting t waker ∧ t.token = k := by
  obtain ⟨o, t, waker, waits, same⟩ := owner
  have other : o ≠ op := by
    rintro rfl
    exact notMine t waker waits same
  exact ⟨o, t, waker, (become_of_ne x state other).trans waits, same⟩

/-- A slot that is not the one `op` waits for stays as it is when `op` changes. -/
theorem Unleaked.elsewhere {x : Exchange X} (unleaked : Unleaked x) {op k : Nat} {t : Ticket} {waker : Waker}
    {c : Completion X} (waits : x.ops op = .waiting t waker) (state : OpState) (other : k ≠ t.token)
    (found : x.table.get k = some c) :
    (c.ignoredData ≠ none → c.completed = none) ∧
      ((∃ o t' w, x.become op state o = .waiting t' w ∧ t'.token = k) ∨ ∃ t' ∈ x.owed, t'.token = k) := by
  obtain ⟨clean, owner⟩ := unleaked k c found
  refine ⟨clean, owner.imp_left (owner_of_become state fun t' w waits' => ?_)⟩
  cases waits.symm.trans waits'
  exact other.symm

theorem Unleaked.submit {x : Exchange X} (unleaked : Unleaked x) {op : Nat} (idle : x.ops op = .idle)
    (token : Nat) (waker : Waker) (context : X) : Unleaked (x.submit op token waker context) := by
  intro k c found
  simp only [Exchange.submit, Slab.get_insert] at found
  split at found
  · rename_i same
    cases found
    exact ⟨by simp, .inl ⟨op, _, waker, become_self x op _, same.symm⟩⟩
  · obtain ⟨clean, owner⟩ := unleaked k c found
    refine ⟨clean, owner.imp (owner_of_become _ ?_) ?_⟩
    · intro t w waits
      rw [idle] at waits
      cases waits
    · rintro ⟨t, owes, same⟩
      exact ⟨t, Multiset.mem_cons_of_mem owes, same⟩

theorem Unleaked.poll {x : Exchange X} (unleaked : Unleaked x) {op : Nat} {t : Ticket} {old : Waker}
    (waits : x.ops op = .waiting t old) (waker : Waker) : Unleaked (x.poll op t waker) := by
  obtain ⟨c', result, slot, completed⟩ | unfinished := completed_or_running x t
  · rw [poll_of_completed slot completed]
    intro k c found
    simp only [Slab.get_remove] at found
    split at found
    · cases found
    · rename_i other
      exact unleaked.elsewhere waits _ other found
  · rw [poll_of_running unfinished]
    intro k c found
    simp only [CompletionTable.get_setCompletionWaker] at found
    split at found
    · rename_i same
      obtain ⟨c', slot, rfl⟩ := Option.map_eq_some_iff.mp found
      obtain ⟨clean, -⟩ := unleaked _ c' slot
      exact ⟨clean, .inl ⟨op, t, waker, become_self x op _, same.symm⟩⟩
    · rename_i other
      exact unleaked.elsewhere waits _ other found

/-- The dropped operation's request is under way, so the slot is its request's now. -/
theorem Unleaked.drop {x : Exchange X} (unleaked : Unleaked x) (sound : Sound x) {op : Nat} {t : Ticket}
    {waker : Waker} (waits : x.ops op = .waiting t waker)
    (running : ∀ c, x.table.get t.token = some c → c.completed = none) : Unleaked (x.drop op t) := by
  intro k c found
  simp only [Exchange.drop, CompletionTable.get_ignoreCompletion] at found
  split at found
  · rename_i same
    obtain ⟨c', slot, rfl⟩ := Option.map_eq_some_iff.mp found
    have unfinished := running c' slot
    obtain ⟨c'', slot', -, ⟨-, owes, -⟩ | ⟨r, completed, -⟩⟩ := sound.heldSlot op t waker waits
    · exact ⟨fun _ => unfinished, .inr ⟨t, owes, same.symm⟩⟩
    · cases slot.symm.trans slot'
      rw [unfinished] at completed
      cases completed
  · rename_i other
    exact unleaked.elsewhere waits _ other found

/-- An operation that waits for nothing owns no slot. -/
theorem Unleaked.gone {x : Exchange X} (unleaked : Unleaked x) {op : Nat} (idle : x.ops op = .idle) :
    Unleaked { x with ops := x.become op .gone } := by
  intro k c found
  obtain ⟨clean, owner⟩ := unleaked k c found
  refine ⟨clean, owner.imp_left (owner_of_become _ fun t w waits => ?_)⟩
  rw [idle] at waits
  cases waits

theorem Unleaked.finish {x : Exchange X} (unleaked : Unleaked x) (sound : Sound x) {t : Ticket}
    (owes : t ∈ x.owed) (result : Int) : Unleaked (x.finish release t result) := by
  obtain ⟨c', slot, unfinished, mine⟩ := sound.owedSlot t owes
  intro k c found
  by_cases same : k = t.token
  · subst same
    cases kept : c'.ignoredData with
    | some data =>
        simp only [Exchange.finish, CompletionTable.complete_of_ignored release result slot (by simp [kept]),
          Slab.get_remove_self] at found
        cases found
    | none =>
        simp only [Exchange.finish, CompletionTable.complete_of_kept release result slot kept,
          Slab.get_insert_self, Option.some.injEq] at found
        subst found
        obtain ⟨o, w, waits⟩ := mine kept
        exact ⟨by simp [kept], .inl ⟨o, t, w, waits, rfl⟩⟩
  · have before : x.table.get k = some c :=
      (CompletionTable.get_complete_of_ne release x.table result same).symm.trans found
    obtain ⟨clean, owner⟩ := unleaked k c before
    refine ⟨clean, owner.imp_right ?_⟩
    rintro ⟨t', owes', equal⟩
    have different : t' ≠ t := by
      rintro rfl
      exact same equal.symm
    exact ⟨t', (Multiset.mem_erase_of_ne different).mpr owes', equal⟩

theorem Unleaked.step {x x' : Exchange X} {l : ExchangeStep X} (unleaked : Unleaked x) (sound : Sound x)
    (running : DropsRunning x l) (stepped : x.step release l = some x') : Unleaked x' := by
  obtain ⟨op, token, waker, context, rfl, idle, vacant, rfl⟩ | ⟨op, t, old, waker, rfl, waits, rfl⟩ |
    ⟨op, t, waker, rfl, waits, rfl⟩ | ⟨op, rfl, idle, rfl⟩ | ⟨t, result, rfl, owes, rfl⟩ :=
    step_cases release stepped
  · exact unleaked.submit idle token waker context
  · exact unleaked.poll waits waker
  · exact unleaked.drop sound waits (running t waker waits)
  · exact unleaked.gone idle
  · exact unleaked.finish sound owes result

/-- Dropping an operation whose result is in the slot leaks the slot. -/
theorem leaked_of_drop {x x' : Exchange X} {l : ExchangeStep X} (outside : ¬ DropsRunning x l)
    (stepped : x.step release l = some x') : ¬ Unleaked x' := by
  unfold DropsRunning at outside
  split at outside
  · rename_i op
    simp only [not_forall] at outside
    obtain ⟨t, waker, waits, c, slot, completed⟩ := outside
    simp only [step, waits] at stepped
    cases stepped
    intro unleaked
    have found : (x.drop op t).table.get t.token = some { c with ignoredData := some ⟨op⟩ } := by
      simp [Exchange.drop, CompletionTable.get_ignoreCompletion, slot]
    exact completed ((unleaked _ _ found).1 (by simp))
  · exact absurd trivial outside

end Exchange

end Vibeio.Driver
