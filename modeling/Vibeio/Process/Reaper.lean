/-
# Process.Reaper -- the reaper that waits for `SIGCHLD`

`zombie_reaper_fn_unix` selects between the channel and the signal.  What comes through the
channel is tried once and kept if the child still runs; a signal empties the list and tries
everything in it, putting back what still runs.  The select polls the channel first, and the
future that loses is dropped: the channel keeps its messages and the signal its counter, so
nothing is lost with it.

Messages, exits and notifications come between any two steps of the loop, those between two
`try_wait`s of one pass included.  Any number of notifications is one move of the counter.

* `reaper_accounts`: while the channel is open, a child that was received waits in the list or
  has been answered and never both, no sender is answered twice or for another child, and what
  had exited when the latest signal was taken is not in the list.
-/
import Vibeio.Driver.Basic
import Vibeio.Theory.Machine
import Mathlib.Data.List.Nodup
import Mathlib.Data.List.Perm.Basic
import Mathlib.Logic.Function.Basic

namespace Vibeio.Process

set_option autoImplicit false

open Vibeio.Theory
open Vibeio.Driver (IoError)

/-! ## The loop and what is around it -/

/-- `ZombieReaperMessage`.  Children and senders are moved into it, so each is in one message. -/
structure ZombieReaperMessage where
  child : Nat
  sender : Option Nat
  deriving DecidableEq, Repr

/-- No part of one message is a part of the other. -/
def ZombieReaperMessage.Apart (a b : ZombieReaperMessage) : Prop :=
  a.child ≠ b.child ∧ (a.sender = none ∨ a.sender ≠ b.sender)

instance (a b : ZombieReaperMessage) : Decidable (a.Apart b) :=
  inferInstanceAs (Decidable (_ ∧ (_ ∨ _)))

/-- Where `zombie_reaper_fn_unix` is. -/
inductive Phase where
  /-- Before `Signal::new`. -/
  | starting
  /-- At the select, not being polled. -/
  | select
  /-- In a poll of the select: `rx.recv()` was pending, `signal.recv()` comes next. -/
  | selectSignal
  /-- `Either::Left`, before the `try_wait`. -/
  | received (process : ZombieReaperMessage)
  /-- `Either::Right`, with what is left of `processes.split_off(0)`. -/
  | reaping (batch : List ZombieReaperMessage)
  | stopped
  deriving DecidableEq, Repr

/-- The loop with its channel, its signal and its children.  `received`, `waits` and `answers`
are everything that came out of the channel, every `try_wait` with its result and every
`sender.send`.  `noticed` says which children had exited when the latest signal was taken. -/
structure Reaper where
  phase : Phase
  processes : List ZombieReaperMessage
  lastSeen : Nat
  channel : List ZombieReaperMessage
  closed : Bool
  counter : Nat
  exited : Nat → Option Int
  received : List ZombieReaperMessage
  waits : List (Nat × Except IoError (Option Int))
  answers : List (Nat × Except IoError Int)
  noticed : Nat → Option Int

inductive ReaperStep where
  | send (process : ZombieReaperMessage)
  | close
  | exit (child : Nat) (status : Int)
  /-- `dispatch_signal` moves the counter. -/
  | notify
  | signalNew
  | poll
  | pollSignal
  /-- `failure` is what `waitpid` fails with, if it does. -/
  | tryWait (failure : Option IoError)
  | finishPass
  deriving DecidableEq, Repr

/-- `Signal::poll_recv` with the counter it loads; the second part is `last_seen`. -/
def pollRecv (counter lastSeen : Nat) : Poll (Except IoError Unit) × Nat :=
  if counter ≠ lastSeen then (.ready (.ok ()), counter) else (.pending, lastSeen)

namespace Reaper

/-- `Child::try_wait`: the status of a child that has exited, nothing for one that runs. -/
def tryWait (s : Reaper) (child : Nat) : Option IoError → Except IoError (Option Int)
  | some err => .error err
  | none => .ok (s.exited child)

/-- `sender.send`, if there is a sender. -/
def answer (s : Reaper) (process : ZombieReaperMessage) (result : Except IoError Int) : Reaper :=
  match process.sender with
  | some sender => { s with answers := s.answers ++ [(sender, result)] }
  | none => s

/-- The `try_wait` of a process and the match on its result, the same in both branches. -/
def handle (s : Reaper) (process : ZombieReaperMessage) (failure : Option IoError) : Reaper :=
  let result := s.tryWait process.child failure
  let logged := { s with waits := s.waits ++ [(process.child, result)] }
  match result with
  | .ok (some exitCode) => logged.answer process (.ok exitCode)
  | .ok none => { logged with processes := logged.processes ++ [process] }
  | .error err => logged.answer process (.error err)

def step (s : Reaper) : ReaperStep → Option Reaper
  | .send process =>
      if s.closed = false ∧ ∀ other ∈ s.received ++ s.channel, other.Apart process then
        some { s with channel := s.channel ++ [process] }
      else none
  | .close => some { s with closed := true }
  | .exit child status =>
      if s.exited child = none then
        some { s with exited := Function.update s.exited child (some status) }
      else none
  | .notify => some { s with counter := asU64 (s.counter + 1) }
  | .signalNew =>
      match s.phase with
      | .starting => some { s with phase := .select, lastSeen := s.counter }
      | _ => none
  | .poll =>
      match s.phase, s.channel with
      | .select, process :: rest =>
          some { s with phase := .received process, channel := rest, received := s.received ++ [process] }
      | .select, [] =>
          -- a closed channel ends the loop, and the list goes with it
          if s.closed then some { s with phase := .stopped, processes := [] }
          else some { s with phase := .selectSignal }
      | _, _ => none
  | .pollSignal =>
      match s.phase, pollRecv s.counter s.lastSeen with
      | .selectSignal, (.ready (.ok ()), lastSeen) =>
          some { s with
            phase := .reaping s.processes
            processes := []
            lastSeen := lastSeen
            noticed := s.exited }
      | .selectSignal, (.ready (.error _), lastSeen) =>
          some { s with phase := .stopped, processes := [], lastSeen := lastSeen }
      | .selectSignal, (.pending, lastSeen) => some { s with phase := .select, lastSeen := lastSeen }
      | _, _ => none
  | .tryWait failure =>
      match s.phase with
      | .received process => some { s.handle process failure with phase := .select }
      | .reaping (process :: rest) => some { s.handle process failure with phase := .reaping rest }
      | _ => none
  | .finishPass =>
      match s.phase with
      | .reaping [] => some { s with phase := .select }
      | _ => none

def new : Reaper where
  phase := .starting
  processes := []
  lastSeen := 0
  channel := []
  closed := false
  counter := 0
  exited := fun _ => none
  received := []
  waits := []
  answers := []
  noticed := fun _ => none

end Reaper

def reaperMachine : Machine Reaper ReaperStep where
  start s := s = .new
  step := Reaper.step

/-! ## What the loop owes its callers -/

/-- What the loop has taken from its list or from the channel and not tried yet. -/
def Phase.inHand : Phase → List ZombieReaperMessage
  | .received process => [process]
  | .reaping batch => batch
  | _ => []

namespace Reaper

/-- The list of the loop; inside a pass, with the rest of that pass. -/
def waiting (s : Reaper) : List ZombieReaperMessage := s.processes ++ s.phase.inHand

/-- The sender has its answer; without one, a `try_wait` has said something else than that the
child runs. -/
def Answered (s : Reaper) (process : ZombieReaperMessage) : Prop :=
  match process.sender with
  | some sender => ∃ result, (sender, result) ∈ s.answers
  | none => ∃ result, (process.child, result) ∈ s.waits ∧ result ≠ .ok none

structure Accounts (s : Reaper) : Prop where
  one : ∀ process ∈ s.received, Xor (process ∈ s.waiting) (s.Answered process)
  apart : s.waiting.Nodup
  once : (s.answers.map Prod.fst).Nodup
  own : ∀ sender result, (sender, result) ∈ s.answers →
    ∃ process ∈ s.received, process.sender = some sender ∧ (process.child, result.map some) ∈ s.waits
  reaped : ∀ process ∈ s.processes, s.noticed process.child = none

/-- What `sender.send` is called with when a wait is over. -/
def reply (entry : ZombieReaperMessage × Except IoError Int) : Option (Nat × Except IoError Int) :=
  entry.1.sender.map fun sender => (sender, entry.2)

/-- The bookkeeping behind it; `settled` are the messages whose wait is over, with its result. -/
structure Good (s : Reaper) (settled : List (ZombieReaperMessage × Except IoError Int)) : Prop where
  apart : (s.received ++ s.channel).Pairwise ZombieReaperMessage.Apart
  kept : s.phase ≠ .stopped → (s.waiting ++ settled.map Prod.fst).Perm s.received
  answered : s.answers = settled.filterMap reply
  waited : ∀ process result, (process, result) ∈ settled → (process.child, result.map some) ∈ s.waits
  ended : ∀ child result, (child, result) ∈ s.waits → result ≠ .ok none →
    ∃ entry ∈ settled, entry.1.child = child
  seen : ∀ child, s.exited child = none → s.noticed child = none
  reaped : ∀ process ∈ s.processes, s.noticed process.child = none
  stops : s.phase = .stopped → s.closed = true

theorem new_good : new.Good [] where
  apart := List.Pairwise.nil
  kept _ := List.Perm.refl _
  answered := rfl
  waited _ _ member := absurd member List.not_mem_nil
  ended _ _ member := absurd member List.not_mem_nil
  seen _ _ := rfl
  reaped _ member := absurd member List.not_mem_nil
  stops stopped := by cases stopped

/-! ## One `try_wait` -/

variable {s t : Reaper} {process : ZombieReaperMessage} {failure : Option IoError}
  {settled : List (ZombieReaperMessage × Except IoError Int)}

/-- A child that runs goes to the end of the list; with any other result its wait is over. -/
theorem handle_cases (s : Reaper) (process : ZombieReaperMessage) (failure : Option IoError) :
    (s.exited process.child = none ∧
      s.handle process failure = { s with
        waits := s.waits ++ [(process.child, .ok none)], processes := s.processes ++ [process] }) ∨
    ∃ result, s.handle process failure = { s with
        waits := s.waits ++ [(process.child, result.map some)],
        answers := s.answers ++ (reply (process, result)).toList } := by
  have answers (s : Reaper) (result : Except IoError Int) :
      s.answer process result = { s with answers := s.answers ++ (reply (process, result)).toList } := by
    unfold answer reply
    cases process.sender with
    | none => simp
    | some sender => rfl
  cases failure with
  | some err => exact .inr ⟨.error err, answers _ _⟩
  | none =>
      cases exit : s.exited process.child with
      | none =>
          refine .inl ⟨rfl, ?_⟩
          simp only [handle, tryWait, exit]
      | some status =>
          refine .inr ⟨.ok status, ?_⟩
          simp only [handle, tryWait, exit, answers]
          rfl

theorem Good.tryWait {next : Phase} (good : s.Good settled) (inHand : s.phase.inHand = process :: next.inHand)
    (running : next ≠ .stopped) :
    ∃ settled', Good { s.handle process failure with phase := next } settled' := by
  have before : (s.waiting ++ settled.map Prod.fst).Perm s.received := by
    refine good.kept fun stopped => ?_
    rw [stopped] at inHand
    cases inHand
  rw [waiting, inHand] at before
  rcases handle_cases s process failure with ⟨runs, handled⟩ | ⟨result, handled⟩
  · rw [handled]
    refine ⟨settled, good.apart, fun _ => ?_, good.answered, ?_, ?_, good.seen, ?_,
      fun stopped => absurd stopped running⟩
    · simpa only [waiting, List.append_assoc, List.singleton_append] using before
    · intro other result member
      exact List.mem_append_left _ (good.waited other result member)
    · intro child result member notRunning
      rcases List.mem_append.mp member with earlier | now
      · exact good.ended child result earlier notRunning
      · cases List.mem_singleton.mp now
        exact absurd rfl notRunning
    · intro other member
      rcases List.mem_append.mp member with earlier | now
      · exact good.reaped other earlier
      · cases List.mem_singleton.mp now
        exact good.seen process.child runs
  · rw [handled]
    refine ⟨settled ++ [(process, result)], good.apart, fun _ => ?_, ?_, ?_, ?_, good.seen, good.reaped,
      fun stopped => absurd stopped running⟩
    · refine List.Perm.trans ?_ before
      simp only [waiting, List.map_append, List.map_cons, List.map_nil, List.append_assoc, List.cons_append]
      refine List.Perm.append_left _ ?_
      rw [← List.append_assoc]
      exact List.perm_append_comm
    · simp only [good.answered, List.filterMap_append, List.filterMap_cons, List.filterMap_nil]
      cases reply (process, result) <;> rfl
    · intro other outcome member
      rcases List.mem_append.mp member with earlier | now
      · exact List.mem_append_left _ (good.waited other outcome earlier)
      · cases List.mem_singleton.mp now
        exact List.mem_append_right _ List.mem_cons_self
    · intro child outcome member notRunning
      rcases List.mem_append.mp member with earlier | now
      · obtain ⟨entry, among, same⟩ := good.ended child outcome earlier notRunning
        exact ⟨entry, List.mem_append_left _ among, same⟩
      · cases List.mem_singleton.mp now
        exact ⟨(process, result), List.mem_append_right _ List.mem_cons_self, rfl⟩

/-! ## The other steps -/

/-- A step that moves the loop on without taking anything in hand. -/
theorem Good.move {phase : Phase} (good : s.Good settled) (empty : s.phase.inHand = [])
    (next : phase.inHand = []) (running : s.phase ≠ .stopped) (onward : phase ≠ .stopped) (lastSeen : Nat) :
    Good { s with phase := phase, lastSeen := lastSeen } settled := by
  refine ⟨good.apart, fun _ => ?_, good.answered, good.waited, good.ended, good.seen, good.reaped,
    fun stopped => absurd stopped onward⟩
  have before := good.kept running
  simpa only [waiting, empty, next] using before

theorem Good.send (good : s.Good settled) (apart : ∀ other ∈ s.received ++ s.channel, other.Apart process) :
    Good { s with channel := s.channel ++ [process] } settled := by
  refine ⟨?_, good.kept, good.answered, good.waited, good.ended, good.seen, good.reaped, good.stops⟩
  rw [← List.append_assoc, List.pairwise_append]
  refine ⟨good.apart, List.pairwise_singleton _ _, fun other member new among => ?_⟩
  rw [List.mem_singleton.mp among]
  exact apart other member

theorem Good.exit {child : Nat} {status : Int} (good : s.Good settled) :
    Good { s with exited := Function.update s.exited child (some status) } settled := by
  refine ⟨good.apart, good.kept, good.answered, good.waited, good.ended, fun other runs => ?_, good.reaped,
    good.stops⟩
  by_cases same : other = child
  · subst same
    simp at runs
  · refine good.seen other ?_
    simpa only [Function.update_of_ne same] using runs

theorem Good.receive {rest : List ZombieReaperMessage} (good : s.Good settled) (atSelect : s.phase = .select)
    (available : s.channel = process :: rest) :
    Good { s with phase := .received process, channel := rest, received := s.received ++ [process] }
      settled := by
  have before := good.kept (by rw [atSelect]; simp)
  refine ⟨?_, fun _ => ?_, good.answered, good.waited, good.ended, good.seen, good.reaped,
    fun stopped => by cases stopped⟩
  · have apart := good.apart
    rw [available] at apart
    simpa only [List.append_assoc, List.singleton_append] using apart
  · simp only [waiting, atSelect, Phase.inHand, List.append_nil, List.append_assoc] at before ⊢
    refine List.Perm.trans ?_ (List.Perm.append_right _ before)
    rw [List.append_assoc]
    exact List.Perm.append_left _ List.perm_append_comm

theorem Good.split_off (good : s.Good settled) (polling : s.phase = .selectSignal) (lastSeen : Nat) :
    Good { s with phase := .reaping s.processes, processes := [], lastSeen := lastSeen, noticed := s.exited }
      settled := by
  have before := good.kept (by rw [polling]; simp)
  refine ⟨good.apart, fun _ => ?_, good.answered, good.waited, good.ended, fun _ runs => runs, ?_,
    fun stopped => by cases stopped⟩
  · simpa only [waiting, polling, Phase.inHand, List.append_nil, List.nil_append] using before
  · intro process member
    cases member

theorem Good.stop (good : s.Good settled) (closed : s.closed = true) :
    Good { s with phase := .stopped, processes := [] } settled := by
  refine ⟨good.apart, fun running => absurd rfl running, good.answered, good.waited, good.ended, good.seen, ?_,
    fun _ => closed⟩
  intro process member
  cases member

/-- `poll_recv` has no error to return. -/
theorem pollRecv_ne_error (counter lastSeen seen : Nat) (err : IoError) :
    pollRecv counter lastSeen ≠ (.ready (.error err), seen) := by
  unfold pollRecv
  split <;> simp

theorem Good.step {label : ReaperStep} (good : s.Good settled) (stepped : s.step label = some t) :
    ∃ settled', t.Good settled' := by
  cases label with
  | send process =>
      simp only [Reaper.step, Option.ite_none_right_eq_some, Option.some.injEq] at stepped
      obtain ⟨⟨-, apart⟩, rfl⟩ := stepped
      exact ⟨settled, good.send apart⟩
  | close =>
      cases stepped
      exact ⟨settled, good.apart, good.kept, good.answered, good.waited, good.ended, good.seen, good.reaped,
        fun _ => rfl⟩
  | exit child status =>
      simp only [Reaper.step, Option.ite_none_right_eq_some, Option.some.injEq] at stepped
      obtain ⟨-, rfl⟩ := stepped
      exact ⟨settled, good.exit⟩
  | notify =>
      cases stepped
      exact ⟨settled, good.apart, good.kept, good.answered, good.waited, good.ended, good.seen, good.reaped,
        good.stops⟩
  | signalNew =>
      simp only [Reaper.step] at stepped
      split at stepped <;> cases stepped
      rename_i starting
      exact ⟨settled, good.move (by rw [starting]; rfl) rfl (by rw [starting]; simp) (by simp) _⟩
  | poll =>
      simp only [Reaper.step] at stepped
      split at stepped
      · rename_i process rest atSelect available
        cases stepped
        exact ⟨settled, good.receive atSelect available⟩
      · rename_i atSelect empty
        split at stepped <;> cases stepped
        · rename_i closed
          exact ⟨settled, good.stop closed⟩
        · exact ⟨settled, good.move (by rw [atSelect]; rfl) rfl (by rw [atSelect]; simp) (by simp) _⟩
      · cases stepped
  | pollSignal =>
      simp only [Reaper.step] at stepped
      split at stepped
      · rename_i lastSeen polling polled
        cases stepped
        exact ⟨settled, good.split_off polling lastSeen⟩
      · rename_i polling polled
        exact absurd polled (pollRecv_ne_error _ _ _ _)
      · rename_i lastSeen polling polled
        cases stepped
        exact ⟨settled, good.move (by rw [polling]; rfl) rfl (by rw [polling]; simp) (by simp) _⟩
      · cases stepped
  | tryWait failure =>
      simp only [Reaper.step] at stepped
      split at stepped <;> cases stepped
      · rename_i process holds
        exact good.tryWait (by rw [holds]; rfl) (by simp)
      · rename_i process rest holds
        exact good.tryWait (by rw [holds]; rfl) (by simp)
  | finishPass =>
      simp only [Reaper.step] at stepped
      split at stepped <;> cases stepped
      rename_i done
      exact ⟨settled, good.move (by rw [done]; rfl) rfl (by rw [done]; simp) (by simp) _⟩

/-! ## From the bookkeeping to the account -/

theorem apart_symm {a b : ZombieReaperMessage} (apart : a.Apart b) : b.Apart a := by
  refine ⟨apart.1.symm, ?_⟩
  rcases apart.2 with none_ | different
  · rw [none_]
    exact eq_or_ne b.sender none
  · exact .inr different.symm

instance : Std.Symm ZombieReaperMessage.Apart := ⟨fun _ _ => apart_symm⟩

theorem Good.received_apart (good : s.Good settled) : s.received.Pairwise ZombieReaperMessage.Apart :=
  (List.pairwise_append.mp good.apart).1

/-- Received messages that have a part in common are the same message. -/
theorem Good.eq_of_common {a b : ZombieReaperMessage} (good : s.Good settled) (left : a ∈ s.received)
    (right : b ∈ s.received) (common : ¬ a.Apart b) : a = b := by
  by_contra different
  exact common (good.received_apart.forall left right different)

theorem Good.settled_received (good : s.Good settled) (running : s.phase ≠ .stopped)
    {entry : ZombieReaperMessage × Except IoError Int} (member : entry ∈ settled) : entry.1 ∈ s.received :=
  (good.kept running).subset (List.mem_append_right _ (List.mem_map_of_mem member))

/-- What has been answered is what is settled. -/
theorem Good.answered_iff (good : s.Good settled) (running : s.phase ≠ .stopped)
    (member : process ∈ s.received) :
    s.Answered process ↔ process ∈ settled.map Prod.fst := by
  constructor
  · intro answered
    obtain ⟨entry, among, common⟩ : ∃ entry ∈ settled, ¬ entry.1.Apart process := by
      unfold Answered at answered
      split at answered
      · rename_i sender has
        obtain ⟨result, told⟩ := answered
        rw [good.answered, List.mem_filterMap] at told
        obtain ⟨entry, among, replied⟩ := told
        obtain ⟨sender', has', same⟩ := Option.map_eq_some_iff.mp replied
        cases same
        refine ⟨entry, among, fun apart => ?_⟩
        rcases apart.2 with none_ | different
        · rw [none_] at has'
          cases has'
        · exact different (has'.trans has.symm)
      · obtain ⟨result, waited, notRunning⟩ := answered
        obtain ⟨entry, among, same⟩ := good.ended _ _ waited notRunning
        exact ⟨entry, among, fun apart => apart.1 same⟩
    rw [← good.eq_of_common (good.settled_received running among) member common]
    exact List.mem_map_of_mem among
  · intro among
    obtain ⟨⟨_, result⟩, entry, rfl⟩ := List.mem_map.mp among
    unfold Answered
    split
    · rename_i sender has
      refine ⟨result, ?_⟩
      rw [good.answered, List.mem_filterMap]
      exact ⟨_, entry, Option.map_eq_some_iff.mpr ⟨sender, has, rfl⟩⟩
    · refine ⟨_, good.waited _ _ entry, ?_⟩
      cases result <;> simp [Except.map]

theorem Good.senders_nodup (good : s.Good settled) (running : s.phase ≠ .stopped) :
    (s.answers.map Prod.fst).Nodup := by
  have entries : (settled.map Prod.fst).Pairwise ZombieReaperMessage.Apart :=
    (List.pairwise_append.mp ((good.kept running).pairwise_iff apart_symm |>.mpr good.received_apart)).2.1
  rw [List.pairwise_map] at entries
  rw [good.answered, List.Nodup, List.pairwise_map, List.pairwise_filterMap]
  refine entries.imp fun {a b} apart left leftReply right rightReply same => ?_
  obtain ⟨sender, has, rfl⟩ := Option.map_eq_some_iff.mp leftReply
  obtain ⟨sender', has', rfl⟩ := Option.map_eq_some_iff.mp rightReply
  rcases apart.2 with none_ | different
  · rw [none_] at has
    cases has
  · exact different (has.trans ((congrArg some same).trans has'.symm))

theorem Good.accounts (good : s.Good settled) (running : s.phase ≠ .stopped) : s.Accounts := by
  have perm := good.kept running
  have received : s.received.Nodup := good.received_apart.imp fun apart same => apart.1 (congrArg _ same)
  have all := List.nodup_append.mp (perm.nodup_iff.mpr received)
  refine ⟨fun process member => ?_, all.1, good.senders_nodup running, fun sender result told => ?_,
    good.reaped⟩
  · rw [good.answered_iff running member]
    rcases List.mem_append.mp (perm.mem_iff.mpr member) with waits | settles
    · exact .inl ⟨waits, fun settles => all.2.2 _ waits _ settles rfl⟩
    · exact .inr ⟨settles, fun waits => all.2.2 _ waits _ settles rfl⟩
  · rw [good.answered, List.mem_filterMap] at told
    obtain ⟨⟨process, outcome⟩, among, replied⟩ := told
    obtain ⟨sender', has, same⟩ := Option.map_eq_some_iff.mp replied
    cases same
    exact ⟨process, good.settled_received running among, has, good.waited _ _ among⟩

end Reaper

/-- **The reaper's account.**  In every run, as long as the channel is open: every message that
was received waits or has been answered and not both, senders are answered once and with what
`try_wait` said of their own child, and no child in the list had exited when the latest signal
was taken. -/
theorem reaper_accounts (s : Reaper) (reachable : reaperMachine.Reachable s) (opened : s.closed = false) :
    s.Accounts := by
  have always : ∃ settled, s.Good settled := by
    refine Machine.invariant (I := fun s => ∃ settled, s.Good settled) ?_ ?_ reachable
    · rintro _ rfl
      exact ⟨[], Reaper.new_good⟩
    · rintro before label after ⟨settled, good⟩ stepped
      exact good.step stepped
  obtain ⟨settled, good⟩ := always
  refine good.accounts fun stopped => ?_
  rw [good.stops stopped] at opened
  cases opened

/-- Three children; two exit, the second of them before it is received, and two signals are
taken as one. -/
def Reaper.twoExits : List ReaperStep :=
  [.signalNew, .send ⟨1, some 11⟩, .send ⟨2, some 12⟩, .send ⟨3, none⟩, .poll, .tryWait none, .exit 2 256,
    .notify, .poll, .tryWait none, .poll, .tryWait none, .exit 1 0, .notify, .poll, .pollSignal,
    .tryWait none, .tryWait none, .finishPass]

theorem reaper_accounts_two_exits :
    ∃ s, reaperMachine.exec .new Reaper.twoExits = some s ∧ s.Accounts ∧
      s.processes = [⟨3, none⟩] ∧ s.answers = [(12, .ok 256), (11, .ok 0)] := by
  have ran : (reaperMachine.exec .new Reaper.twoExits).isSome = true := by decide
  obtain ⟨s, ends⟩ := Option.isSome_iff_exists.mp ran
  refine ⟨s, ends, reaper_accounts s ⟨.new, _, rfl, ends⟩ ?_, ?_, ?_⟩ <;> (cases ends; rfl)

end Vibeio.Process
