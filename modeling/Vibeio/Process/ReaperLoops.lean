/-
# Process.ReaperLoops -- the forms of the reaper, as a runtime meets them

`zombie_reaper_fn` is written four times, for what a platform offers to wait with.  All take
their messages from a channel, all end when the channel is closed and empty, and each does
something else with a child that still runs.

* `ReaperLoop`: a loop, with what each of its steps may do to the messages it holds.
* `signalLoop`: the loop of `Process.Reaper`, which keeps such children in a list until the
  next signal, and ends with what is in the list.
* `taskLoop`: the others, which start a task, a registered wait or a closure for each child.
-/
import Vibeio.Process.Reaper

namespace Vibeio.Process

open Vibeio.Theory
open Vibeio.Driver (IoError)

set_option autoImplicit false

/-! ## One loop -/

def children (messages : List ZombieReaperMessage) : List Nat := messages.map (·.child)

/-- What a step does to the messages of a loop: it moves them, has an answer for one of them,
or lets some go. -/
inductive Disposed (before after : List ZombieReaperMessage)
    (answers answers' : List (Nat × Except IoError Int)) (loses : Prop) : Prop where
  | moved (held : after.Perm before) (same : answers' = answers) (keeps : ¬ loses)
  | settled (process : ZombieReaperMessage) (result : Except IoError Int)
      (held : (process :: after).Perm before)
      (same : answers' = answers ++ (Reaper.reply (process, result)).toList) (keeps : ¬ loses)
  | lost (gone : List ZombieReaperMessage) (some : gone ≠ []) (held : (gone ++ after).Perm before)
      (same : answers' = answers) (loses : loses)

/-- `holding` is the channel with everything that came out of it and has no answer yet. -/
structure ReaperLoop (L K : Type) where
  started : (Nat → Option Int) → L
  send : L → ZombieReaperMessage → L
  close : L → L
  exit : L → Nat → Int → L
  step : L → K → Option L
  closed : L → Bool
  ended : L → Bool
  holding : L → List ZombieReaperMessage
  answers : L → List (Nat × Except IoError Int)
  Loses : L → K → Prop
  started_spec : ∀ exited, holding (started exited) = [] ∧ answers (started exited) = [] ∧
    closed (started exited) = false ∧ ended (started exited) = false
  send_spec : ∀ l process, (holding (send l process)).Perm (process :: holding l) ∧
    answers (send l process) = answers l ∧ closed (send l process) = closed l ∧
    ended (send l process) = ended l
  close_spec : ∀ l, holding (close l) = holding l ∧ answers (close l) = answers l
  exit_spec : ∀ l child status, holding (exit l child status) = holding l ∧
    answers (exit l child status) = answers l ∧ closed (exit l child status) = closed l ∧
    ended (exit l child status) = ended l
  step_spec : ∀ l k next, step l k = some next →
    Disposed (holding l) (holding next) (answers l) (answers next) (Loses l k) ∧
      closed next = closed l ∧ (ended next = true → closed l = true ∨ ended l = true)

/-! ## The loop that waits for signals -/

/-- The steps a loop takes by itself, and the signals. -/
def signalStep (s : Reaper) : ReaperStep → Option Reaper
  | .send _ | .close | .exit _ _ => none
  | label => s.step label

def signalHolding (s : Reaper) : List ZombieReaperMessage := s.channel ++ s.waiting

/-- The loop ends with children in its list. -/
def SignalLoses (s : Reaper) (label : ReaperStep) : Prop :=
  label = .poll ∧ s.phase = .select ∧ s.channel = [] ∧ s.closed = true ∧ s.processes ≠ []

instance (s : Reaper) (label : ReaperStep) : Decidable (SignalLoses s label) :=
  inferInstanceAs (Decidable (_ ∧ _ ∧ _ ∧ _ ∧ _))

theorem handle_disposed {s : Reaper} {process : ZombieReaperMessage} {failure : Option IoError} {next : Phase}
    {loses : Prop} (inHand : s.phase.inHand = process :: next.inHand) (keeps : ¬ loses) :
    Disposed (signalHolding s) (signalHolding { s.handle process failure with phase := next }) s.answers
      (s.handle process failure).answers loses := by
  rcases Reaper.handle_cases s process failure with ⟨-, handled⟩ | ⟨result, handled⟩
  · rw [handled]
    refine .moved ?_ rfl keeps
    simp only [signalHolding, Reaper.waiting, inHand, List.append_assoc, List.singleton_append]
    exact List.Perm.refl _
  · rw [handled]
    refine .settled process result ?_ rfl keeps
    simp only [signalHolding, Reaper.waiting, inHand]
    rw [← List.append_assoc, ← List.append_assoc]
    exact List.perm_middle.symm

theorem signal_step_spec (s : Reaper) (label : ReaperStep) (next : Reaper)
    (stepped : signalStep s label = some next) :
    Disposed (signalHolding s) (signalHolding next) s.answers next.answers (SignalLoses s label) ∧
      next.closed = s.closed ∧
      (decide (next.phase = .stopped) = true → s.closed = true ∨ decide (s.phase = .stopped) = true) := by
  have keeps (other : label ≠ .poll) : ¬ SignalLoses s label := fun loses => other loses.1
  cases label with
  | send process => cases stepped
  | close => cases stepped
  | exit child status => cases stepped
  | notify =>
      cases stepped
      exact ⟨.moved (List.Perm.refl _) rfl (keeps (by simp)), rfl, .inr⟩
  | signalNew =>
      simp only [signalStep, Reaper.step] at stepped
      split at stepped <;> cases stepped
      rename_i starting
      refine ⟨.moved ?_ rfl (keeps (by simp)), rfl, fun stopped => by cases stopped⟩
      simp only [signalHolding, Reaper.waiting, starting, Phase.inHand]
      exact List.Perm.refl _
  | poll =>
      simp only [signalStep, Reaper.step] at stepped
      split at stepped
      · rename_i process rest atSelect available
        cases stepped
        refine ⟨.moved ?_ rfl ?_, rfl, fun stopped => by cases stopped⟩
        · simp only [signalHolding, Reaper.waiting, atSelect, available, Phase.inHand, List.append_nil]
          rw [← List.append_assoc]
          exact List.perm_append_singleton process (rest ++ s.processes)
        · rintro ⟨-, -, empty, -⟩
          rw [available] at empty
          cases empty
      · rename_i atSelect empty
        split at stepped <;> cases stepped
        · rename_i closed
          refine ⟨?_, rfl, fun _ => .inl closed⟩
          by_cases none : s.processes = []
          · refine .moved ?_ rfl fun loses => loses.2.2.2.2 none
            simp [signalHolding, Reaper.waiting, atSelect, none, Phase.inHand]
          · refine .lost s.processes none ?_ rfl ⟨rfl, atSelect, empty, closed, none⟩
            simp [signalHolding, Reaper.waiting, atSelect, empty, Phase.inHand]
        · rename_i opened
          refine ⟨.moved ?_ rfl fun loses => opened loses.2.2.2.1, rfl, fun stopped => by cases stopped⟩
          simp only [signalHolding, Reaper.waiting, atSelect, Phase.inHand]
          exact List.Perm.refl _
      · cases stepped
  | pollSignal =>
      simp only [signalStep, Reaper.step] at stepped
      split at stepped
      · rename_i lastSeen polling polled
        cases stepped
        refine ⟨.moved ?_ rfl (keeps (by simp)), rfl, fun stopped => by cases stopped⟩
        simp [signalHolding, Reaper.waiting, polling, Phase.inHand]
      · rename_i polling polled
        exact absurd polled (Reaper.pollRecv_ne_error _ _ _ _)
      · rename_i lastSeen polling polled
        cases stepped
        refine ⟨.moved ?_ rfl (keeps (by simp)), rfl, fun stopped => by cases stopped⟩
        simp only [signalHolding, Reaper.waiting, polling, Phase.inHand]
        exact List.Perm.refl _
      · cases stepped
  | tryWait failure =>
      have beside (process : ZombieReaperMessage) : (s.handle process failure).closed = s.closed := by
        rcases Reaper.handle_cases s process failure with ⟨-, handled⟩ | ⟨result, handled⟩ <;> rw [handled]
      simp only [signalStep, Reaper.step] at stepped
      split at stepped <;> cases stepped
      · rename_i process holds
        refine ⟨handle_disposed (by rw [holds]; rfl) (keeps (by simp)), beside process, fun stopped => ?_⟩
        cases stopped
      · rename_i process rest holds
        refine ⟨handle_disposed (by rw [holds]; rfl) (keeps (by simp)), beside process, fun stopped => ?_⟩
        cases stopped
  | finishPass =>
      simp only [signalStep, Reaper.step] at stepped
      split at stepped <;> cases stepped
      rename_i done
      refine ⟨.moved ?_ rfl (keeps (by simp)), rfl, fun stopped => by cases stopped⟩
      simp only [signalHolding, Reaper.waiting, done, Phase.inHand]
      exact List.Perm.refl _

/-- `zombie_reaper_fn_unix` with the feature `signal`. -/
def signalLoop : ReaperLoop Reaper ReaperStep where
  started exited := { Reaper.new with exited := exited }
  send s process := { s with channel := s.channel ++ [process] }
  close s := { s with closed := true }
  exit s child status := { s with exited := Function.update s.exited child (some status) }
  step := signalStep
  closed s := s.closed
  ended s := decide (s.phase = .stopped)
  holding := signalHolding
  answers s := s.answers
  Loses := SignalLoses
  started_spec _ := ⟨rfl, rfl, rfl, rfl⟩
  send_spec s process := by
    refine ⟨?_, rfl, rfl, rfl⟩
    simp only [signalHolding, Reaper.waiting, List.append_assoc, List.singleton_append]
    exact List.perm_middle
  close_spec _ := ⟨rfl, rfl⟩
  exit_spec _ _ _ := ⟨rfl, rfl, rfl, rfl⟩
  step_spec := signal_step_spec

/-! ## The loops that start something for every child -/

/-- `tasks` are the children something was started for, and `answered` what was sent. -/
structure TaskLoop where
  channel : List ZombieReaperMessage
  isClosed : Bool
  tasks : List ZombieReaperMessage
  answered : List (Nat × Except IoError Int)
  exited : Nat → Option Int
  isEnded : Bool

inductive TaskStep where
  /-- `failure` is what `waitpid` fails with, if it does. -/
  | receive (failure : Option IoError)
  | complete (process : ZombieReaperMessage) (result : Except IoError Int)
  /-- The pool does not take the closure. -/
  | refuse (process : ZombieReaperMessage)
  deriving DecidableEq, Repr

/-- What the forms differ in. -/
structure TaskWay where
  triesFirst : Bool
  mayRefuse : Bool

/-- `zombie_reaper_fn_linux_pidfd`: a task with a `WaitPidOp`. -/
def pidfdWay : TaskWay := ⟨true, false⟩

/-- The reaper on Windows: a registered wait, and a thread where it cannot be registered. -/
def windowsWay : TaskWay := ⟨true, false⟩

/-- `zombie_reaper_fn_unix` without the feature `signal`: a closure on the pool. -/
def poolWay : TaskWay := ⟨false, true⟩

namespace TaskLoop

variable (way : TaskWay)

def answer (s : TaskLoop) (process : ZombieReaperMessage) (result : Except IoError Int) : TaskLoop :=
  { s with answered := s.answered ++ (Reaper.reply (process, result)).toList }

def receive (s : TaskLoop) (process : ZombieReaperMessage) (failure : Option IoError) : TaskLoop :=
  if way.triesFirst then
    match failure, s.exited process.child with
    | some err, _ => s.answer process (.error err)
    | none, some status => s.answer process (.ok status)
    | none, none => { s with tasks := s.tasks ++ [process] }
  else { s with tasks := s.tasks ++ [process] }

def step (s : TaskLoop) : TaskStep → Option TaskLoop
  | .receive failure =>
      if s.isEnded then none
      else
        match s.channel with
        | process :: rest => some ({ s with channel := rest }.receive way process failure)
        | [] => if s.isClosed then some { s with isEnded := true } else none
  | .complete process result =>
      if process ∈ s.tasks then some ({ s with tasks := s.tasks.erase process }.answer process result) else none
  | .refuse process =>
      if way.mayRefuse = true ∧ process ∈ s.tasks then some { s with tasks := s.tasks.erase process } else none

/-- What was started goes without an answer. -/
def Loses (s : TaskLoop) (label : TaskStep) : Prop :=
  ∃ process, label = .refuse process ∧ way.mayRefuse = true ∧ process ∈ s.tasks

theorem erase_held {s : TaskLoop} {process : ZombieReaperMessage} (member : process ∈ s.tasks) :
    (process :: (s.channel ++ s.tasks.erase process)).Perm (s.channel ++ s.tasks) := by
  have front : (process :: (s.channel ++ s.tasks.erase process)).Perm
      (s.channel ++ process :: s.tasks.erase process) := List.perm_middle.symm
  exact front.trans (List.Perm.append_left _ (List.perm_cons_erase member).symm)

theorem step_spec (s : TaskLoop) (label : TaskStep) (next : TaskLoop) (stepped : s.step way label = some next) :
    Disposed (s.channel ++ s.tasks) (next.channel ++ next.tasks) s.answered next.answered (s.Loses way label) ∧
      next.isClosed = s.isClosed ∧ (next.isEnded = true → s.isClosed = true ∨ s.isEnded = true) := by
  cases label with
  | receive failure =>
      have keeps : ¬ s.Loses way (.receive failure) := by rintro ⟨process, ⟨⟩, -⟩
      simp only [step] at stepped
      split at stepped
      · cases stepped
      · rename_i running
        split at stepped
        · rename_i process rest available
          cases stepped
          have started : Disposed (s.channel ++ s.tasks) (rest ++ (s.tasks ++ [process])) s.answered s.answered
              (s.Loses way (.receive failure)) := by
            refine .moved ?_ rfl keeps
            rw [available, ← List.append_assoc]
            exact List.perm_append_singleton process (rest ++ s.tasks)
          have told (result : Except IoError Int) : Disposed (s.channel ++ s.tasks) (rest ++ s.tasks) s.answered
              (s.answered ++ (Reaper.reply (process, result)).toList) (s.Loses way (.receive failure)) := by
            refine .settled process result ?_ rfl keeps
            rw [available]
            exact List.Perm.refl _
          unfold receive
          split
          · split
            · exact ⟨told _, rfl, .inr⟩
            · exact ⟨told _, rfl, .inr⟩
            · exact ⟨started, rfl, .inr⟩
          · exact ⟨started, rfl, .inr⟩
        · split at stepped <;> cases stepped
          rename_i closed
          exact ⟨.moved (List.Perm.refl _) rfl keeps, rfl, fun _ => .inl closed⟩
  | complete process result =>
      have keeps : ¬ s.Loses way (.complete process result) := by rintro ⟨other, ⟨⟩, -⟩
      simp only [step, Option.ite_none_right_eq_some, Option.some.injEq] at stepped
      obtain ⟨member, rfl⟩ := stepped
      exact ⟨.settled process result (erase_held member) rfl keeps, rfl, .inr⟩
  | refuse process =>
      simp only [step, Option.ite_none_right_eq_some, Option.some.injEq] at stepped
      obtain ⟨⟨refuses, member⟩, rfl⟩ := stepped
      exact ⟨.lost [process] (by simp) (erase_held member) rfl ⟨process, rfl, refuses, member⟩, rfl, .inr⟩

end TaskLoop

def taskLoop (way : TaskWay) : ReaperLoop TaskLoop TaskStep where
  started exited := ⟨[], false, [], [], exited, false⟩
  send s process := { s with channel := s.channel ++ [process] }
  close s := { s with isClosed := true }
  exit s child status := { s with exited := Function.update s.exited child (some status) }
  step := TaskLoop.step way
  closed s := s.isClosed
  ended s := s.isEnded
  holding s := s.channel ++ s.tasks
  answers s := s.answered
  Loses := TaskLoop.Loses way
  started_spec _ := ⟨rfl, rfl, rfl, rfl⟩
  send_spec s process := by
    refine ⟨?_, rfl, rfl, rfl⟩
    rw [List.append_assoc, List.singleton_append]
    exact List.perm_middle
  close_spec _ := ⟨rfl, rfl⟩
  exit_spec _ _ _ := ⟨rfl, rfl, rfl, rfl⟩
  step_spec := TaskLoop.step_spec way

end Vibeio.Process
