/-
# Process.Reapers -- the children that a runtime has promised to wait for

A child leaves its `Child` to be waited for: in the future of `wait`, in the hands of a
reaper, or on a thread of its own.  The reaper is started by the first call that finds none,
and what was found is not looked at again once the call has suspended: two calls can start
one each, and the later fills the slot of the earlier.

* `Reapers`: one runtime with its children, its calls of `wait`, its reapers and threads; each
  call moves as `WaitCall` does, and each loop as its `ReaperLoop`.
* `Kept`: every child is with somebody who will wait for it, or has been waited for.
* `Placed`: the invariant behind it, a child in one place and each channel that somebody can
  send to open.
* `Placed.step`: every step that lets go of no child keeps it.
-/
import Vibeio.Process.Cancel
import Vibeio.Process.ReaperLoops

namespace Vibeio.Process

open Vibeio.Theory
open Vibeio.Driver (IoError)

set_option autoImplicit false

/-! ## A runtime -/

/-- The child that a call of `wait` has with it. -/
def WaitPc.child : WaitPc → Option Nat
  | .lookup child | .joining child | .suspendedJoining child | .sending child | .blocking child => some child
  | _ => none

def WaitPc.receives : WaitPc → Bool
  | .receiving | .suspendedReceiving => true
  | _ => false

def WaitPc.returns : WaitPc → Bool
  | .returned _ => true
  | _ => false

/-- A task of `start_zombie_reaper`.  `handle` is the call that has its join handle, which
has the sender of the new reaper in it once the task is finished. -/
inductive Start where
  | unused
  | queued (handle : Option Nat)
  | finished (handle : Option Nat)
  deriving DecidableEq, Repr

def Start.holdsSender : Start → Bool
  | .finished (some _) => true
  | _ => false

/-- The call lets go of its join handle. -/
def Start.letGo (call : Nat) : Start → Start
  | .queued (some other) => if other = call then .queued none else .queued (some other)
  | .finished (some other) => if other = call then .finished none else .finished (some other)
  | start => start

/-- `slot` is `zombie_reaper`; a loop goes by the number of the task that started it.
`calls` are the `Child` values, each with its call of `wait`, by process.  `senders` are the
calls with a sender of a loop, `sent` says to which loop a child went, and `threads` and
`settled` are the children that a thread waits for and those that were waited for
elsewhere than in a loop. -/
structure Reapers (L : Type) where
  slot : Option Nat
  starts : Nat → Start
  loops : Nat → Option L
  senders : Nat → List Nat
  calls : Nat → Option WaitCall
  sent : Nat → Option Nat
  threads : List Nat
  settled : List Nat
  exited : Nat → Option Int

inductive ReapersLabel (K : Type) where
  | spawn (child : Nat)
  | exit (child : Nat) (status : Int)
  /-- The steps of a call of `wait`; `start` is the number of the task it spawns. -/
  | poll (child : Nat)
  | lookup (child : Nat) (inside : Bool) (start : Nat)
  | joined (child start : Nat)
  | send (child reaper : Nat)
  | receive (child : Nat)
  | waited (child : Nat) (result : Except IoError Int)
  | cancel (child : Nat)
  /-- `Child` is dropped; `exited` tells whether its `try_wait` has found it so. -/
  | dropChild (child : Nat) (exited inside : Bool) (start : Nat)
  | start (start : Nat)
  /-- The last sender of a loop is gone. -/
  | close (reaper : Nat)
  | loop (reaper : Nat) (step : K)
  | thread (child : Nat)

namespace Reapers

variable {L K : Type} (api : ReaperLoop L K)

def setCall (s : Reapers L) (child : Nat) (call : WaitCall) : Reapers L :=
  { s with calls := Function.update s.calls child (some call) }

/-- A step of the call itself. -/
def advance (s : Reapers L) (child : Nat) (label : WaitLabel) : Option (Reapers L) :=
  match s.calls child with
  | some call => (call.step label).map (s.setCall child)
  | none => none

def setStart (s : Reapers L) (start : Nat) (next : Start) : Reapers L :=
  { s with starts := Function.update s.starts start next }

def addSender (s : Reapers L) (reaper child : Nat) : Reapers L :=
  { s with senders := Function.update s.senders reaper (child :: s.senders reaper) }

/-- `slot` is filled, whatever was in it. -/
def fill (s : Reapers L) (reaper : Nat) : Reapers L := { s with slot := some reaper }

def deliver (s : Reapers L) (child reaper : Nat) (l : L) : Reapers L :=
  { s with
    loops := Function.update s.loops reaper (some (api.send l ⟨child, some child⟩))
    sent := Function.update s.sent child (some reaper) }

/-- What a call has is dropped with it: its sender and its join handle. -/
def release (s : Reapers L) (child : Nat) : Reapers L :=
  { s with
    senders := fun reaper => (s.senders reaper).filter (· ≠ child)
    starts := fun start => (s.starts start).letGo child }

/-- Somebody has a sender of the loop. -/
def HasSender (s : Reapers L) (reaper : Nat) : Prop :=
  s.slot = some reaper ∨ (s.starts reaper).holdsSender = true ∨ s.senders reaper ≠ []

instance (s : Reapers L) (reaper : Nat) : Decidable (s.HasSender reaper) :=
  inferInstanceAs (Decidable (_ ∨ _ ∨ _))

/-- `current_zombie_reaper`, as a call of `wait` meets it. -/
def lookup (s : Reapers L) (child : Nat) (inside : Bool) (start : Nat) : Option (Reapers L) :=
  if inside = false then s.advance child (.lookup .outside)
  else
    match s.slot with
    | some reaper => (s.advance child (.lookup .running)).map (·.addSender reaper child)
    | none =>
        if s.starts start = .unused then
          (s.advance child (.lookup .missing)).map (·.setStart start (.queued (some child)))
        else none

/-- The rest of it: the slot is filled, and the call goes on with a sender of its own. -/
def joined (s : Reapers L) (child start : Nat) : Option (Reapers L) :=
  if s.starts start = .queued (some child) then s.advance child (.joined false)
  else if s.starts start = .finished (some child) then
    (s.advance child (.joined true)).map fun s =>
      ((s.setStart start (.finished none)).fill start).addSender start child
  else none

/-- The word of the loop, `none` while there is none, and `some none` when the sender of the
word is gone. -/
def answerFor (s : Reapers L) (child : Nat) : Option (Option (Except IoError Int)) :=
  match s.sent child with
  | none => some none
  | some reaper =>
      match s.loops reaper with
      | none => some none
      | some l =>
          match (api.answers l).lookup child with
          | some result => some (some result)
          | none => if child ∈ children (api.holding l) then none else some none

def receive (s : Reapers L) (child : Nat) : Option (Reapers L) :=
  match s.answerFor api child with
  | none => s.advance child (.receive none)
  | some answer => (s.advance child (.receive (some answer))).map (·.release child)

def send (s : Reapers L) (child reaper : Nat) : Option (Reapers L) :=
  if child ∈ s.senders reaper then
    match s.loops reaper with
    | none => none
    | some l =>
        if api.ended l = true then s.advance child (.send false)
        else (s.advance child (.send true)).map (·.deliver api child reaper l)
  else none

/-- `reap_on_drop`.  Where there is no reaper one is started all the same, and its sender
dropped at once. -/
def reapOnDrop (s : Reapers L) (child : Nat) (exited inside : Bool) (start : Nat) : Option (Reapers L) :=
  if exited = true then some { s with settled := child :: s.settled }
  else if inside = false then some { s with threads := child :: s.threads }
  else
    match s.slot with
    | some reaper =>
        match s.loops reaper with
        | none => none
        | some l => if api.ended l = true then some s else some (s.deliver api child reaper l)
    | none =>
        if s.starts start = .unused then
          some ({ s with threads := child :: s.threads }.setStart start (.queued none))
        else none

/-- `Drop` for `Child`, which no call borrows. -/
def dropChild (s : Reapers L) (child : Nat) (exited inside : Bool) (start : Nat) : Option (Reapers L) :=
  match s.calls child with
  | none => none
  | some call =>
      match call.pc with
      | .start | .returned _ | .dropped =>
          match call.inner with
          | none => some s
          | some _ =>
              (s.setCall child { call with stdin := false, inner := none, pc := .dropped }).reapOnDrop api child
                exited inside start
      | _ => none

def step (s : Reapers L) : ReapersLabel K → Option (Reapers L)
  | .spawn child =>
      if s.calls child = none then some (s.setCall child (.fresh child (some child) true)) else none
  | .exit child status =>
      if s.exited child = none then
        some { s with
          exited := Function.update s.exited child (some status)
          loops := fun reaper => (s.loops reaper).map fun l => api.exit l child status }
      else none
  | .poll child => s.advance child .poll
  | .lookup child inside start => s.lookup child inside start
  | .joined child start => s.joined child start
  | .send child reaper => s.send api child reaper
  | .receive child => s.receive api child
  | .waited child result =>
      (s.advance child (.waited result)).map fun s => { s with settled := child :: s.settled }
  | .cancel child =>
      match s.calls child with
      | some call =>
          if call.pc.suspended = true then (s.advance child .drop).map (·.release child) else none
      | none => none
  | .dropChild child exited inside start => s.dropChild api child exited inside start
  | .start start =>
      match s.starts start with
      | .queued handle =>
          some { s.setStart start (.finished handle) with
            loops := Function.update s.loops start (some (api.started s.exited)) }
      | _ => none
  | .close reaper =>
      match s.loops reaper with
      | some l =>
          if s.HasSender reaper then none
          else some { s with loops := Function.update s.loops reaper (some (api.close l)) }
      | none => none
  | .loop reaper step =>
      match s.loops reaper with
      | some l => (api.step l step).map fun l => { s with loops := Function.update s.loops reaper (some l) }
      | none => none
  | .thread child => if child ∈ s.threads then some { s with settled := child :: s.settled } else none

def new : Reapers L :=
  ⟨none, fun _ => .unused, fun _ => none, fun _ => [], fun _ => none, fun _ => none, [], [], fun _ => none⟩

/-- A loop has the child, or has told what became of it. -/
def Told (l : L) (child : Nat) : Prop := child ∈ (api.answers l).map Prod.fst

/-- A child that has left its `Child` is with the call, with the loop it was sent to, with a
thread, or has been waited for; and a call that has returned is over. -/
def Accounted (s : Reapers L) (child : Nat) (call : WaitCall) : Prop :=
  match s.sent child with
  | none => call.pc.child = some child ∨ child ∈ s.threads ∨ child ∈ s.settled
  | some reaper => ∃ l, s.loops reaper = some l ∧
      (Told api l child ∨ (child ∈ children (api.holding l) ∧ call.pc.returns = false))

def Kept (s : Reapers L) : Prop :=
  ∀ child call, s.calls child = some call → call.inner = none → s.Accounted api child call

/-- The step lets go of no child: no `wait` is dropped at its join handle, and no loop loses
what it holds. -/
def Keeps (s : Reapers L) : ReapersLabel K → Prop
  | .cancel child => ∀ call, s.calls child = some call → ∀ inner, call.pc ≠ .suspendedJoining inner
  | .loop reaper step => ∀ l, s.loops reaper = some l → ¬ api.Loses l step
  | _ => True

end Reapers

def reapersMachine {L K : Type} (api : ReaperLoop L K) : Machine (Reapers L) (ReapersLabel K) where
  start s := s = .new
  step := Reapers.step api

/-! ## Where a child can be -/

namespace Reapers

variable {L K : Type} {api : ReaperLoop L K} {s t : Reapers L} {child reaper : Nat} {call next : WaitCall}

/-- The child has gone nowhere. -/
def Untouched (s : Reapers L) (child : Nat) : Prop :=
  s.sent child = none ∧ child ∉ s.threads ∧ child ∉ s.settled

structure Fits (s : Reapers L) (child : Nat) (call : WaitCall) : Prop where
  owned : ∀ other, call.inner = some other → other = child ∧ call.pc = .start ∧ s.Untouched child
  started : call.pc = .start → call.inner = some child
  carried : ∀ other, call.pc.child = some other → other = child ∧ call.inner = none ∧ s.Untouched child
  receiving : call.pc.receives = true → ∃ reaper, s.sent child = some reaper ∧ child ∈ s.senders reaper

/-- What a loop holds was sent to it, is there once, and has no answer. -/
structure Tidy (api : ReaperLoop L K) (s : Reapers L) (reaper : Nat) (l : L) : Prop where
  apart : (children (api.holding l)).Nodup
  own : ∀ process ∈ api.holding l, process.sender = some process.child ∧
    s.sent process.child = some reaper ∧ ¬ Told api l process.child
  told : ∀ child, Told api l child → s.sent child = some reaper

structure Placed (api : ReaperLoop L K) (s : Reapers L) : Prop where
  absent : ∀ child, s.calls child = none → s.Untouched child
  fits : ∀ child call, s.calls child = some call → s.Fits child call
  tidy : ∀ reaper l, s.loops reaper = some l → s.Tidy api reaper l
  sent : ∀ child reaper, s.sent child = some reaper → ∃ l, s.loops reaper = some l
  opened : ∀ reaper, s.HasSender reaper →
    ∃ l, s.loops reaper = some l ∧ api.closed l = false ∧ api.ended l = false
  made : ∀ reaper l, s.loops reaper = some l → ∃ handle, s.starts reaper = .finished handle
  kept : s.Kept api

theorem new_placed : (new : Reapers L).Placed api where
  absent _ _ := ⟨rfl, List.not_mem_nil, List.not_mem_nil⟩
  fits _ _ found := by cases found
  tidy _ _ found := by cases found
  sent _ _ sent := by cases sent
  opened _ has := by
    obtain slot | handle | senders := has
    · cases slot
    · cases handle
    · exact absurd rfl senders
  made _ _ found := by cases found
  kept _ _ found := by cases found

/-- The child is with its call. -/
theorem Accounted.carried (untouched : s.Untouched child) (carries : call.pc.child = some child) :
    s.Accounted api child call := by
  unfold Accounted
  rw [untouched.1]
  exact .inl carries

theorem Accounted.settled (notSent : s.sent child = none) (settled : child ∈ s.settled) :
    s.Accounted api child call := by
  unfold Accounted
  rw [notSent]
  exact .inr (.inr settled)

theorem Accounted.thread (notSent : s.sent child = none) (thread : child ∈ s.threads) :
    s.Accounted api child call := by
  unfold Accounted
  rw [notSent]
  exact .inr (.inl thread)

theorem Accounted.loop {l : L} (sent : s.sent child = some reaper) (found : s.loops reaper = some l)
    (has : Told api l child ∨ (child ∈ children (api.holding l) ∧ call.pc.returns = false)) :
    s.Accounted api child call := by
  unfold Accounted
  rw [sent]
  exact ⟨l, found, has⟩

/-- Nothing about a child goes back. -/
theorem Accounted.mono (accounted : s.Accounted api child call) (sent : t.sent child = s.sent child)
    (loops : ∀ reaper l, s.loops reaper = some l → ∃ l', t.loops reaper = some l' ∧
      (Told api l child → Told api l' child) ∧
      (child ∈ children (api.holding l) → child ∈ children (api.holding l') ∨ Told api l' child))
    (carries : s.sent child = none → call.pc.child = some child → next.pc.child = some child)
    (returns : call.pc.returns = false → next.pc.returns = false)
    (threads : child ∈ s.threads → child ∈ t.threads) (settled : child ∈ s.settled → child ∈ t.settled) :
    t.Accounted api child next := by
  unfold Accounted at accounted ⊢
  rw [sent]
  cases gone : s.sent child with
  | none =>
      rw [gone] at accounted
      exact accounted.imp (carries gone) (Or.imp threads settled)
  | some reaper =>
      rw [gone] at accounted
      obtain ⟨l, found, has⟩ := accounted
      obtain ⟨l', found', told, holds⟩ := loops reaper l found
      refine ⟨l', found', ?_⟩
      rcases has with already | ⟨held, running⟩
      · exact .inl (told already)
      · exact (holds held).symm.imp_right fun held => ⟨held, returns running⟩

/-! ## One call moves -/

theorem advance_eq {label : WaitLabel} (stepped : s.advance child label = some t) :
    ∃ call next, s.calls child = some call ∧ call.step label = some next ∧ t = s.setCall child next := by
  unfold advance at stepped
  split at stepped
  · rename_i call found
    obtain ⟨next, moved, rfl⟩ := Option.map_eq_some_iff.mp stepped
    exact ⟨call, next, found, moved, rfl⟩
  · cases stepped

@[simp] theorem setCall_calls (s : Reapers L) (child other : Nat) (call : WaitCall) :
    (s.setCall child call).calls other = if other = child then some call else s.calls other := by
  simp only [setCall, Function.update_apply]

/-- A step about one child, as the others see it. -/
structure Beside (api : ReaperLoop L K) (s t : Reapers L) (child : Nat) (call : WaitCall) : Prop where
  calls : t.calls = (s.setCall child call).calls
  sent : ∀ other, other ≠ child → t.sent other = s.sent other
  threads : ∀ other, other ≠ child → (other ∈ t.threads ↔ other ∈ s.threads)
  settled : ∀ other, other ≠ child → (other ∈ t.settled ↔ other ∈ s.settled)
  senders : ∀ other, other ≠ child → ∀ reaper, other ∈ s.senders reaper → other ∈ t.senders reaper
  loops : ∀ reaper l, s.loops reaper = some l → ∃ l', t.loops reaper = some l' ∧
    (∀ other, Told api l other → Told api l' other) ∧
    ∀ other, other ∈ children (api.holding l) → other ∈ children (api.holding l')

theorem Beside.untouched (beside : Beside api s t child call) {other : Nat} (different : other ≠ child)
    (was : s.Untouched other) : t.Untouched other := by
  refine ⟨(beside.sent other different).trans was.1, ?_, ?_⟩
  · exact fun member => was.2.1 ((beside.threads other different).mp member)
  · exact fun member => was.2.2 ((beside.settled other different).mp member)

theorem Beside.absent (beside : Beside api s t child call) (placed : s.Placed api) {other : Nat}
    (none : t.calls other = none) : t.Untouched other := by
  rw [beside.calls, setCall_calls] at none
  split at none
  · cases none
  · rename_i different
    exact beside.untouched different (placed.absent other none)

theorem Beside.fits (beside : Beside api s t child call) (placed : s.Placed api) (own : t.Fits child call)
    {other : Nat} (found : t.calls other = some next) : t.Fits other next := by
  rw [beside.calls, setCall_calls] at found
  split at found
  · rename_i same
    subst same
    cases found
    exact own
  · rename_i different
    have before := placed.fits other next found
    refine ⟨fun x owns => ?_, before.started, fun x carries => ?_, fun receives => ?_⟩
    · obtain ⟨same, start, was⟩ := before.owned x owns
      exact ⟨same, start, beside.untouched different was⟩
    · obtain ⟨same, inner, was⟩ := before.carried x carries
      exact ⟨same, inner, beside.untouched different was⟩
    · obtain ⟨reaper, went, member⟩ := before.receiving receives
      exact ⟨reaper, (beside.sent other different).trans went, beside.senders other different reaper member⟩

theorem Beside.kept (beside : Beside api s t child call) (placed : s.Placed api)
    (own : call.inner = none → t.Accounted api child call) : t.Kept api := by
  intro other next found gone
  rw [beside.calls, setCall_calls] at found
  split at found
  · rename_i same
    subst same
    cases found
    exact own gone
  · rename_i different
    refine (placed.kept other next found gone).mono (beside.sent other different) (fun reaper l found => ?_)
      (fun _ carries => carries) id (beside.threads other different).mpr (beside.settled other different).mpr
    obtain ⟨l', found', told, holds⟩ := beside.loops reaper l found
    exact ⟨l', found', told other, fun held => .inl (holds other held)⟩

/-- What a step may do to the senders: none is made but from another, and a finished start
stays finished. -/
structure Handles (s t : Reapers L) : Prop where
  has : ∀ reaper, t.HasSender reaper → s.HasSender reaper
  starts : ∀ reaper handle, s.starts reaper = .finished handle → ∃ handle, t.starts reaper = .finished handle

theorem Handles.same (slot : t.slot = s.slot) (starts : t.starts = s.starts) (senders : t.senders = s.senders) :
    Handles s t := by
  refine ⟨fun reaper has => ?_, fun reaper handle finished => ⟨handle, by rw [starts]; exact finished⟩⟩
  unfold HasSender at has ⊢
  rw [slot, starts, senders] at has
  exact has

/-- A start that was not used has no sender, nor has it while it is queued. -/
theorem Handles.queued {start : Nat} {handle : Option Nat} (unused : s.starts start = .unused)
    (slot : t.slot = s.slot) (starts : t.starts = Function.update s.starts start (.queued handle))
    (senders : t.senders = s.senders) : Handles s t := by
  refine ⟨fun asked has => ?_, fun asked handle finished => ⟨handle, ?_⟩⟩
  · unfold HasSender at has ⊢
    rw [slot, starts, senders] at has
    by_cases same : asked = start
    · subst same
      simpa [Start.holdsSender, unused] using has
    · simpa only [Function.update_of_ne same] using has
  · have different : asked ≠ start := by
      rintro rfl
      rw [unused] at finished
      cases finished
    rw [starts, Function.update_of_ne different]
    exact finished

/-- The loops stay as they are. -/
theorem Placed.turn (placed : s.Placed api) (beside : Beside api s t child call) (handles : Handles s t)
    (loops : t.loops = s.loops) (sent : t.sent = s.sent) (fits : t.Fits child call)
    (kept : call.inner = none → t.Accounted api child call) : t.Placed api := by
  refine ⟨fun other none => beside.absent placed none, fun other next found => beside.fits placed fits found,
    fun reaper l found => ?_, ?_, fun reaper held => ?_, fun reaper l found => ?_, beside.kept placed kept⟩
  · rw [loops] at found
    have tidy := placed.tidy reaper l found
    refine ⟨tidy.apart, ?_, ?_⟩
    · rw [sent]
      exact tidy.own
    · rw [sent]
      exact tidy.told
  · rw [sent, loops]
    exact placed.sent
  · rw [loops]
    exact placed.opened reaper (handles.has reaper held)
  · rw [loops] at found
    obtain ⟨handle, finished⟩ := placed.made reaper l found
    exact handles.starts reaper handle finished

/-- A step about one child that touches no loop. -/
theorem Beside.quiet (calls : t.calls = (s.setCall child call).calls) (loops : t.loops = s.loops)
    (sent : t.sent = s.sent) (threads : t.threads = s.threads) (settled : t.settled = s.settled)
    (senders : ∀ other, other ≠ child → ∀ reaper, other ∈ s.senders reaper → other ∈ t.senders reaper) :
    Beside api s t child call where
  calls := calls
  sent _ _ := by rw [sent]
  threads _ _ := by rw [threads]
  settled _ _ := by rw [settled]
  senders := senders
  loops reaper l found := ⟨l, by rw [loops]; exact found, fun _ => id, fun _ => id⟩

/-- The call takes its child along. -/
theorem Placed.carry (placed : s.Placed api) {pc : WaitPc} {other : Nat} (found : s.calls child = some call)
    (carries : call.pc.child = some other) (onward : pc.child = some other) (waits : pc ≠ .start)
    (receives : pc.receives = false) (calls : t.calls = (s.setCall child { call with pc := pc }).calls)
    (loops : t.loops = s.loops) (sent : t.sent = s.sent) (threads : t.threads = s.threads)
    (settled : t.settled = s.settled)
    (senders : ∀ other, other ≠ child → ∀ reaper, other ∈ s.senders reaper → other ∈ t.senders reaper)
    (handles : Handles s t) : t.Placed api := by
  obtain ⟨rfl, gone, was⟩ := (placed.fits child call found).carried other carries
  have untouched : t.Untouched other := by
    unfold Untouched
    rw [sent, threads, settled]
    exact was
  refine placed.turn (.quiet calls loops sent threads settled senders) handles loops sent
    ⟨fun x owns => ?_, fun start => absurd start waits, fun x also => ?_, fun waiting => ?_⟩
    fun _ => Accounted.carried untouched onward
  · rw [gone] at owns
    cases owns
  · cases onward.symm.trans also
    exact ⟨rfl, gone, untouched⟩
  · rw [receives] at waiting
    cases waiting

/-! ### The steps of a call -/

theorem Placed.spawn (placed : s.Placed api) (none : s.calls child = none) :
    (s.setCall child (.fresh child (some child) true)).Placed api := by
  refine placed.turn (.quiet rfl rfl rfl rfl rfl fun _ _ _ => id) (.same rfl rfl rfl) rfl rfl
    ⟨fun other owns => ?_, fun _ => rfl, fun other carries => ?_, fun receives => ?_⟩ fun gone => ?_
  · cases owns
    exact ⟨rfl, rfl, placed.absent child none⟩
  · cases carries
  · cases receives
  · cases gone

/-- The call goes on waiting for its answer, or its future is dropped. -/
theorem Placed.wait (placed : s.Placed api) {pc : WaitPc} (found : s.calls child = some call)
    (was : call.pc.receives = true) (waits : pc ≠ .start) (empty : pc.child = none)
    (running : pc.returns = false)
    (calls : t.calls = (s.setCall child { call with pc := pc }).calls)
    (loops : t.loops = s.loops) (sent : t.sent = s.sent) (threads : t.threads = s.threads)
    (settled : t.settled = s.settled)
    (senders : ∀ other, other ≠ child → ∀ reaper, other ∈ s.senders reaper → other ∈ t.senders reaper)
    (receives : pc.receives = true → t.senders = s.senders) (handles : Handles s t) : t.Placed api := by
  have before := placed.fits child call found
  obtain ⟨reaper, went, member⟩ := before.receiving was
  refine placed.turn (.quiet calls loops sent threads settled senders) handles loops sent
    ⟨fun other owns => ?_, fun start => absurd start waits, fun other carries => ?_, fun waiting => ?_⟩
    fun gone => ?_
  · have start := (before.owned other owns).2.1
    rw [start] at was
    cases was
  · rw [show pc.child = none from empty] at carries
    cases carries
  · refine ⟨reaper, by rw [sent]; exact went, ?_⟩
    rw [receives waiting]
    exact member
  · refine (placed.kept child call found gone).mono (by rw [sent]) (fun reaper l has => ?_)
      (fun notSent _ => absurd (went.symm.trans notSent) (by simp)) (fun _ => running)
      (by rw [threads]; exact id) (by rw [settled]; exact id)
    exact ⟨l, by rw [loops]; exact has, id, .inl⟩

theorem Placed.poll (placed : s.Placed api) (stepped : s.advance child .poll = some t) : t.Placed api := by
  obtain ⟨call, next, found, moved, rfl⟩ := advance_eq stepped
  have fits := placed.fits child call found
  simp only [WaitCall.step] at moved
  split at moved
  · rename_i start
    rw [fits.started start] at moved
    cases moved
    have untouched := (fits.owned child (fits.started start)).2.2
    refine placed.turn (.quiet rfl rfl rfl rfl rfl fun _ _ _ => id) (.same rfl rfl rfl) rfl rfl
      ⟨fun other owns => ?_, fun pc => ?_, fun other carries => ?_, fun receives => ?_⟩
      fun _ => Accounted.carried untouched rfl
    · cases owns
    · cases pc
    · cases carries
      exact ⟨rfl, rfl, untouched⟩
    · cases receives
  · rename_i other suspended
    cases moved
    exact placed.carry found (by rw [suspended]; rfl) rfl (by simp) rfl rfl rfl rfl rfl rfl (fun _ _ _ => id)
      (.same rfl rfl rfl)
  · rename_i suspended
    cases moved
    exact placed.wait found (by rw [suspended]; rfl) (by simp) rfl rfl rfl rfl rfl rfl rfl (fun _ _ _ => id)
      (fun _ => rfl) (.same rfl rfl rfl)
  · cases moved

/-- Where a call goes from `current_zombie_reaper`. -/
def onward (child : Nat) : Lookup → WaitPc
  | .outside => .blocking child
  | .missing => .joining child
  | .running => .sending child

theorem step_lookup {found : Lookup} (moved : call.step (.lookup found) = some next) :
    ∃ other, call.pc = .lookup other ∧ next = { call with pc := onward other found } := by
  simp only [WaitCall.step] at moved
  split at moved <;> cases moved <;> exact ⟨_, by assumption, rfl⟩

theorem mem_addSender {other asked : Nat} :
    other ∈ (s.addSender reaper child).senders asked ↔
      (asked = reaper ∧ other = child) ∨ other ∈ s.senders asked := by
  by_cases same : asked = reaper
  · subst same
    simp [addSender]
  · simp [addSender, same]

theorem HasSender.of_addSender {asked : Nat} (has : (s.addSender reaper child).HasSender asked)
    (held : s.HasSender reaper) : s.HasSender asked := by
  by_cases same : asked = reaper
  · rw [same]
    exact held
  · simpa only [HasSender, addSender, Function.update_of_ne same] using has

theorem Placed.lookup {inside : Bool} {start : Nat} (placed : s.Placed api)
    (stepped : s.lookup child inside start = some t) : t.Placed api := by
  unfold Reapers.lookup at stepped
  split at stepped
  · obtain ⟨call, next, found, moved, rfl⟩ := advance_eq stepped
    obtain ⟨other, pc, rfl⟩ := step_lookup moved
    exact placed.carry found (by rw [pc]; rfl) rfl (by simp [onward]) rfl rfl rfl rfl rfl rfl (fun _ _ _ => id)
      (.same rfl rfl rfl)
  · split at stepped
    · rename_i reaper slot
      obtain ⟨after, advanced, rfl⟩ := Option.map_eq_some_iff.mp stepped
      obtain ⟨call, next, found, moved, rfl⟩ := advance_eq advanced
      obtain ⟨other, pc, rfl⟩ := step_lookup moved
      exact placed.carry found (by rw [pc]; rfl) rfl (by simp [onward]) rfl rfl rfl rfl rfl rfl
        (fun _ _ _ member => mem_addSender.mpr (.inr member))
        ⟨fun _ has => has.of_addSender (.inl slot), fun _ handle finished => ⟨handle, finished⟩⟩
    · simp only [Option.ite_none_right_eq_some] at stepped
      obtain ⟨unused, stepped⟩ := stepped
      obtain ⟨after, advanced, rfl⟩ := Option.map_eq_some_iff.mp stepped
      obtain ⟨call, next, found, moved, rfl⟩ := advance_eq advanced
      obtain ⟨other, pc, rfl⟩ := step_lookup moved
      exact placed.carry found (by rw [pc]; rfl) rfl (by simp [onward]) rfl rfl rfl rfl rfl rfl (fun _ _ _ => id)
        (.queued unused rfl rfl rfl)

theorem step_joined {ready : Bool} (moved : call.step (.joined ready) = some next) :
    ∃ other, call.pc = .joining other ∧
      next = { call with pc := if ready then .sending other else .suspendedJoining other } := by
  simp only [WaitCall.step] at moved
  split at moved <;> cases moved
  exact ⟨_, by assumption, rfl⟩

/-- The new sender was in the join handle until now. -/
theorem Placed.joined {start : Nat} (placed : s.Placed api) (stepped : s.joined child start = some t) :
    t.Placed api := by
  unfold Reapers.joined at stepped
  split at stepped
  · obtain ⟨call, next, found, moved, rfl⟩ := advance_eq stepped
    obtain ⟨other, pc, rfl⟩ := step_joined moved
    exact placed.carry found (by rw [pc]; rfl) rfl (by simp) rfl rfl rfl rfl rfl rfl (fun _ _ _ => id)
      (.same rfl rfl rfl)
  · simp only [Option.ite_none_right_eq_some] at stepped
    obtain ⟨finished, stepped⟩ := stepped
    obtain ⟨after, advanced, rfl⟩ := Option.map_eq_some_iff.mp stepped
    obtain ⟨call, next, found, moved, rfl⟩ := advance_eq advanced
    obtain ⟨other, pc, rfl⟩ := step_joined moved
    have held : s.HasSender start := .inr (.inl (by rw [finished]; rfl))
    refine placed.carry found (by rw [pc]; rfl) rfl (by simp) rfl rfl rfl rfl rfl rfl
      (fun _ _ _ member => mem_addSender.mpr (.inr member)) ⟨fun asked has => ?_, fun asked handle was => ?_⟩
    · by_cases same : asked = start
      · rw [same]
        exact held
      · rcases has with slot | handle | senders
        · cases slot
          exact held
        · refine .inr (.inl ?_)
          simpa only [addSender, fill, setStart, setCall, Function.update_of_ne same] using handle
        · refine .inr (.inr ?_)
          simpa only [addSender, fill, setStart, setCall, Function.update_of_ne same] using senders
    · by_cases same : asked = start
      · exact ⟨none, by simp [addSender, fill, setStart, setCall, same]⟩
      · refine ⟨handle, ?_⟩
        simpa only [addSender, fill, setStart, setCall, Function.update_of_ne same] using was

theorem step_send {opened : Bool} (moved : call.step (.send opened) = some next) :
    ∃ other, call.pc = .sending other ∧ next.inner = call.inner ∧ next.pc = .receiving := by
  simp only [WaitCall.step] at moved
  split at moved <;> cases moved
  exact ⟨_, by assumption, rfl, rfl⟩

theorem children_perm {before after : List ZombieReaperMessage} (held : after.Perm before) :
    (children after).Perm (children before) := List.Perm.map _ held

section Deliver

variable {l : L}

/-- The state after a child was sent to a loop, its call going on without it. -/
def delivered (api : ReaperLoop L K) (s : Reapers L) (child reaper : Nat) (l : L) (call : WaitCall) :
    Reapers L :=
  (s.setCall child call).deliver api child reaper l

theorem delivered_sent (s : Reapers L) (other : Nat) :
    (s.delivered api child reaper l call).sent other = if other = child then some reaper else s.sent other :=
  Function.update_apply ..

theorem delivered_loops (s : Reapers L) (other : Nat) :
    (s.delivered api child reaper l call).loops other =
      if other = reaper then some (api.send l ⟨child, some child⟩) else s.loops other := Function.update_apply ..

theorem told_send {other : Nat} : Told api (api.send l ⟨child, some child⟩) other ↔ Told api l other := by
  unfold Told
  rw [(api.send_spec l ⟨child, some child⟩).2.1]

theorem mem_children_send {other : Nat} :
    other ∈ children (api.holding (api.send l ⟨child, some child⟩)) ↔
      other = child ∨ other ∈ children (api.holding l) := by
  rw [(children_perm (api.send_spec l ⟨child, some child⟩).1).mem_iff]
  exact List.mem_cons

theorem beside_delivered (found : s.loops reaper = some l) :
    Beside api s (s.delivered api child reaper l call) child call where
  calls := rfl
  sent other different := by rw [delivered_sent, if_neg different]
  threads _ _ := Iff.rfl
  settled _ _ := Iff.rfl
  senders _ _ _ := id
  loops other m at_ := by
    rw [delivered_loops]
    split
    · rename_i same
      subst same
      cases found.symm.trans at_
      exact ⟨_, rfl, fun _ => told_send.mpr, fun _ held => mem_children_send.mpr (.inr held)⟩
    · exact ⟨m, at_, fun _ => id, fun _ => id⟩

/-- A loop that the child was not sent to has nothing to do with it. -/
theorem Tidy.delivered {other : Nat} {m : L} (tidy : s.Tidy api other m) (notSent : s.sent child = none) :
    (s.delivered api child reaper l call).Tidy api other m := by
  have elsewhere (d : Nat) (went : s.sent d = some other) :
      (s.delivered api child reaper l call).sent d = some other := by
    rw [delivered_sent, if_neg, went]
    rintro rfl
    rw [notSent] at went
    cases went
  refine ⟨tidy.apart, fun process member => ?_, fun d told => elsewhere d (tidy.told d told)⟩
  obtain ⟨sender, went, untold⟩ := tidy.own process member
  exact ⟨sender, elsewhere _ went, untold⟩

/-- The loop that it was sent to has it once more, and had not had it before. -/
theorem Tidy.send (tidy : s.Tidy api reaper l) (notSent : s.sent child = none) :
    (s.delivered api child reaper l call).Tidy api reaper (api.send l ⟨child, some child⟩) := by
  have before : (s.delivered api child reaper l call).Tidy api reaper l := tidy.delivered notSent
  have held := (api.send_spec l ⟨child, some child⟩).1
  refine ⟨?_, fun process member => ?_, fun d told => before.told d (told_send.mp told)⟩
  · refine (children_perm held).nodup_iff.mpr (List.nodup_cons.mpr ⟨fun member => ?_, tidy.apart⟩)
    obtain ⟨process, among, same⟩ := List.mem_map.mp member
    have went := (tidy.own process among).2.1
    rw [same, notSent] at went
    cases went
  · rw [told_send]
    rcases List.mem_cons.mp (held.mem_iff.mp member) with rfl | among
    · refine ⟨rfl, by rw [delivered_sent, if_pos rfl], fun told => ?_⟩
      have went := tidy.told child told
      rw [notSent] at went
      cases went
    · exact before.own process among

/-- A child that has gone nowhere is sent to a loop. -/
theorem Placed.delivered (placed : s.Placed api) (untouched : s.Untouched child)
    (found : s.loops reaper = some l) (inner : call.inner = none) (carries : call.pc.child = none)
    (waits : call.pc ≠ .start) (receives : call.pc.receives = true → child ∈ s.senders reaper)
    (running : call.pc.returns = false) : (s.delivered api child reaper l call).Placed api := by
  have beside : Beside api s (s.delivered api child reaper l call) child call := beside_delivered found
  have here : (s.delivered api child reaper l call).sent child = some reaper := by
    rw [delivered_sent, if_pos rfl]
  have now : (s.delivered api child reaper l call).loops reaper = some (api.send l ⟨child, some child⟩) := by
    rw [delivered_loops, if_pos rfl]
  have fits : (s.delivered api child reaper l call).Fits child call := by
    refine ⟨fun x owns => ?_, fun start => absurd start waits, fun x also => ?_,
      fun receiving => ⟨reaper, here, receives receiving⟩⟩
    · rw [inner] at owns
      cases owns
    · rw [carries] at also
      cases also
  refine ⟨fun other none => beside.absent placed none, fun other next at_ => beside.fits placed fits at_,
    fun other m at_ => ?_, fun other r went => ?_, fun other has => ?_, fun other m at_ => ?_,
    beside.kept placed fun _ => Accounted.loop here now (.inr ⟨mem_children_send.mpr (.inl rfl), running⟩)⟩
  · rw [delivered_loops] at at_
    split at at_
    · rename_i same
      subst same
      cases at_
      exact (placed.tidy other l found).send untouched.1
    · exact (placed.tidy other m at_).delivered untouched.1
  · rw [delivered_sent] at went
    split at went
    · cases went
      exact ⟨_, now⟩
    · obtain ⟨m, at_⟩ := placed.sent other r went
      obtain ⟨m', now, -⟩ := beside.loops r m at_
      exact ⟨m', now⟩
  · obtain ⟨m, at_, closed, ended⟩ := placed.opened other has
    rw [delivered_loops]
    split
    · rename_i same
      subst same
      cases found.symm.trans at_
      obtain ⟨-, -, closed', ended'⟩ := api.send_spec l ⟨child, some child⟩
      exact ⟨_, rfl, closed'.trans closed, ended'.trans ended⟩
    · exact ⟨m, at_, closed, ended⟩
  · rw [delivered_loops] at at_
    split at at_
    · rename_i same
      subst same
      exact placed.made other l found
    · exact placed.made other m at_

end Deliver

/-- A call that sends has a sender, so that the channel is open. -/
theorem Placed.send (placed : s.Placed api) (stepped : s.send api child reaper = some t) : t.Placed api := by
  unfold Reapers.send at stepped
  split at stepped
  · rename_i member
    obtain ⟨l, found, -, ended⟩ := placed.opened reaper (.inr (.inr (List.ne_nil_of_mem member)))
    rw [found] at stepped
    simp only [ended, Bool.false_eq_true, if_false] at stepped
    obtain ⟨after, advanced, rfl⟩ := Option.map_eq_some_iff.mp stepped
    obtain ⟨call, next, at_, moved, rfl⟩ := advance_eq advanced
    obtain ⟨other, pc, inner, now⟩ := step_send moved
    obtain ⟨rfl, gone, untouched⟩ := (placed.fits child call at_).carried other (by rw [pc]; rfl)
    exact placed.delivered untouched found (inner.trans gone) (by rw [now]; rfl) (by rw [now]; simp)
      (fun _ => member) (by rw [now]; rfl)
  · cases stepped

/-! ### Letting go -/

theorem mem_release {other : Nat} (different : other ≠ child) (member : other ∈ s.senders reaper) :
    other ∈ (s.release child).senders reaper :=
  List.mem_filter.mpr ⟨member, decide_eq_true different⟩

theorem letGo_finished (handle : Option Nat) (call : Nat) :
    ∃ handle', (Start.finished handle).letGo call = .finished handle' := by
  cases handle with
  | none => exact ⟨none, rfl⟩
  | some other =>
      by_cases same : other = call
      · exact ⟨none, if_pos same⟩
      · exact ⟨some other, if_neg same⟩

theorem holdsSender_letGo {start : Start} {call : Nat} (held : (start.letGo call).holdsSender = true) :
    start.holdsSender = true := by
  unfold Start.letGo at held
  split at held
  · split at held <;> cases held
  · rfl
  · exact held

theorem Handles.release : Handles s ((s.setCall child call).release child) := by
  refine ⟨fun reaper has => ?_, fun reaper handle finished => ?_⟩
  · rcases has with slot | handle | senders
    · exact .inl slot
    · exact .inr (.inl (holdsSender_letGo handle))
    · refine .inr (.inr fun empty => senders ?_)
      simp [Reapers.release, Reapers.setCall, empty]
  · obtain ⟨handle', onward⟩ := letGo_finished handle child
    refine ⟨handle', ?_⟩
    rw [← onward, ← finished]
    rfl

theorem told_of_lookup {l : L} {result : Except IoError Int}
    (found : (api.answers l).lookup child = some result) : Told api l child := by
  obtain ⟨front, back, split, -⟩ := List.lookup_eq_some_iff.mp found
  unfold Told
  rw [split]
  simp

theorem not_told_of_lookup {l : L} (missing : (api.answers l).lookup child = none) : ¬ Told api l child := by
  intro told
  obtain ⟨entry, member, same⟩ := List.mem_map.mp told
  have differs := List.lookup_eq_none_iff.mp missing entry member
  simp [same] at differs

/-- A call that waits for an answer gets none or one about its own child. -/
theorem Placed.answered (placed : s.Placed api) (found : s.calls child = some call)
    (receives : call.pc.receives = true) :
    s.answerFor api child = none ∨ ∃ reaper l result, s.sent child = some reaper ∧ s.loops reaper = some l ∧
      Told api l child ∧ s.answerFor api child = some (some result) := by
  have fits := placed.fits child call found
  obtain ⟨reaper, went, -⟩ := fits.receiving receives
  have gone : call.inner = none := by
    cases inner : call.inner with
    | none => rfl
    | some other =>
        rw [(fits.owned other inner).2.1] at receives
        cases receives
  have accounted := placed.kept child call found gone
  unfold Accounted at accounted
  rw [went] at accounted
  obtain ⟨l, at_, has⟩ := accounted
  unfold answerFor
  simp only [went, at_]
  cases known : (api.answers l).lookup child with
  | some result => exact .inr ⟨reaper, l, result, rfl, at_, told_of_lookup known, rfl⟩
  | none =>
      have held : child ∈ children (api.holding l) :=
        (has.resolve_left (not_told_of_lookup known)).1
      exact .inl (if_pos held)

theorem step_receive {answer : Option (Option (Except IoError Int))}
    (moved : call.step (.receive answer) = some next) :
    call.pc = .receiving ∧ ∃ pc, next = { call with pc := pc } ∧
      ((answer = none ∧ pc = .suspendedReceiving) ∨ (answer ≠ none ∧ ∃ result, pc = .returned result)) := by
  simp only [WaitCall.step] at moved
  split at moved <;> cases moved
  · exact ⟨by assumption, _, rfl, .inl ⟨rfl, rfl⟩⟩
  · exact ⟨by assumption, _, rfl, .inr ⟨by simp, _, rfl⟩⟩
  · exact ⟨by assumption, _, rfl, .inr ⟨by simp, _, rfl⟩⟩

theorem Placed.receive (placed : s.Placed api) (stepped : s.receive api child = some t) : t.Placed api := by
  unfold Reapers.receive at stepped
  split at stepped
  · obtain ⟨call, next, found, moved, rfl⟩ := advance_eq stepped
    obtain ⟨receiving, pc, rfl, ⟨-, rfl⟩ | ⟨answered, -⟩⟩ := step_receive moved
    · exact placed.wait found (by rw [receiving]; rfl) (by simp) rfl rfl rfl rfl rfl rfl rfl (fun _ _ _ => id)
        (fun _ => rfl) (.same rfl rfl rfl)
    · exact absurd rfl answered
  · rename_i answer asked
    obtain ⟨after, advanced, rfl⟩ := Option.map_eq_some_iff.mp stepped
    obtain ⟨call, next, found, moved, rfl⟩ := advance_eq advanced
    obtain ⟨receiving, pc, rfl, ⟨missing, -⟩ | ⟨-, result, rfl⟩⟩ := step_receive moved
    · cases missing
    · have receives : call.pc.receives = true := by rw [receiving]; rfl
      have fits := placed.fits child call found
      rcases placed.answered found receives with none | ⟨reaper, l, -, went, at_, told, -⟩
      · rw [none] at asked
        cases asked
      · refine placed.turn (.quiet rfl rfl rfl rfl rfl fun _ different _ => mem_release different) .release rfl
          rfl ⟨fun other owns => ?_, fun start => (by cases start), fun other carries => (by cases carries),
            fun waiting => (by cases waiting)⟩ fun _ => Accounted.loop went at_ (.inl told)
        have start := (fits.owned other owns).2.1
        rw [start] at receiving
        cases receiving

theorem step_drop (moved : call.step .drop = some next) : next = { call with pc := .dropped } := by
  simp only [WaitCall.step] at moved
  split at moved <;> cases moved <;> rfl

/-- The future of `wait` is dropped where it waits for the answer. -/
theorem Placed.cancel (placed : s.Placed api) (found : s.calls child = some call)
    (suspended : call.pc.suspended = true) (notJoining : ∀ inner, call.pc ≠ .suspendedJoining inner)
    (stepped : (s.advance child .drop).map (·.release child) = some t) : t.Placed api := by
  obtain ⟨after, advanced, rfl⟩ := Option.map_eq_some_iff.mp stepped
  obtain ⟨other, next, at_, moved, rfl⟩ := advance_eq advanced
  cases found.symm.trans at_
  obtain rfl := step_drop moved
  have receives : call.pc.receives = true := by
    cases pc : call.pc <;> rw [pc] at suspended <;> first | rfl | cases suspended
    exact absurd pc (notJoining _)
  exact placed.wait found receives (by simp) rfl rfl rfl rfl rfl rfl rfl
    (fun _ different _ => mem_release different) (fun waiting => by cases waiting) .release

theorem step_waited {result : Except IoError Int} (moved : call.step (.waited result) = some next) :
    ∃ other, call.pc = .blocking other ∧ next = { call with pc := .returned result } := by
  simp only [WaitCall.step] at moved
  split at moved <;> cases moved
  exact ⟨_, by assumption, rfl⟩

/-- The child is waited for, or handed to a thread, and its call has no more part in it. -/
theorem Placed.finish (placed : s.Placed api) (calls : t.calls = (s.setCall child call).calls)
    (loops : t.loops = s.loops) (sent : t.sent = s.sent)
    (threads : ∀ other, other ≠ child → (other ∈ t.threads ↔ other ∈ s.threads))
    (settled : ∀ other, other ≠ child → (other ∈ t.settled ↔ other ∈ s.settled))
    (senders : t.senders = s.senders) (handles : Handles s t) (inner : call.inner = none)
    (carries : call.pc.child = none) (waits : call.pc ≠ .start)
    (receives : call.pc.receives = true → ∃ reaper, s.sent child = some reaper ∧ child ∈ s.senders reaper)
    (kept : t.Accounted api child call) : t.Placed api := by
  have beside : Beside api s t child call := by
    refine ⟨calls, fun _ _ => by rw [sent], threads, settled, fun _ _ _ => by rw [senders]; exact id,
      fun reaper l found => ?_⟩
    exact ⟨l, by rw [loops]; exact found, fun _ => id, fun _ => id⟩
  refine placed.turn beside handles loops sent ⟨fun other owns => ?_, fun start => absurd start waits,
    fun other also => ?_, fun receiving => ?_⟩ fun _ => kept
  · rw [inner] at owns
    cases owns
  · rw [carries] at also
    cases also
  · rw [sent, senders]
    exact receives receiving

theorem mem_cons_iff_of_ne {other : Nat} {list : List Nat} (different : other ≠ child) :
    other ∈ child :: list ↔ other ∈ list := by
  rw [List.mem_cons]
  exact or_iff_right different

theorem Placed.waited {result : Except IoError Int} (placed : s.Placed api)
    (stepped : (s.advance child (.waited result)).map (fun s => { s with settled := child :: s.settled }) =
      some t) : t.Placed api := by
  obtain ⟨after, advanced, rfl⟩ := Option.map_eq_some_iff.mp stepped
  obtain ⟨call, next, found, moved, rfl⟩ := advance_eq advanced
  obtain ⟨other, blocking, rfl⟩ := step_waited moved
  obtain ⟨rfl, inner, untouched⟩ := (placed.fits child call found).carried other (by rw [blocking]; rfl)
  exact placed.finish rfl rfl rfl (fun _ _ => Iff.rfl) (fun _ different => mem_cons_iff_of_ne different) rfl
    (.same rfl rfl rfl) inner rfl (by simp) (fun receives => by cases receives)
    (Accounted.settled untouched.1 List.mem_cons_self)

/-- A `Child` that still has its process hands it to `reap_on_drop`. -/
theorem dropChild_eq {exited inside : Bool} {start : Nat}
    (stepped : s.dropChild api child exited inside start = some t) :
    t = s ∨ ∃ call other, s.calls child = some call ∧ call.inner = some other ∧
      (s.setCall child { call with stdin := false, inner := none, pc := .dropped }).reapOnDrop api child exited
        inside start = some t := by
  unfold Reapers.dropChild at stepped
  split at stepped
  · cases stepped
  · rename_i call found
    have settle (onward : (match call.inner with
        | none => some s
        | some _ => (s.setCall child { call with stdin := false, inner := none, pc := .dropped }).reapOnDrop api
            child exited inside start) = some t) :
        t = s ∨ ∃ call other, s.calls child = some call ∧ call.inner = some other ∧
          (s.setCall child { call with stdin := false, inner := none, pc := .dropped }).reapOnDrop api child
            exited inside start = some t := by
      split at onward
      · cases onward
        exact .inl rfl
      · rename_i other inner
        exact .inr ⟨call, other, found, inner, onward⟩
    split at stepped
    · exact settle stepped
    · exact settle stepped
    · exact settle stepped
    · cases stepped

theorem Placed.dropChild {exited inside : Bool} {start : Nat} (placed : s.Placed api)
    (stepped : s.dropChild api child exited inside start = some t) : t.Placed api := by
  rcases dropChild_eq stepped with rfl | ⟨call, other, found, inner, reaped⟩
  · exact placed
  · have untouched := ((placed.fits child call found).owned other inner).2.2
    unfold reapOnDrop at reaped
    split at reaped
    · cases reaped
      exact placed.finish rfl rfl rfl (fun _ _ => Iff.rfl) (fun _ different => mem_cons_iff_of_ne different) rfl
        (.same rfl rfl rfl) rfl rfl (by simp) (fun receives => by cases receives)
        (Accounted.settled untouched.1 List.mem_cons_self)
    · split at reaped
      · cases reaped
        exact placed.finish rfl rfl rfl (fun _ different => mem_cons_iff_of_ne different) (fun _ _ => Iff.rfl) rfl
          (.same rfl rfl rfl) rfl rfl (by simp) (fun receives => by cases receives)
          (Accounted.thread untouched.1 List.mem_cons_self)
      · split at reaped
        · rename_i reaper slot
          obtain ⟨l, at_, -, ended⟩ := placed.opened reaper (.inl slot)
          rw [show (s.setCall child _).loops reaper = some l from at_] at reaped
          simp only [ended, Bool.false_eq_true, if_false, Option.some.injEq] at reaped
          rw [← reaped]
          exact placed.delivered untouched at_ rfl rfl (by simp) (fun receives => by cases receives) rfl
        · simp only [Option.ite_none_right_eq_some, Option.some.injEq] at reaped
          obtain ⟨unused, rfl⟩ := reaped
          refine placed.finish rfl rfl rfl (fun _ different => mem_cons_iff_of_ne different) (fun _ _ => Iff.rfl)
            rfl (.queued unused rfl rfl rfl) rfl rfl (by simp) (fun receives => by cases receives)
            (Accounted.thread untouched.1 List.mem_cons_self)

/-! ### The steps of the loops -/

section Loops

variable {loops : Nat → Option L} {starts : Nat → Start} {exited : Nat → Option Int}

theorem Placed.reloop (placed : s.Placed api)
    (onward : ∀ reaper l, s.loops reaper = some l → ∃ l', loops reaper = some l' ∧
      ∀ child, (Told api l child → Told api l' child) ∧
        (child ∈ children (api.holding l) → child ∈ children (api.holding l') ∨ Told api l' child))
    (tidy : ∀ reaper l, loops reaper = some l → s.Tidy api reaper l)
    (opened : ∀ reaper, { s with loops := loops, starts := starts, exited := exited }.HasSender reaper →
      ∃ l, loops reaper = some l ∧ api.closed l = false ∧ api.ended l = false)
    (made : ∀ reaper l, loops reaper = some l → ∃ handle, starts reaper = .finished handle) :
    Placed api { s with loops := loops, starts := starts, exited := exited } where
  absent := placed.absent
  fits child call found :=
    ⟨(placed.fits child call found).owned, (placed.fits child call found).started,
      (placed.fits child call found).carried, (placed.fits child call found).receiving⟩
  tidy reaper l found := ⟨(tidy reaper l found).apart, (tidy reaper l found).own, (tidy reaper l found).told⟩
  sent child reaper went := by
    obtain ⟨l, found⟩ := placed.sent child reaper went
    obtain ⟨l', found', -⟩ := onward reaper l found
    exact ⟨l', found'⟩
  opened := opened
  made := made
  kept child call found gone := by
    refine (placed.kept child call found gone).mono rfl (fun reaper l at_ => ?_) (fun _ carries => carries) id
      id id
    obtain ⟨l', at_', kept⟩ := onward reaper l at_
    exact ⟨l', at_', (kept child).1, (kept child).2⟩

theorem Tidy.same {l l' : L} (tidy : s.Tidy api reaper l) (held : api.holding l' = api.holding l)
    (answered : api.answers l' = api.answers l) : s.Tidy api reaper l' := by
  have told (d : Nat) : Told api l' d ↔ Told api l d := by
    unfold Told
    rw [answered]
  refine ⟨by rw [held]; exact tidy.apart, fun process member => ?_,
    fun d known => tidy.told d ((told d).mp known)⟩
  rw [held] at member
  rw [told]
  exact tidy.own process member

theorem Placed.exit (placed : s.Placed api) (status : Int) :
    Placed api { s with
      exited := Function.update s.exited child (some status)
      loops := fun reaper => (s.loops reaper).map fun l => api.exit l child status } := by
  refine placed.reloop (fun reaper l found => ?_) (fun reaper l' found => ?_) (fun reaper has => ?_)
    fun reaper l' found => ?_
  · obtain ⟨held, answered, -⟩ := api.exit_spec l child status
    refine ⟨api.exit l child status, by rw [found]; rfl, fun d => ?_⟩
    unfold Told
    rw [held, answered]
    exact ⟨id, .inl⟩
  · obtain ⟨l, before, rfl⟩ := Option.map_eq_some_iff.mp found
    obtain ⟨held, answered, -⟩ := api.exit_spec l child status
    exact (placed.tidy reaper l before).same held answered
  · obtain ⟨l, before, closed, ended⟩ := placed.opened reaper has
    obtain ⟨-, -, closed', ended'⟩ := api.exit_spec l child status
    exact ⟨api.exit l child status, by rw [before]; rfl, closed'.trans closed, ended'.trans ended⟩
  · obtain ⟨l, before, -⟩ := Option.map_eq_some_iff.mp found
    exact placed.made reaper l before

/-- The task of a start makes a loop that nothing was sent to. -/
theorem Placed.start {start : Nat} {handle : Option Nat} (placed : s.Placed api)
    (queued : s.starts start = .queued handle) :
    Placed api { s.setStart start (.finished handle) with
      loops := Function.update s.loops start (some (api.started s.exited)) } := by
  obtain ⟨held, answered, closed, ended⟩ := api.started_spec s.exited
  have fresh : s.loops start = none := by
    cases found : s.loops start with
    | none => rfl
    | some l =>
        obtain ⟨handle', finished⟩ := placed.made start l found
        cases queued.symm.trans finished
  refine placed.reloop (fun reaper l found => ?_) (fun reaper l' found => ?_) (fun reaper has => ?_)
    fun reaper l' found => ?_
  · have different : reaper ≠ start := by
      rintro rfl
      cases fresh.symm.trans found
    exact ⟨l, by rw [Function.update_of_ne different, found], fun d => ⟨id, .inl⟩⟩
  · by_cases same : reaper = start
    · subst same
      rw [Function.update_self] at found
      cases found
      refine ⟨by rw [held]; exact List.nodup_nil, fun process member => ?_, fun d told => ?_⟩
      · rw [held] at member
        cases member
      · unfold Told at told
        rw [answered] at told
        cases told
    · rw [Function.update_of_ne same] at found
      exact placed.tidy reaper l' found
  · by_cases same : reaper = start
    · exact ⟨_, by rw [same, Function.update_self], closed, ended⟩
    · rw [Function.update_of_ne same]
      refine placed.opened reaper ?_
      simpa only [HasSender, setStart, Function.update_of_ne same] using has
  · by_cases same : reaper = start
    · exact ⟨handle, by rw [same]; exact Function.update_self ..⟩
    · rw [Function.update_of_ne same] at found
      obtain ⟨handle', finished⟩ := placed.made reaper l' found
      exact ⟨handle', (Function.update_of_ne same _ _).trans finished⟩

/-- A loop moves by itself; what it is told of the others is nothing. -/
theorem Placed.update {l l' : L} (placed : s.Placed api) (found : s.loops reaper = some l)
    (onward : ∀ child, (Told api l child → Told api l' child) ∧
      (child ∈ children (api.holding l) → child ∈ children (api.holding l') ∨ Told api l' child))
    (tidy : s.Tidy api reaper l')
    (opened : s.HasSender reaper → api.closed l' = false ∧ api.ended l' = false) :
    Placed api { s with loops := Function.update s.loops reaper (some l') } := by
  refine placed.reloop (fun other m at_ => ?_) (fun other m at_ => ?_) (fun other has => ?_)
    fun other m at_ => ?_
  · by_cases same : other = reaper
    · subst same
      cases found.symm.trans at_
      exact ⟨l', Function.update_self .., onward⟩
    · exact ⟨m, by rw [Function.update_of_ne same, at_], fun d => ⟨id, .inl⟩⟩
  · by_cases same : other = reaper
    · subst same
      rw [Function.update_self] at at_
      cases at_
      exact tidy
    · rw [Function.update_of_ne same] at at_
      exact placed.tidy other m at_
  · by_cases same : other = reaper
    · subst same
      exact ⟨l', Function.update_self .., opened has⟩
    · rw [Function.update_of_ne same]
      exact placed.opened other has
  · by_cases same : other = reaper
    · subst same
      exact placed.made other l found
    · rw [Function.update_of_ne same] at at_
      exact placed.made other m at_

theorem Placed.close {l : L} (placed : s.Placed api) (found : s.loops reaper = some l)
    (unheld : ¬ s.HasSender reaper) :
    Placed api { s with loops := Function.update s.loops reaper (some (api.close l)) } := by
  obtain ⟨held, answered⟩ := api.close_spec l
  refine placed.update found (fun d => ?_) ((placed.tidy reaper l found).same held answered)
    fun has => absurd has unheld
  unfold Told
  rw [held, answered]
  exact ⟨id, .inl⟩

/-- A step that loses nothing: what the loop held is held, or has its answer. -/
theorem Tidy.disposed {l l' : L} {loses : Prop} (tidy : s.Tidy api reaper l)
    (disposed : Disposed (api.holding l) (api.holding l') (api.answers l) (api.answers l') loses)
    (keeps : ¬ loses) :
    s.Tidy api reaper l' ∧ ∀ child, (Told api l child → Told api l' child) ∧
      (child ∈ children (api.holding l) → child ∈ children (api.holding l') ∨ Told api l' child) := by
  cases disposed with
  | moved held same _ =>
      have told (d : Nat) : Told api l' d ↔ Told api l d := by
        unfold Told
        rw [same]
      refine ⟨⟨(children_perm held).nodup_iff.mpr tidy.apart, fun process member => ?_,
        fun d known => tidy.told d ((told d).mp known)⟩, fun d => ⟨(told d).mpr, fun member => .inl ?_⟩⟩
      · rw [told]
        exact tidy.own process (held.mem_iff.mp member)
      · exact (children_perm held).mem_iff.mpr member
  | settled process result held same _ =>
      have own := tidy.own process (held.mem_iff.mp List.mem_cons_self)
      have reply : Reaper.reply (process, result) = some (process.child, result) := by
        unfold Reaper.reply
        rw [own.1]
        rfl
      have told (d : Nat) : Told api l' d ↔ Told api l d ∨ d = process.child := by
        unfold Told
        rw [same, reply]
        simp
      have apart := (children_perm held).nodup_iff.mpr tidy.apart
      refine ⟨⟨(List.nodup_cons.mp apart).2, fun other member => ?_, fun d known => ?_⟩,
        fun d => ⟨?_, fun member => ?_⟩⟩
      · obtain ⟨sender, went, untold⟩ := tidy.own other (held.mem_iff.mp (List.mem_cons_of_mem _ member))
        refine ⟨sender, went, fun known => ?_⟩
        rcases (told _).mp known with before | now
        · exact untold before
        · exact (List.nodup_cons.mp apart).1 (List.mem_map.mpr ⟨other, member, now⟩)
      · rcases (told d).mp known with before | now
        · exact tidy.told d before
        · rw [now]
          exact own.2.1
      · exact fun known => (told d).mpr (.inl known)
      · rcases List.mem_cons.mp ((children_perm held).mem_iff.mpr member) with now | still
        · exact .inr ((told d).mpr (.inr now))
        · exact .inl still
  | lost gone some held same lost => exact absurd lost keeps

theorem Placed.loop {l l' : L} {step : K} (placed : s.Placed api) (found : s.loops reaper = some l)
    (keeps : ¬ api.Loses l step) (moved : api.step l step = some l') :
    Placed api { s with loops := Function.update s.loops reaper (some l') } := by
  obtain ⟨disposed, closed, ended⟩ := api.step_spec l step l' moved
  obtain ⟨tidy, onward⟩ := (placed.tidy reaper l found).disposed disposed keeps
  refine placed.update found onward tidy fun has => ?_
  obtain ⟨m, at_, opened, running⟩ := placed.opened reaper has
  cases found.symm.trans at_
  refine ⟨closed.trans opened, ?_⟩
  cases stops : api.ended l' with
  | false => rfl
  | true =>
      rcases ended stops with shut | already
      · exact shut.symm.trans opened
      · exact already.symm.trans running

end Loops

/-- A thread has its answer: the child had left its call. -/
theorem Placed.thread (placed : s.Placed api) (member : child ∈ s.threads) :
    Placed api { s with settled := child :: s.settled } := by
  have touched : ¬ s.Untouched child := fun untouched => untouched.2.1 member
  have still {other : Nat} (was : s.Untouched other) :
      Untouched { s with settled := child :: s.settled } other := by
    have different : other ≠ child := by
      rintro rfl
      exact touched was
    exact ⟨was.1, was.2.1, fun among => was.2.2 ((mem_cons_iff_of_ne different).mp among)⟩
  refine ⟨fun other none => still (placed.absent other none), fun other call found => ?_,
    fun reaper l found => ?_, placed.sent, placed.opened, placed.made, fun other call found gone => ?_⟩
  · have fits := placed.fits other call found
    refine ⟨fun x owns => ?_, fits.started, fun x carries => ?_, fits.receiving⟩
    · exact ⟨(fits.owned x owns).1, (fits.owned x owns).2.1, still (fits.owned x owns).2.2⟩
    · exact ⟨(fits.carried x carries).1, (fits.carried x carries).2.1, still (fits.carried x carries).2.2⟩
  · have tidy := placed.tidy reaper l found
    exact ⟨tidy.apart, tidy.own, tidy.told⟩
  · exact (placed.kept other call found gone).mono rfl (fun reaper l at_ => ⟨l, at_, id, .inl⟩)
      (fun _ carries => carries) id id (List.mem_cons_of_mem _)

/-! ## Every step -/

theorem Placed.step {label : ReapersLabel K} (placed : s.Placed api) (keeps : s.Keeps api label)
    (stepped : s.step api label = some t) : t.Placed api := by
  cases label with
  | spawn child =>
      simp only [Reapers.step, Option.ite_none_right_eq_some, Option.some.injEq] at stepped
      obtain ⟨none, rfl⟩ := stepped
      exact placed.spawn none
  | exit child status =>
      simp only [Reapers.step, Option.ite_none_right_eq_some, Option.some.injEq] at stepped
      obtain ⟨-, rfl⟩ := stepped
      exact placed.exit status
  | poll child => exact placed.poll stepped
  | lookup child inside start => exact placed.lookup stepped
  | joined child start => exact placed.joined stepped
  | send child reaper => exact placed.send stepped
  | receive child => exact placed.receive stepped
  | waited child result => exact placed.waited stepped
  | cancel child =>
      simp only [Reapers.step] at stepped
      split at stepped
      · rename_i call found
        simp only [Option.ite_none_right_eq_some] at stepped
        exact placed.cancel found stepped.1 (keeps call found) stepped.2
      · cases stepped
  | dropChild child exited inside start => exact placed.dropChild stepped
  | start start =>
      simp only [Reapers.step] at stepped
      split at stepped
      · rename_i handle queued
        cases stepped
        exact placed.start queued
      · cases stepped
  | close reaper =>
      simp only [Reapers.step] at stepped
      split at stepped
      · rename_i l found
        split at stepped <;> cases stepped
        rename_i unheld
        exact placed.close found unheld
      · cases stepped
  | loop reaper step =>
      simp only [Reapers.step] at stepped
      split at stepped
      · rename_i l found
        obtain ⟨l', moved, rfl⟩ := Option.map_eq_some_iff.mp stepped
        exact placed.loop found (keeps l found) moved
      · cases stepped
  | thread child =>
      simp only [Reapers.step, Option.ite_none_right_eq_some, Option.some.injEq] at stepped
      obtain ⟨member, rfl⟩ := stepped
      exact placed.thread member

end Reapers

end Vibeio.Process
