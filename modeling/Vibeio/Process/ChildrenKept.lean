/-
# Process.ChildrenKept -- which children a runtime loses

Two steps let go of a child.  The future of `wait` has it until its reaper has started, and
takes it along when it is dropped before.  And a loop of signals ends when its last sender is
gone, with the children in its list: a reaper that has lost its slot to another lives only as
long as the calls that found it.

* `children_kept_iff`: no child is lost in exactly the runs without such steps.
* `children_kept_of_lone`: one reaper at a time is enough for the loop of signals.
-/
import Vibeio.Process.Reapers

namespace Vibeio.Process

open Vibeio.Theory
open Vibeio.Driver (IoError)

set_option autoImplicit false

/-! ## The two losses -/

namespace Reapers

variable {L K : Type} {api : ReaperLoop L K} {s t : Reapers L} {child reaper : Nat} {call : WaitCall}

/-- A child that was sent has left its `Child`. -/
theorem Placed.left (placed : s.Placed api) (went : s.sent child = some reaper) :
    ∃ call, s.calls child = some call ∧ call.inner = none := by
  have touched : ¬ s.Untouched child := by
    rintro ⟨notSent, -⟩
    cases went.symm.trans notSent
  cases found : s.calls child with
  | none => exact absurd (placed.absent child found) touched
  | some call =>
      cases inner : call.inner with
      | none => exact ⟨call, rfl, inner⟩
      | some other => exact absurd ((placed.fits child call found).owned other inner).2.2 touched

/-- With the future of `wait` goes the child it has with it. -/
theorem Placed.cancel_loses {inner : Nat} (placed : s.Placed api) (found : s.calls child = some call)
    (joining : call.pc = .suspendedJoining inner)
    (stepped : (s.advance child .drop).map (·.release child) = some t) : ¬ t.Kept api := by
  intro kept
  obtain ⟨after, advanced, rfl⟩ := Option.map_eq_some_iff.mp stepped
  obtain ⟨other, next, at_, moved, rfl⟩ := advance_eq advanced
  cases found.symm.trans at_
  obtain rfl := step_drop moved
  obtain ⟨rfl, gone, untouched⟩ := (placed.fits child call found).carried inner (by rw [joining]; rfl)
  have accounted := kept inner { call with pc := .dropped } (Function.update_self ..) gone
  unfold Accounted at accounted
  rw [show ((s.setCall inner _).release inner).sent inner = none from untouched.1] at accounted
  rcases accounted with carries | thread | settled
  · cases carries
  · exact untouched.2.1 thread
  · exact untouched.2.2 settled

theorem Placed.loop_loses {l l' : L} {step : K} (placed : s.Placed api) (found : s.loops reaper = some l)
    (loses : api.Loses l step) (moved : api.step l step = some l') :
    ¬ Kept api { s with loops := Function.update s.loops reaper (some l') } := by
  intro kept
  have tidy := placed.tidy reaper l found
  cases (api.step_spec l step l' moved).1 with
  | moved held same keeps => exact keeps loses
  | settled process result held same keeps => exact keeps loses
  | lost gone some held same loses =>
      obtain ⟨process, member⟩ := List.exists_mem_of_ne_nil gone some
      obtain ⟨-, went, untold⟩ := tidy.own process (held.mem_iff.mp (List.mem_append_left _ member))
      obtain ⟨call, at_, left⟩ := placed.left went
      have accounted := kept process.child call at_ left
      unfold Accounted at accounted
      simp only [went] at accounted
      obtain ⟨m, now, has⟩ := accounted
      cases (Function.update_self ..).symm.trans now
      rcases has with told | ⟨still, -⟩
      · unfold Told at told
        rw [same] at told
        exact untold told
      · have apart := (children_perm held).nodup_iff.mpr tidy.apart
        rw [children, List.map_append] at apart
        have gone := List.mem_map_of_mem (f := ZombieReaperMessage.child) member
        exact (List.nodup_append.mp apart).2.2 process.child gone process.child still rfl

theorem Placed.broken {label : ReapersLabel K} (placed : s.Placed api) (loses : ¬ s.Keeps api label)
    (stepped : s.step api label = some t) : ¬ t.Kept api := by
  cases label with
  | cancel child =>
      simp only [Keeps, not_forall, not_not] at loses
      obtain ⟨call, found, inner, joining⟩ := loses
      simp only [Reapers.step, found, joining, WaitPc.suspended, if_true] at stepped
      exact placed.cancel_loses found joining stepped
  | loop reaper step =>
      simp only [Keeps, not_forall, not_not] at loses
      obtain ⟨l, found, loses⟩ := loses
      simp only [Reapers.step, found] at stepped
      obtain ⟨l', moved, rfl⟩ := Option.map_eq_some_iff.mp stepped
      exact placed.loop_loses found loses moved
  | spawn | exit | poll | lookup | joined | send | receive | waited | dropChild | start | close | thread =>
      exact absurd trivial loses

end Reapers

/-- Two calls find no reaper and start one each; the later fills the slot of the earlier,
whose call is dropped, and whose loop ends with the child in its list. -/
def overlapped : List (ReapersLabel ReaperStep) :=
  [.spawn 1, .spawn 2, .poll 1, .lookup 1 true 10, .joined 1 10, .poll 2, .lookup 2 true 11, .joined 2 11,
    .start 10, .start 11, .poll 1, .joined 1 10, .send 1 10, .receive 1, .loop 10 .signalNew, .loop 10 .poll,
    .loop 10 (.tryWait none), .poll 2, .joined 2 11, .cancel 1, .close 10, .loop 10 .poll]

namespace Reapers

variable {L K : Type} {api : ReaperLoop L K} {s t : Reapers L} {child reaper : Nat}

/-- No `wait` is dropped at its join handle, and none fills a slot that is filled. -/
def Lone (s : Reapers L) : ReapersLabel K → Prop
  | .cancel child => ∀ call, s.calls child = some call → ∀ inner, call.pc ≠ .suspendedJoining inner
  | .joined child start => s.starts start = .finished (some child) → s.slot = none
  | _ => True

/-- Whatever is sent is sent to the reaper in the slot. -/
structure Single (s : Reapers L) : Prop where
  senders : ∀ reaper child, child ∈ s.senders reaper → s.slot = some reaper
  sent : ∀ child reaper, s.sent child = some reaper → s.slot = some reaper

theorem Single.of_eq (single : s.Single) (slot : t.slot = s.slot)
    (senders : ∀ reaper child, child ∈ t.senders reaper → child ∈ s.senders reaper)
    (sent : t.sent = s.sent) : t.Single := by
  refine ⟨fun reaper child member => ?_, fun child reaper went => ?_⟩
  · rw [slot]
    exact single.senders reaper child (senders reaper child member)
  · rw [slot]
    rw [sent] at went
    exact single.sent child reaper went

theorem Single.advance {label : WaitLabel} (single : s.Single) (stepped : s.advance child label = some t) :
    t.Single := by
  obtain ⟨call, next, -, -, rfl⟩ := advance_eq stepped
  exact single.of_eq rfl (fun _ _ => id) rfl

theorem Single.release (single : s.Single) : (s.release child).Single :=
  single.of_eq rfl (fun _ _ member => (List.mem_filter.mp member).1) rfl

theorem Single.deliver {l : L} (single : s.Single) (slot : s.slot = some reaper) :
    (s.deliver api child reaper l).Single := by
  refine ⟨single.senders, fun other r went => ?_⟩
  by_cases same : other = child
  · subst same
    cases (Function.update_self ..).symm.trans went
    exact slot
  · exact single.sent other r ((Function.update_of_ne same _ _).symm.trans went)

theorem Single.lookup {inside : Bool} {start : Nat} (single : s.Single)
    (stepped : s.lookup child inside start = some t) : t.Single := by
  unfold Reapers.lookup at stepped
  split at stepped
  · exact single.advance stepped
  · split at stepped
    · rename_i reaper slot
      obtain ⟨after, advanced, rfl⟩ := Option.map_eq_some_iff.mp stepped
      have before := single.advance advanced
      obtain ⟨call, next, -, -, rfl⟩ := advance_eq advanced
      refine ⟨fun r other member => ?_, before.sent⟩
      rcases mem_addSender.mp member with ⟨rfl, -⟩ | member
      · exact slot
      · exact before.senders r other member
    · simp only [Option.ite_none_right_eq_some] at stepped
      obtain ⟨after, advanced, rfl⟩ := Option.map_eq_some_iff.mp stepped.2
      exact (single.advance advanced).of_eq rfl (fun _ _ => id) rfl

/-- Before the slot is filled nobody has a sender and nothing has been sent. -/
theorem Single.joined {start : Nat} (single : s.Single)
    (lone : s.starts start = .finished (some child) → s.slot = none) (stepped : s.joined child start = some t) :
    t.Single := by
  unfold Reapers.joined at stepped
  split at stepped
  · exact single.advance stepped
  · simp only [Option.ite_none_right_eq_some] at stepped
    obtain ⟨finished, stepped⟩ := stepped
    have empty := lone finished
    obtain ⟨after, advanced, rfl⟩ := Option.map_eq_some_iff.mp stepped
    obtain ⟨call, next, -, -, rfl⟩ := advance_eq advanced
    refine ⟨fun r other member => ?_, fun other r went => ?_⟩
    · rcases mem_addSender.mp member with ⟨rfl, -⟩ | member
      · rfl
      · cases empty.symm.trans (single.senders r other member)
    · cases empty.symm.trans (single.sent other r went)

theorem Single.send (single : s.Single) (stepped : s.send api child reaper = some t) : t.Single := by
  unfold Reapers.send at stepped
  split at stepped
  · rename_i member
    split at stepped
    · cases stepped
    · split at stepped
      · exact single.advance stepped
      · obtain ⟨after, advanced, rfl⟩ := Option.map_eq_some_iff.mp stepped
        have before := single.advance advanced
        obtain ⟨call, next, -, -, rfl⟩ := advance_eq advanced
        exact before.deliver (single.senders reaper child member)
  · cases stepped

theorem Single.receive (single : s.Single) (stepped : s.receive api child = some t) : t.Single := by
  unfold Reapers.receive at stepped
  split at stepped
  · exact single.advance stepped
  · obtain ⟨after, advanced, rfl⟩ := Option.map_eq_some_iff.mp stepped
    exact (single.advance advanced).release

theorem Single.dropChild {exited inside : Bool} {start : Nat} (single : s.Single)
    (stepped : s.dropChild api child exited inside start = some t) : t.Single := by
  rcases dropChild_eq stepped with rfl | ⟨call, other, -, -, reaped⟩
  · exact single
  · unfold reapOnDrop at reaped
    split at reaped
    · cases reaped
      exact single.of_eq rfl (fun _ _ => id) rfl
    · split at reaped
      · cases reaped
        exact single.of_eq rfl (fun _ _ => id) rfl
      · split at reaped
        · rename_i reaper slot
          split at reaped
          · cases reaped
          · split at reaped <;> cases reaped
            · exact single.of_eq rfl (fun _ _ => id) rfl
            · exact Single.deliver (single.of_eq rfl (fun _ _ => id) rfl) slot
        · simp only [Option.ite_none_right_eq_some, Option.some.injEq] at reaped
          obtain ⟨-, rfl⟩ := reaped
          exact single.of_eq rfl (fun _ _ => id) rfl

theorem Single.step {label : ReapersLabel K} (single : s.Single) (lone : s.Lone label)
    (stepped : s.step api label = some t) : t.Single := by
  cases label with
  | spawn child =>
      simp only [Reapers.step, Option.ite_none_right_eq_some, Option.some.injEq] at stepped
      obtain ⟨-, rfl⟩ := stepped
      exact single.of_eq rfl (fun _ _ => id) rfl
  | exit child status =>
      simp only [Reapers.step, Option.ite_none_right_eq_some, Option.some.injEq] at stepped
      obtain ⟨-, rfl⟩ := stepped
      exact single.of_eq rfl (fun _ _ => id) rfl
  | poll child => exact single.advance stepped
  | lookup child inside start => exact single.lookup stepped
  | joined child start => exact single.joined lone stepped
  | send child reaper => exact single.send stepped
  | receive child => exact single.receive stepped
  | waited child result =>
      obtain ⟨after, advanced, rfl⟩ := Option.map_eq_some_iff.mp stepped
      exact (single.advance advanced).of_eq rfl (fun _ _ => id) rfl
  | cancel child =>
      simp only [Reapers.step] at stepped
      split at stepped
      · simp only [Option.ite_none_right_eq_some] at stepped
        obtain ⟨after, advanced, rfl⟩ := Option.map_eq_some_iff.mp stepped.2
        exact (single.advance advanced).release
      · cases stepped
  | dropChild child exited inside start => exact single.dropChild stepped
  | start start =>
      simp only [Reapers.step] at stepped
      split at stepped <;> cases stepped
      exact single.of_eq rfl (fun _ _ => id) rfl
  | close reaper =>
      simp only [Reapers.step] at stepped
      split at stepped
      · split at stepped <;> cases stepped
        exact single.of_eq rfl (fun _ _ => id) rfl
      · cases stepped
  | loop reaper step =>
      simp only [Reapers.step] at stepped
      split at stepped
      · obtain ⟨l', -, rfl⟩ := Option.map_eq_some_iff.mp stepped
        exact single.of_eq rfl (fun _ _ => id) rfl
      · cases stepped
  | thread child =>
      simp only [Reapers.step, Option.ite_none_right_eq_some, Option.some.injEq] at stepped
      obtain ⟨-, rfl⟩ := stepped
      exact single.of_eq rfl (fun _ _ => id) rfl

/-- A loop that holds a message is the one in the slot, so that its channel is open. -/
theorem Single.keeps {label : ReapersLabel K} (single : s.Single) (placed : s.Placed api) (lone : s.Lone label)
    (only : ∀ l step, api.Loses l step → api.closed l = true) (stepped : s.step api label = some t) :
    s.Keeps api label := by
  cases label with
  | cancel child => exact lone
  | loop reaper step =>
      intro l found loses
      simp only [Reapers.step, found] at stepped
      obtain ⟨l', moved, -⟩ := Option.map_eq_some_iff.mp stepped
      cases (api.step_spec l step l' moved).1 with
      | moved held same keeps => exact keeps loses
      | settled process result held same keeps => exact keeps loses
      | lost gone some held same _ =>
          obtain ⟨process, member⟩ := List.exists_mem_of_ne_nil gone some
          have own := (placed.tidy reaper l found).own process (held.mem_iff.mp (List.mem_append_left _ member))
          obtain ⟨m, at_, opened, -⟩ := placed.opened reaper (.inl (single.sent process.child reaper own.2.1))
          cases found.symm.trans at_
          cases (only l step loses).symm.trans opened
  | spawn | exit | poll | lookup | joined | send | receive | waited | dropChild | start | close | thread =>
      trivial

end Reapers

/-- **One reaper at a time is enough.**  With a loop that lets go of children only when its
channel is closed, no child is lost in a run in which every call that fills the slot finds it
empty, and no `wait` is dropped while its reaper starts: calls and children dropped at other
moments, exits and ends of loops come as they may. -/
theorem children_kept_of_lone {L K : Type} (api : ReaperLoop L K)
    (only : ∀ l step, api.Loses l step → api.closed l = true) (labels : List (ReapersLabel K))
    (lone : (reapersMachine api).AllSteps Reapers.Lone .new labels) :
    (reapersMachine api).Throughout (Reapers.Kept api) .new labels := by
  refine Machine.throughout_of_allSteps (I := fun s => s.Placed api ∧ s.Single)
    (fun s label next holds lone stepped => ?_) (fun s holds => holds.1.kept)
    ⟨Reapers.new_placed, ⟨fun _ _ member => ?_, fun _ _ went => ?_⟩⟩ lone
  · have keeps := holds.2.keeps holds.1 lone only stepped
    exact ⟨holds.1.step keeps stepped, holds.2.step lone stepped⟩
  · cases member
  · cases went

/-- The loop of signals is one: a call that starts it, and a child dropped afterwards. -/
theorem children_kept_started :
    (reapersMachine signalLoop).Throughout (Reapers.Kept signalLoop) .new
      [.spawn 1, .spawn 2, .poll 1, .lookup 1 true 0, .joined 1 0, .start 0, .poll 1, .joined 1 0, .send 1 0,
        .dropChild 2 false true 1] := by
  refine children_kept_of_lone signalLoop (fun _ _ loses => loses.2.2.2.1) _ ?_
  refine .cons trivial rfl (.cons trivial rfl (.cons trivial rfl (.cons trivial rfl (.cons ?_ rfl ?_))))
  · intro finished
    cases finished
  · refine .cons trivial rfl (.cons trivial rfl (.cons (fun _ => rfl) rfl (.cons trivial rfl ?_)))
    exact .cons trivial rfl trivial

end Vibeio.Process
