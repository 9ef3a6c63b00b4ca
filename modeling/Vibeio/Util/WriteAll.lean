/-
# Util.WriteAll -- whether the stored write of `AsyncWrap` ends

The future `poll_write` stores goes on until its buffer is empty or a write fails.  What the
inner writer does is not the loop's to choose: it may accept any part of the buffer, none of
it included, and the loop takes none for an answer like any other.

* `write_all_ends_iff`: with a writer that never blocks, the poll returns, and a write that
  accepted nothing is reported, exactly if the writer fails before it has accepted everything
  or accepts something every time.
-/
import Vibeio.Util.AsyncWrap

namespace Vibeio.Util

set_option autoImplicit false

open Vibeio.Driver (IoError)

/-- An inner writer whose writes complete: what its `k`-th write returns for a buffer. -/
structure InnerWriter where
  write : Nat → List UInt8 → Except IoError Nat
  fits : ∀ k buf n, write k buf = .ok n → n ≤ buf.length

namespace InnerWriter

/-- The writer after one write. -/
def later (w : InnerWriter) : InnerWriter where
  write k := w.write (k + 1)
  fits k := w.fits (k + 1)

/-- The answers the loop gets from the writer, as far as the list goes. -/
def Gives (w : InnerWriter) (buf : List UInt8) : List WriteAnswer → Prop
  | [] => True
  | .hold :: _ => False
  | .fail err :: rest => w.write 0 buf = .error err ∧ w.later.Gives buf rest
  | .accept n :: rest => w.write 0 buf = .ok n ∧ w.later.Gives (buf.drop n) rest

/-- Some write fails before everything has been accepted. -/
inductive Fails : InnerWriter → List UInt8 → Prop where
  | now {w : InnerWriter} {buf : List UInt8} {err : IoError} (some_ : buf ≠ [])
      (failed : w.write 0 buf = .error err) : Fails w buf
  | afterwards {w : InnerWriter} {buf : List UInt8} {n : Nat} (some_ : buf ≠ [])
      (accepted : w.write 0 buf = .ok n) (fails : Fails w.later (buf.drop n)) : Fails w buf

/-- Every write accepts something until everything has been accepted. -/
inductive Advances : InnerWriter → List UInt8 → Prop where
  | done (w : InnerWriter) : Advances w []
  | step {w : InnerWriter} {buf : List UInt8} {n : Nat} (some_ : buf ≠ [])
      (accepted : w.write 0 buf = .ok n) (positive : 0 < n) (advances : Advances w.later (buf.drop n)) :
      Advances w buf

end InnerWriter

/-- A first `poll_write` with this buffer returns after finitely many writes of the inner writer,
with an error if one of them accepted nothing. -/
def WriteAllEnds {T : Type} (inner : T) (w : InnerWriter) (buf : List UInt8) : Prop :=
  ∃ answers polled result, w.Gives buf answers ∧
    (AsyncWrap.new inner).pollWrite buf answers = some polled ∧ polled.result = .ready result ∧
    (.accept 0 ∈ answers → ∃ err, result = .error err)

/-! ## From the answers to the writer -/

theorem fails_of_error {w : InnerWriter} {buf accepted : List UInt8} {total : Nat}
    {answers : List WriteAnswer} {err : IoError} (gives : w.Gives buf answers)
    (ran : writeAll buf total answers = some (.finished (.error err), accepted)) : w.Fails buf := by
  induction answers generalizing w buf total accepted with
  | nil =>
      simp only [writeAll] at ran
      split at ran <;> cases ran
  | cons answer rest ih =>
      unfold writeAll at ran
      split at ran
      · cases ran
      · rename_i some_
        cases answer with
        | hold => exact gives.elim
        | fail err' => exact .now some_ gives.1
        | accept n =>
            simp only at ran
            split at ran
            · obtain ⟨⟨outcome, more⟩, onward, same⟩ := Option.map_eq_some_iff.mp ran
              cases same
              exact .afterwards some_ gives.1 (ih gives.2 onward)
            · cases ran

theorem advances_of_ok {w : InnerWriter} {buf accepted : List UInt8} {total count : Nat}
    {answers : List WriteAnswer} (gives : w.Gives buf answers) (never : .accept 0 ∉ answers)
    (ran : writeAll buf total answers = some (.finished (.ok count), accepted)) : w.Advances buf := by
  induction answers generalizing w buf total accepted with
  | nil =>
      simp only [writeAll] at ran
      split at ran
      · rename_i empty
        rw [empty]
        exact .done w
      · cases ran
  | cons answer rest ih =>
      unfold writeAll at ran
      split at ran
      · cases ran
      · rename_i some_
        cases answer with
        | hold => exact gives.elim
        | fail err =>
            simp only at ran
            split at ran <;> cases ran
        | accept n =>
            simp only at ran
            split at ran
            · obtain ⟨⟨outcome, more⟩, onward, same⟩ := Option.map_eq_some_iff.mp ran
              cases same
              have positive : 0 < n := by
                rcases Nat.eq_zero_or_pos n with rfl | positive
                · exact absurd List.mem_cons_self never
                · exact positive
              exact .step some_ gives.1 positive
                (ih gives.2 (fun member => never (List.mem_cons_of_mem _ member)) onward)
            · cases ran

/-! ## From the writer to the answers -/

theorem writeAll_accept {buf : List UInt8} {total n : Nat} {rest : List WriteAnswer}
    {outcome : WriteOutcome} {accepted : List UInt8} (some_ : buf ≠ []) (fits : n ≤ buf.length)
    (onward : writeAll (buf.drop n) (total + n) rest = some (outcome, accepted)) :
    writeAll buf total (.accept n :: rest) = some (outcome, buf.take n ++ accepted) := by
  simp only [writeAll, if_neg some_, if_pos fits, onward, Option.map_some]

theorem InnerWriter.Fails.run {w : InnerWriter} {buf : List UInt8} (fails : w.Fails buf) (total : Nat) :
    ∃ answers err accepted, w.Gives buf answers ∧
      writeAll buf total answers = some (.finished (.error err), accepted) := by
  induction fails generalizing total with
  | @now w buf err some_ failed =>
      refine ⟨[.fail err], err, [], ⟨failed, trivial⟩, ?_⟩
      simp [writeAll, some_]
  | @afterwards w buf n some_ accepted _ ih =>
      obtain ⟨answers, err, more, gives, ran⟩ := ih (total + n)
      exact ⟨.accept n :: answers, err, _, ⟨accepted, gives⟩,
        writeAll_accept some_ (w.fits 0 buf n accepted) ran⟩

theorem InnerWriter.Advances.run {w : InnerWriter} {buf : List UInt8} (advances : w.Advances buf)
    (total : Nat) :
    ∃ answers count accepted, w.Gives buf answers ∧ .accept 0 ∉ answers ∧
      writeAll buf total answers = some (.finished (.ok count), accepted) := by
  induction advances generalizing total with
  | done w => exact ⟨[], total, [], trivial, List.not_mem_nil, by simp [writeAll]⟩
  | @step w buf n some_ accepted positive _ ih =>
      obtain ⟨answers, count, more, gives, never, ran⟩ := ih (total + n)
      refine ⟨.accept n :: answers, count, _, ⟨accepted, gives⟩, ?_,
        writeAll_accept some_ (w.fits 0 buf n accepted) ran⟩
      intro member
      rcases List.mem_cons.mp member with same | later
      · cases same
        omega
      · exact never later

/-! ## The first poll -/

/-- A first poll that returns has run the loop to its end. -/
theorem pollWrite_new_ready {T : Type} {inner : T} {buf : List UInt8} {answers : List WriteAnswer}
    {polled : Polled T Nat} {result : Except IoError Nat} (some_ : buf ≠ [])
    (called : (AsyncWrap.new inner).pollWrite buf answers = some polled)
    (ready : polled.result = .ready result) :
    ∃ accepted, writeAll buf 0 answers = some (.finished result, accepted) := by
  simp only [AsyncWrap.pollWrite, if_neg some_, AsyncWrap.new, AsyncWrap.pollWriteFut,
    Option.map_eq_some_iff] at called
  obtain ⟨⟨outcome, accepted⟩, ran, rfl⟩ := called
  cases outcome with
  | waiting rest total => cases ready
  | finished written =>
      cases ready
      exact ⟨accepted, ran⟩

theorem pollWrite_new_of_finished {T : Type} (inner : T) {buf : List UInt8}
    {answers : List WriteAnswer} {result : Except IoError Nat} {accepted : List UInt8} (some_ : buf ≠ [])
    (ran : writeAll buf 0 answers = some (.finished result, accepted)) :
    ∃ polled, (AsyncWrap.new inner).pollWrite buf answers = some polled ∧ polled.result = .ready result := by
  simp only [AsyncWrap.pollWrite, if_neg some_, AsyncWrap.new, AsyncWrap.pollWriteFut, ran,
    Option.map_some]
  exact ⟨_, rfl, rfl⟩

/-- **When the stored write ends and reports a writer that stops.**  Exactly if the writer fails
before it has accepted everything, or accepts something in every write until it has. -/
theorem write_all_ends_iff {T : Type} (inner : T) (w : InnerWriter) (buf : List UInt8) :
    WriteAllEnds inner w buf ↔ w.Fails buf ∨ w.Advances buf := by
  by_cases empty : buf = []
  · subst empty
    refine ⟨fun _ => .inr (.done w), fun _ => ?_⟩
    exact ⟨[], _, _, trivial, rfl, rfl, fun member => absurd member List.not_mem_nil⟩
  constructor
  · rintro ⟨answers, polled, result, gives, called, ready, reports⟩
    obtain ⟨accepted, ran⟩ := pollWrite_new_ready empty called ready
    cases result with
    | error err => exact .inl (fails_of_error gives ran)
    | ok count =>
        refine .inr (advances_of_ok gives (fun stalled => ?_) ran)
        obtain ⟨err, impossible⟩ := reports stalled
        cases impossible
  · rintro (fails | advances)
    · obtain ⟨answers, err, accepted, gives, ran⟩ := fails.run 0
      obtain ⟨polled, called, ready⟩ := pollWrite_new_of_finished inner empty ran
      exact ⟨answers, polled, _, gives, called, ready, fun _ => ⟨err, rfl⟩⟩
    · obtain ⟨answers, count, accepted, gives, never, ran⟩ := advances.run 0
      obtain ⟨polled, called, ready⟩ := pollWrite_new_of_finished inner empty ran
      exact ⟨answers, polled, _, gives, called, ready, fun stalled => absurd stalled never⟩

/-- The writer of `PendingIo`: every write returns `Ok(0)`. -/
def InnerWriter.pendingIo : InnerWriter := ⟨fun _ _ => .ok 0, fun _ _ _ same => by cases same; omega⟩

/-- With it the loop writes a byte forever. -/
theorem write_all_never_ends : ¬ WriteAllEnds () .pendingIo [7] := by
  rintro ⟨answers, polled, result, gives, called, ready, -⟩
  obtain ⟨accepted, ran⟩ := pollWrite_new_ready (by simp) called ready
  -- whatever the loop has done, the byte is still to be written
  have stuck : ∀ (answers : List WriteAnswer) (w : InnerWriter) (total : Nat) (accepted : List UInt8),
      w = .pendingIo → w.Gives [7] answers →
      writeAll [7] total answers ≠ some (.finished result, accepted) := by
    intro answers
    induction answers with
    | nil =>
        intro w total accepted _ _ ran
        cases ran
    | cons answer rest ih =>
        rintro w total accepted rfl gives ran
        cases answer with
        | hold => exact gives.elim
        | fail err => cases gives.1
        | accept n =>
            cases gives.1
            simp only [writeAll, List.cons_ne_self, if_false, Nat.zero_le, if_true, List.drop_zero,
              Nat.add_zero, Option.map_eq_some_iff] at ran
            obtain ⟨⟨outcome, more⟩, onward, same⟩ := ran
            cases same
            exact ih _ total more rfl gives.2 onward
  exact stuck answers .pendingIo 0 accepted rfl gives ran

end Vibeio.Util
