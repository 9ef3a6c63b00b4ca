/-
# Driver.UringOperations -- completion routing in the io_uring driver

The io_uring driver is a `CompletionDriver`: the requests it owes are the entries
of operations outstanding in the ring, and reading a completion ends the request of
the slot its key names.  Polls, registrations, interrupts and timeouts share the
ring and the keys, and none of them touches the completion table.

`CompletionRouting` collects what a client relies on: a result is the result of
the operation's own completion and is handed out once, a vacant slot has nothing in
flight, no two kinds of keys meet, and the waker woken is the one of the latest
poll.
-/
import Vibeio.Driver.Clients
import Vibeio.Driver.UringPoll

namespace Vibeio.Driver

open Vibeio.Theory

set_option autoImplicit false

namespace UringDriver

def operationEntry (token serial : Nat) : Sqe := ⟨encodeCompletionKey token, .operation serial⟩

/-- The request an outstanding entry stands for, if it is an operation's. -/
def ticketOf (entry : Sqe) : Option Ticket :=
  match entry.request with
  | .operation serial => some ⟨decodeToken entry.userData, serial⟩
  | _ => none

def finishedOf (cqe : Cqe) : Option (Ticket × Int) :=
  (ticketOf cqe.sqe).map fun ticket => (ticket, cqe.result)

def owed (d : UringDriver) : Multiset Ticket := d.ring.outstanding.filterMap ticketOf

def finished (d : UringDriver) : List (Ticket × Int) := d.ring.drained.filterMap finishedOf

/-- The environment of a submission: the vacant entry the slab hands out, what
`build_completion_entry` returns, and the kernel. -/
structure SubmitEnv where
  key : Nat
  built : Except IoError Unit
  submit : Enter

/-- Everything that happens to the driver besides the calls of operations. -/
inductive DriverStep where
  | background (l : RingStep)
  | submitPoll (token : Nat) (waker : Waker) (interest : Interest) (submit : Enter)
  | register (fd : Int) (interest : Interest) (mode : RegistrationMode) (key : Nat)
  | reregister (token : Nat) (interest : Interest)
  | deregister (token : Nat)

def driverStep (d : UringDriver) : DriverStep → Option UringDriver
  | .background l => d.ringStep l
  | .submitPoll token waker interest submit => some (d.submitPoll token waker interest submit).2
  | .register fd interest mode key =>
      if (d.registrations.get key).isNone && decide (key < TOKEN_LIMIT) then
        some (d.registerHandleWithMode fd interest mode key).2
      else none
  | .reregister token interest => some (d.reregisterHandle token interest).2
  | .deregister token => some (d.deregisterHandle token).2

/-- Every outstanding entry carries the key of its kind, with a token below the
limit. -/
def Keyed (entry : Sqe) : Prop :=
  Reserved entry ∨ (∃ token fd mask, token < TOKEN_LIMIT ∧ entry = pollAddEntry token fd mask) ∨
    ∃ token serial, token < TOKEN_LIMIT ∧ entry = operationEntry token serial

structure KeysInvariant (d : UringDriver) : Prop where
  small : ∀ token h, d.registrations.get token = some h → token < TOKEN_LIMIT
  keyed : ∀ entry ∈ d.ring.outstanding, Keyed entry

@[simp] theorem ticketOf_pollAddEntry (token : Nat) (fd : Int) (mask : Nat) :
    ticketOf (pollAddEntry token fd mask) = none := rfl

theorem ticketOf_reserved {entry : Sqe} (reserved : Reserved entry) : ticketOf entry = none := by
  obtain rfl | ⟨nanos, rfl⟩ := reserved <;> rfl

theorem ticketOf_operationEntry {token : Nat} (small : token < TOKEN_LIMIT) (serial : Nat) :
    ticketOf (operationEntry token serial) = some ⟨token, serial⟩ := by
  simp only [ticketOf, operationEntry, (decode_encodeCompletionKey small).2.1]

/-! ## What a ring step does to the requests -/

theorem owed_of_moved {d d' : UringDriver} (moved : Ring.Moved d.ring d'.ring) : d'.owed = d.owed := by
  rw [owed, owed, moved.outstanding]

theorem owed_of_pushed {d d' : UringDriver} {entry : Sqe} (pushed : Ring.Pushed d.ring entry d'.ring)
    (other : ticketOf entry = none) : d'.owed = d.owed := by
  rw [owed, owed, pushed.outstanding, Multiset.filterMap_cons_none _ _ other]

theorem finished_of_drained {d d' : UringDriver} (same : d'.ring.drained = d.ring.drained) :
    d'.finished = d.finished := by
  rw [finished, finished, same]

/-- Reading a completion that answers no operation changes no request. -/
theorem quiet_pop {d : UringDriver} {cqe : Cqe} {rest : List Cqe} (front : d.ring.cq = cqe :: rest)
    (other : ticketOf cqe.sqe = none) :
    owed { d with ring := d.ring.pop } = d.owed ∧ finished { d with ring := d.ring.pop } = d.finished := by
  constructor
  · rw [owed, owed, Ring.outstanding_pop front, Multiset.filterMap_cons_none _ _ other]
  · simp [finished, Ring.drained_pop front, List.filterMap_append, finishedOf, other]

theorem ends_pop {d : UringDriver} {cqe : Cqe} {rest : List Cqe} {ticket : Ticket}
    (front : d.ring.cq = cqe :: rest) (own : ticketOf cqe.sqe = some ticket) :
    d.owed = ticket ::ₘ owed { d with ring := d.ring.pop } ∧
      finished { d with ring := d.ring.pop } = d.finished ++ [(ticket, cqe.result)] := by
  constructor
  · rw [owed, owed, Ring.outstanding_pop front, Multiset.filterMap_cons_some _ _ _ own]
  · simp [finished, Ring.drained_pop front, List.filterMap_append, finishedOf, own]

theorem KeysInvariant.of_outstanding {d d' : UringDriver} (inv : KeysInvariant d)
    (registrations : ∀ token h, d'.registrations.get token = some h → token < TOKEN_LIMIT)
    (entries : ∀ entry ∈ d'.ring.outstanding, entry ∈ d.ring.outstanding ∨ Keyed entry) :
    KeysInvariant d' := by
  refine ⟨registrations, fun entry member => ?_⟩
  obtain old | new := entries entry member
  · exact inv.keyed entry old
  · exact new

/-- Everything `submit_poll` can do to the ring and the tables. -/
theorem submitPoll_effect (d : UringDriver) (token : Nat) (waker : Waker) (interest : Interest)
    (submit : Enter) :
    (d.submitPoll token waker interest submit).2.completions = d.completions ∧
      (∀ j h, (d.submitPoll token waker interest submit).2.registrations.get j = some h →
        ∃ h', d.registrations.get j = some h') ∧
      (Ring.Moved d.ring (d.submitPoll token waker interest submit).2.ring ∨
        ∃ r fd mask, d.registrations.get token = some (.poll r) ∧
          Ring.Pushed d.ring (pollAddEntry token fd mask) (d.submitPoll token waker interest submit).2.ring) := by
  have known : ∀ (r q : PollRegistration) (j : Nat) (h : HandleRegistration),
      d.registrations.get token = some (.poll r) →
      (d.registrations.insert token (.poll q)).get j = some h → ∃ h', d.registrations.get j = some h' := by
    intro r q j h registered found
    rw [Slab.get_insert] at found
    split at found
    · rename_i same
      exact ⟨_, same ▸ registered⟩
    · exact ⟨h, found⟩
  unfold submitPoll
  split
  · exact ⟨rfl, fun j h found => ⟨h, found⟩, .inl (.refl _)⟩
  · exact ⟨rfl, fun j h found => ⟨h, found⟩, .inl (.refl _)⟩
  · rename_i r registered
    simp only
    split
    · exact ⟨rfl, fun j h => known r _ j h registered, .inl (.refl _)⟩
    · rename_i fd mask entry
      split
      · rename_i d' pushed
        obtain ⟨_, _, impossible, _⟩ | ⟨ring, -, grown, rfl⟩ := pushEntry_cases pushed
        · cases impossible
        · exact ⟨rfl, fun j h => known r _ j h registered, .inr ⟨r, fd, mask, registered, grown⟩⟩
      · rename_i err d' pushed
        obtain ⟨_, ring, -, moved, rfl⟩ | ⟨_, impossible, _⟩ := pushEntry_cases pushed
        · refine ⟨rfl, fun j h found => ?_, .inl moved⟩
          simp only [setPoll, Slab.get_insert] at found
          split at found
          · rename_i same
            exact ⟨_, same ▸ registered⟩
          · exact ⟨h, found⟩
        · cases impossible

/-! ## The driver's own steps -/

theorem KeysInvariant.ringStep {d d' : UringDriver} {l : RingStep} (inv : KeysInvariant d)
    (stepped : d.ringStep l = some d') : KeysInvariant d' := by
  obtain ⟨ring, moved, rfl⟩ | ⟨pending, rfl⟩ | ⟨entry, ring, reserved, grown, rfl⟩ |
    ⟨cqe, rest, -, front, rfl⟩ := ringStep_cases stepped
  · exact inv.of_outstanding inv.small fun entry member => .inl (moved.outstanding ▸ member)
  · exact ⟨inv.small, inv.keyed⟩
  · refine inv.of_outstanding inv.small fun e member => ?_
    rw [grown.outstanding, Multiset.mem_cons] at member
    obtain rfl | old := member
    · exact .inr (.inl reserved)
    · exact .inl old
  · have left : ∀ entry ∈ d.ring.pop.outstanding, entry ∈ d.ring.outstanding := by
      intro entry member
      rw [Ring.outstanding_pop front]
      exact Multiset.mem_cons_of_mem member
    obtain reserved | ⟨token, fd, mask, small, own⟩ | ⟨token, serial, small, own⟩ :=
      inv.keyed _ (Ring.front_outstanding front)
    · rw [drainNext_reserved reserved]
      exact inv.of_outstanding inv.small fun entry member => .inl (left entry member)
    · by_cases polled : ∃ r, d.registrations.get token = some (.poll r)
      · obtain ⟨r, registered⟩ := polled
        rw [drainNext_poll small own registered]
        refine inv.of_outstanding (fun j h found => ?_) fun entry member => .inl (left entry member)
        rw [get_setPoll] at found
        split at found
        · rename_i same
          exact same ▸ small
        · exact inv.small j h found
      · rw [drainNext_poll_stale small own fun r registered => polled ⟨r, registered⟩]
        exact inv.of_outstanding inv.small fun entry member => .inl (left entry member)
    · rw [drainNext_operation small own]
      exact inv.of_outstanding inv.small fun entry member => .inl (left entry member)

/-- A step left the requests alone, or, if `reads` holds, it read the completion of one
of them. -/
def Reads (d d' : UringDriver) (reads : Prop) : Prop :=
  (d'.completions = d.completions ∧ d'.owed = d.owed ∧ d'.finished = d.finished ∧
      (reads → ∀ cqe rest, d.ring.cq = cqe :: rest → ticketOf cqe.sqe = none)) ∨
    ∃ cqe rest ticket, reads ∧ d.ring.cq = cqe :: rest ∧ ticketOf cqe.sqe = some ticket ∧
      d'.completions = (d.completions.complete id ticket.token cqe.result).2 ∧
      d.owed = ticket ::ₘ d'.owed ∧ d'.finished = d.finished ++ [(ticket, cqe.result)]

theorem drain_reads {d : UringDriver} {cqe : Cqe} {rest : List Cqe} (inv : KeysInvariant d)
    (front : d.ring.cq = cqe :: rest) : Reads d (d.drainNext cqe).driver True := by
  have quiet : ∀ d', d'.completions = d.completions → d'.ring = d.ring.pop → ticketOf cqe.sqe = none →
      Reads d d' True := by
    intro d' table ring other
    obtain ⟨owed_eq, finished_eq⟩ := quiet_pop front other
    refine .inl ⟨table, ?_, ?_, fun _ cqe' rest' front' => ?_⟩
    · rw [← owed_eq, owed, owed, ring]
    · rw [← finished_eq, finished, finished, ring]
    · cases front.symm.trans front'
      exact other
  obtain reserved | ⟨token, fd, mask, small, own⟩ | ⟨token, serial, small, own⟩ :=
    inv.keyed _ (Ring.front_outstanding front)
  · rw [drainNext_reserved reserved]
    exact quiet _ rfl rfl (ticketOf_reserved reserved)
  · have other : ticketOf cqe.sqe = none := by rw [own]; rfl
    by_cases polled : ∃ r, d.registrations.get token = some (.poll r)
    · obtain ⟨r, registered⟩ := polled
      rw [drainNext_poll small own registered]
      exact quiet _ rfl rfl other
    · rw [drainNext_poll_stale small own fun r registered => polled ⟨r, registered⟩]
      exact quiet _ rfl rfl other
  · rw [drainNext_operation small own]
    have mine : ticketOf cqe.sqe = some ⟨token, serial⟩ := by
      rw [own]
      exact ticketOf_operationEntry small serial
    obtain ⟨owed_eq, finished_eq⟩ := ends_pop front mine
    exact .inr ⟨cqe, rest, ⟨token, serial⟩, trivial, front, mine, rfl, owed_eq, finished_eq⟩

theorem ringStep_reads {d d' : UringDriver} {l : RingStep} (inv : KeysInvariant d)
    (stepped : d.ringStep l = some d') : Reads d d' (l = .drain) := by
  by_cases drains : l = .drain
  · subst drains
    simp only [ringStep] at stepped
    split at stepped
    · cases stepped
    · rename_i cqe rest front
      cases stepped
      simpa only [Reads, true_implies, true_and] using drain_reads inv front
  · obtain ⟨ring, moved, rfl⟩ | ⟨pending, rfl⟩ | ⟨entry, ring, reserved, grown, rfl⟩ |
      ⟨cqe, rest, impossible, -, -⟩ := ringStep_cases stepped
    · exact .inl ⟨rfl, owed_of_moved moved, finished_of_drained moved.drained, fun read => absurd read drains⟩
    · exact .inl ⟨rfl, rfl, rfl, fun read => absurd read drains⟩
    · exact .inl ⟨rfl, owed_of_pushed grown (ticketOf_reserved reserved), finished_of_drained grown.drained,
        fun read => absurd read drains⟩
    · exact absurd impossible drains

theorem KeysInvariant.driverStep {d d' : UringDriver} {k : DriverStep} (inv : KeysInvariant d)
    (stepped : d.driverStep k = some d') : KeysInvariant d' := by
  cases k with
  | background l => exact inv.ringStep stepped
  | submitPoll token waker interest submit =>
      cases stepped
      obtain ⟨-, registrations, effect⟩ := submitPoll_effect d token waker interest submit
      refine inv.of_outstanding (fun j h found => ?_) fun entry member => ?_
      · obtain ⟨h', old⟩ := registrations j h found
        exact inv.small j h' old
      · obtain moved | ⟨r, fd, mask, registered, grown⟩ := effect
        · exact .inl (moved.outstanding ▸ member)
        · rw [grown.outstanding, Multiset.mem_cons] at member
          obtain rfl | old := member
          · exact .inr (.inr (.inl ⟨token, fd, mask, inv.small token _ registered, rfl⟩))
          · exact .inl old
  | register fd interest mode key =>
      simp only [UringDriver.driverStep] at stepped
      split at stepped
      · rename_i vacant
        cases stepped
        refine inv.of_outstanding (fun j h found => ?_) fun entry member => .inl member
        simp only [registerHandleWithMode, Slab.get_insert] at found
        simp only [Bool.and_eq_true, decide_eq_true_eq] at vacant
        split at found
        · omega
        · exact inv.small j h found
      · cases stepped
  | reregister token interest =>
      cases stepped
      unfold reregisterHandle
      split
      · exact inv
      · rename_i r registered
        refine inv.of_outstanding (fun j h found => ?_) fun entry member => .inl member
        simp only [Slab.get_insert] at found
        split at found
        · rename_i same
          exact same ▸ inv.small token _ registered
        · exact inv.small j h found
      · exact inv
  | deregister token =>
      cases stepped
      unfold deregisterHandle
      split
      · exact inv
      · refine inv.of_outstanding (fun j h found => ?_) fun entry member => .inl member
        simp only [Slab.get_remove] at found
        split at found
        · cases found
        · exact inv.small j h found

theorem driverStep_reads {d d' : UringDriver} {k : DriverStep} (inv : KeysInvariant d)
    (stepped : d.driverStep k = some d') : Reads d d' (k = .background .drain) := by
  have notRead {reads : Prop} (never : ¬ reads) :
      reads → ∀ cqe rest, d.ring.cq = cqe :: rest → ticketOf cqe.sqe = none := fun read => absurd read never
  cases k with
  | background l => simpa only [Reads, DriverStep.background.injEq] using ringStep_reads inv stepped
  | submitPoll token waker interest submit =>
      cases stepped
      obtain ⟨table, -, moved | ⟨r, fd, mask, -, grown⟩⟩ := submitPoll_effect d token waker interest submit
      · exact .inl ⟨table, owed_of_moved moved, finished_of_drained moved.drained, notRead (by simp)⟩
      · exact .inl ⟨table, owed_of_pushed grown rfl, finished_of_drained grown.drained, notRead (by simp)⟩
  | register fd interest mode key =>
      simp only [driverStep] at stepped
      split at stepped
      · cases stepped
        exact .inl ⟨rfl, rfl, rfl, notRead (by simp)⟩
      · cases stepped
  | reregister token interest =>
      cases stepped
      unfold reregisterHandle
      split <;> exact .inl ⟨rfl, rfl, rfl, notRead (by simp)⟩
  | deregister token =>
      cases stepped
      unfold deregisterHandle
      split <;> exact .inl ⟨rfl, rfl, rfl, notRead (by simp)⟩

theorem driverStep_progress {d d' : UringDriver} {k : DriverStep} (inv : KeysInvariant d)
    (stepped : d.driverStep k = some d') :
    Progress id d.completions d'.completions d.owed d'.owed d.finished d'.finished := by
  obtain ⟨table_eq, owed_eq, finished_eq, -⟩ | ⟨cqe, rest, ticket, -, -, -, table_eq, owed_eq, finished_eq⟩ :=
    driverStep_reads inv stepped
  · exact .quiet table_eq owed_eq finished_eq
  · refine .ends ticket cqe.result ?_ table_eq ?_ finished_eq
    · rw [owed_eq]
      exact Multiset.mem_cons_self _ _
    · rw [owed_eq, Multiset.erase_cons_head]

/-! ## Submissions -/

/-- Everything `submit_completion` can do. -/
theorem submitCompletion_cases (d : UringDriver) (serial : Nat) (waker : Waker) (e : SubmitEnv) :
    (∃ err ring, Ring.Moved d.ring ring ∧ d.submitCompletion serial waker e.key e.built e.submit =
        (.submitErr err, { d with ring := ring })) ∨
      (∃ ring, Ring.Pushed d.ring (operationEntry e.key serial) ring ∧
        d.submitCompletion serial waker e.key e.built e.submit = (.retry e.key, { d with
          ring := ring, pendingSubmissions := true
          completions := d.completions.insert e.key
            { waiter := some waker, completed := none, ignoredData := none, context := () } })) := by
  unfold submitCompletion
  cases e.built with
  | error err => exact .inl ⟨err, d.ring, .refl _, rfl⟩
  | ok _ =>
      simp only
      split
      · rename_i err d' pushed
        obtain ⟨_, ring, -, moved, rfl⟩ | ⟨_, impossible, _⟩ := pushEntry_cases pushed
        · exact .inl ⟨err, ring, moved, rfl⟩
        · cases impossible
      · rename_i d' pushed
        obtain ⟨_, _, impossible, _⟩ | ⟨ring, -, grown, rfl⟩ := pushEntry_cases pushed
        · cases impossible
        · exact .inr ⟨ring, grown, rfl⟩

def slotFits (d : UringDriver) (e : SubmitEnv) : Bool :=
  (d.completions.get e.key).isNone && decide (e.key < TOKEN_LIMIT)

theorem slotFits_iff {d : UringDriver} {e : SubmitEnv} :
    d.slotFits e = true ↔ d.completions.get e.key = none ∧ e.key < TOKEN_LIMIT := by
  simp [slotFits]

theorem KeysInvariant.submitCompletion {d : UringDriver} {serial : Nat} {waker : Waker} {e : SubmitEnv}
    (inv : KeysInvariant d) (fits : d.slotFits e = true) :
    KeysInvariant (d.submitCompletion serial waker e.key e.built e.submit).2 := by
  obtain ⟨err, ring, moved, submitted⟩ | ⟨ring, grown, submitted⟩ := submitCompletion_cases d serial waker e
  · rw [submitted]
    exact inv.of_outstanding inv.small fun entry member => .inl (moved.outstanding ▸ member)
  · rw [submitted]
    refine inv.of_outstanding inv.small fun entry member => ?_
    rw [grown.outstanding, Multiset.mem_cons] at member
    obtain rfl | old := member
    · exact .inr (.inr (.inr ⟨e.key, serial, (slotFits_iff.mp fits).2, rfl⟩))
    · exact .inl old

theorem keysInvariant_new {entries : Nat} {extArg : Bool} {submit : Enter} {d : UringDriver}
    (created : new entries extArg submit = some d) : KeysInvariant d :=
  ⟨(freshHandles_new created).small, fun entry member => .inl ((freshHandles_new created).quiet entry member)⟩

theorem new_empty {entries : Nat} {extArg : Bool} {submit : Enter} {d : UringDriver}
    (created : new entries extArg submit = some d) :
    (∀ k, d.completions.get k = none) ∧ d.owed = 0 ∧ d.finished = [] := by
  unfold new submitInterrupt at created
  split at created
  · rename_i d' pushed
    cases created
    obtain ⟨_, _, impossible, _⟩ | ⟨ring, -, grown, rfl⟩ := pushEntry_cases pushed
    · cases impossible
    · refine ⟨fun k => Slab.get_empty k, ?_, ?_⟩
      · exact (owed_of_pushed grown rfl).trans rfl
      · exact (finished_of_drained grown.drained).trans rfl
  · cases created

/-- The io_uring driver, as its clients use it. -/
def api : CompletionDriver UringDriver Unit SubmitEnv DriverStep where
  table := completions
  owed := owed
  finished := finished
  release := id
  submitCompletion := fun d serial waker e => d.submitCompletion serial waker e.key e.built e.submit
  getCompletionResult := getCompletionResult
  setCompletionWaker := setCompletionWaker
  ignoreCompletion := ignoreCompletion
  step := driverStep
  Start := fun d => ∃ entries extArg submit, new entries extArg submit = some d
  Inv := KeysInvariant
  fits := slotFits
  start_inv := fun _ ⟨_, _, _, created⟩ => keysInvariant_new created
  start_empty := fun _ ⟨_, _, _, created⟩ => new_empty created
  submit_inv := fun _ _ _ _ inv fits => inv.submitCompletion fits
  submit_spec := by
    intro d serial waker e inv fits
    obtain ⟨vacant, small⟩ := slotFits_iff.mp fits
    obtain ⟨err, ring, moved, submitted⟩ | ⟨ring, grown, submitted⟩ := submitCompletion_cases d serial waker e
    · rw [submitted]
      exact ⟨rfl, owed_of_moved moved, finished_of_drained moved.drained⟩
    · rw [submitted]
      refine ⟨vacant, ⟨(), rfl⟩, ?_, finished_of_drained grown.drained⟩
      rw [owed, owed, grown.outstanding,
        Multiset.filterMap_cons_some _ _ _ (ticketOf_operationEntry small serial)]
  get_inv := fun _ _ inv => ⟨inv.small, inv.keyed⟩
  get_spec := fun _ _ => ⟨rfl, rfl, rfl, rfl⟩
  set_inv := fun _ _ _ inv => ⟨inv.small, inv.keyed⟩
  set_spec := fun _ _ _ => ⟨rfl, rfl, rfl⟩
  ignore_inv := fun _ _ _ inv => ⟨inv.small, inv.keyed⟩
  ignore_spec := fun _ _ _ => ⟨rfl, rfl, rfl⟩
  step_inv := fun _ _ _ inv stepped => inv.driverStep stepped
  step_progress := fun _ _ _ inv stepped => driverStep_progress inv stepped

/-- `flush` and `wait` are runs of the clients' machine. -/
theorem machine_background {s : Clients UringDriver} {d : UringDriver} (runs : background.Runs s.driver d) :
    ∃ labels : List RingStep, (Clients.machine api).exec s
      (labels.map fun l => .driver (.background l)) = some { s with driver := d } := by
  obtain ⟨labels, ran⟩ := runs
  refine ⟨labels, ?_⟩
  have mirrored := background.exec_map (N := Clients.machine api)
    (f := fun d => { s with driver := d }) (g := fun l => .driver (.background l)) (fun _ _ => rfl) s.driver labels
  rw [ran] at mirrored
  exact mirrored

/-! ## Routing -/

/-- No two kinds of keys meet, and a completion key names one slot. -/
def KeysApart : Prop :=
  ∀ a b, a < TOKEN_LIMIT → b < TOKEN_LIMIT →
    encodeCompletionKey a ≠ encodePollKey b ∧
    encodeCompletionKey a ≠ U64_MAX ∧ encodeCompletionKey a ≠ U64_MAX - 1 ∧
    encodePollKey a ≠ U64_MAX ∧ encodePollKey a ≠ U64_MAX - 1 ∧
    (encodeCompletionKey a = encodeCompletionKey b → a = b)

theorem keysApart : KeysApart := by
  intro a b smallA smallB
  rw [encodeCompletionKey_eq smallA, encodeCompletionKey_eq smallB, encodePollKey_eq smallA,
    encodePollKey_eq smallB]
  unfold TOKEN_LIMIT at smallA smallB
  unfold U64_MAX
  omega

structure CompletionRouting (s : Clients UringDriver) : Prop where
  /-- A result is that of the caller's own submission, whose only completion it
  is, and asking again yields nothing. -/
  own : ∀ op ticket waker result d, s.ops op = .waiting ticket waker →
    s.driver.getCompletionResult ticket.token = (some result, d) →
    s.submitters[ticket.serial]? = some op ∧
    (∃ cqe ∈ s.driver.ring.drained, ticketOf cqe.sqe = some ticket ∧ cqe.result = result) ∧
    (∀ cqe ∈ s.driver.ring.drained, ∀ other, ticketOf cqe.sqe = some other →
      other.serial = ticket.serial → cqe.result = result) ∧
    (d.getCompletionResult ticket.token).1 = none
  /-- No two operations hold one token. -/
  unshared : ∀ op ticket waker op' ticket' waker', s.ops op = .waiting ticket waker →
    s.ops op' = .waiting ticket' waker' → ticket.token = ticket'.token → op = op'
  /-- Every submission's result is handed out at most once, to the operation that
  made it, and is that of its completion. -/
  once : (s.delivered.map fun d => d.ticket.serial).Nodup
  right : ∀ d ∈ s.delivered, s.submitters[d.ticket.serial]? = some d.op ∧
    ∃ cqe ∈ s.driver.ring.drained, ticketOf cqe.sqe = some d.ticket ∧ cqe.result = d.result
  /-- A slot that can be given away has no entry in flight. -/
  vacant : ∀ key, key < TOKEN_LIMIT → s.driver.completions.get key = none →
    ∀ serial, operationEntry key serial ∉ s.driver.ring.outstanding
  /-- The completion of a waiting operation wakes the waker of its latest poll. -/
  wakes : ∀ op ticket waker cqe rest, s.ops op = .waiting ticket waker →
    s.driver.ring.cq = cqe :: rest → ticketOf cqe.sqe = some ticket →
    (s.driver.drainNext cqe).woken = some waker

theorem mem_finished {d : UringDriver} {ticket : Ticket} {result : Int} :
    (ticket, result) ∈ d.finished ↔
      ∃ cqe ∈ d.ring.drained, ticketOf cqe.sqe = some ticket ∧ cqe.result = result := by
  simp only [finished, List.mem_filterMap, finishedOf, Option.map_eq_some_iff, Prod.mk.injEq]
  constructor
  · rintro ⟨cqe, member, t, own, rfl, rfl⟩
    exact ⟨cqe, member, own, rfl⟩
  · rintro ⟨cqe, member, own, rfl⟩
    exact ⟨cqe, member, ticket, own, rfl, rfl⟩

theorem mem_owed {d : UringDriver} {ticket : Ticket} :
    ticket ∈ d.owed ↔ ∃ entry ∈ d.ring.outstanding, ticketOf entry = some ticket := by
  simp only [owed, Multiset.mem_filterMap]

/-- **Completion routing.**  For any operations in any order of polls, drops and
submissions, whatever the kernel does and whatever else uses the driver. -/
theorem completion_routing {s : Clients UringDriver} (reachable : (Clients.machine api).Reachable s) :
    CompletionRouting s ∧ KeysApart := by
  have kept := Clients.kept_of_reachable reachable
  have inv : KeysInvariant s.driver := kept.inv
  have sound : Exchange.Sound (s.view api) := kept.sound
  refine ⟨⟨?_, sound.heldOnce, sound.deliveredOnce, ?_, ?_, ?_⟩, keysApart⟩
  · intro op ticket waker result d waits taken
    have lookup : s.driver.completions.getCompletionResult ticket.token = (some result, d.completions) := by
      have parts := Prod.mk.inj taken
      exact Prod.ext parts.1 (congrArg completions parts.2)
    obtain ⟨⟨c, found, completed⟩, removed⟩ := CompletionTable.getCompletionResult_some.mp lookup
    have mine : (ticket, result) ∈ s.driver.finished := sound.result_own waits found completed
    refine ⟨sound.submitter op ticket waker waits, mem_finished.mp mine, ?_, ?_⟩
    · intro cqe member other own same
      have theirs : (other, cqe.result) ∈ s.driver.finished := mem_finished.mpr ⟨cqe, member, own, rfl⟩
      exact (Prod.mk.inj (sound.finished_once theirs mine same)).2
    · simp [getCompletionResult, CompletionTable.getCompletionResult, removed]
  · intro d member
    obtain ⟨who, finished⟩ := sound.deliveredRight d member
    exact ⟨who, mem_finished.mp finished⟩
  · intro key small vacant serial member
    have owes : (⟨key, serial⟩ : Ticket) ∈ s.driver.owed :=
      mem_owed.mpr ⟨_, member, ticketOf_operationEntry small serial⟩
    exact sound.not_owed_of_vacant vacant _ owes rfl
  · intro op ticket waker cqe rest waits front own
    have owes : ticket ∈ s.driver.owed := mem_owed.mpr ⟨_, Ring.front_outstanding front, own⟩
    obtain reserved | ⟨token, fd, mask, -, asked⟩ | ⟨token, serial, small, asked⟩ :=
      inv.keyed _ (Ring.front_outstanding front)
    · rw [ticketOf_reserved reserved] at own
      cases own
    · rw [asked] at own
      cases own
    · rw [asked, ticketOf_operationEntry small] at own
      cases own
      rw [drainNext_operation small asked]
      exact sound.finish_wakes waits owes cqe.result

/-- A read is submitted, polled again with another waker, and its completion is
read. -/
def readOnce : List (ClientStep SubmitEnv DriverStep) :=
  [.poll 0 ⟨1⟩ ⟨0, .ok (), idleEnter⟩, .poll 0 ⟨2⟩ ⟨0, .ok (), idleEnter⟩,
    .driver (.background (.enter ⟨2, [(1, 5)], .ok 2⟩)), .driver (.background .drain)]

def newClients : Clients UringDriver where
  driver := {
    ring := { capacity := 8, sq := [interruptEntry], inFlight := [], cq := [], drained := [] }
    registrations := .empty, completions := .empty, pendingSubmissions := true, extArg := true }
  ops := fun _ => .idle
  submitters := []
  delivered := []

theorem initial_newClients : Clients.Initial api newClients :=
  ⟨⟨8, true, idleEnter, rfl⟩, fun _ => rfl, rfl, rfl⟩

theorem completion_routing_after_read :
    ∃ s, (Clients.machine api).exec newClients readOnce = some s ∧
      s.ops 0 = .waiting ⟨0, 0⟩ ⟨2⟩ ∧ (s.driver.getCompletionResult 0).1 = some 5 ∧
      CompletionRouting s ∧ KeysApart := by
  refine ⟨_, rfl, rfl, rfl, ?_⟩
  exact completion_routing ⟨newClients, readOnce, initial_newClients, rfl⟩

end UringDriver

end Vibeio.Driver
