/-
# Driver.IocpOperations -- completion operations over the IOCP driver

The IOCP driver is a `CompletionDriver` too: the requests it owes are those of
operations the system holds or has queued a packet for, and processing a packet
ends the request of the slot its block names.  With the io_uring driver's instance
this gives `slots_released_iff`: in both drivers a slot is leaked exactly when an
operation is dropped after its completion has been processed and before it has
taken the result.
-/
import Vibeio.Driver.Iocp
import Vibeio.Driver.UringOperations

namespace Vibeio.Driver

open Vibeio.Theory

set_option autoImplicit false

namespace Iocp

namespace Port

structure Moved (p p' : Port) : Prop where
  outstanding : p'.outstanding = p.outstanding
  processed : p'.processed = p.processed

theorem moved_post (p : Port) (i : Nat) (internal : Int) (bytes : Nat) (dosError : Int) :
    Moved p (p.post i internal bytes dosError) := by
  unfold post
  cases found : p.held[i]? with
  | none => exact ⟨rfl, rfl⟩
  | some request =>
      refine ⟨?_, rfl⟩
      simp only [outstanding, List.map_append, List.map_cons, List.map_nil, coe_eq_cons_eraseIdx found,
        ← Multiset.coe_add, ← Multiset.singleton_add, Multiset.coe_singleton]
      abel

/-- One more request is outstanding. -/
structure Pushed (p : Port) (request : Request) (p' : Port) : Prop where
  outstanding : p'.outstanding = request ::ₘ p.outstanding
  processed : p'.processed = p.processed

theorem pushed_interrupt (p : Port) : Pushed p .interrupt p.interrupt := by
  refine ⟨?_, rfl⟩
  simp only [outstanding, interrupt, List.map_append, List.map_cons, List.map_nil,
    ← Multiset.coe_add, ← Multiset.singleton_add, Multiset.coe_singleton]
  abel

theorem pushed_held (p : Port) (request : Request) :
    Pushed p request { p with held := p.held ++ [request] } := by
  refine ⟨?_, rfl⟩
  simp only [outstanding, ← Multiset.coe_add, ← Multiset.singleton_add, Multiset.coe_singleton]
  abel

theorem outstanding_pop {p : Port} {entry : Entry} {rest : List Entry} (front : p.queue = entry :: rest) :
    p.outstanding = entry.request ::ₘ p.pop.outstanding := by
  simp only [outstanding, pop, front, List.tail_cons, List.map_cons, ← Multiset.cons_coe,
    ← Multiset.singleton_add]
  abel

theorem processed_pop {p : Port} {entry : Entry} {rest : List Entry} (front : p.queue = entry :: rest) :
    p.pop.processed = p.processed ++ [entry] := by
  simp [pop, front]

end Port

end Iocp

open Iocp

namespace IocpDriver

def ticketOf : Iocp.Request → Option Ticket
  | .operation _ token serial => some ⟨token, serial⟩
  | _ => none

def finishedOf (entry : Entry) : Option (Ticket × Int) :=
  (ticketOf entry.request).map fun ticket => (ticket, completionResultFromEntry entry)

def owed (d : IocpDriver) : Multiset Ticket := d.port.outstanding.filterMap ticketOf

def finished (d : IocpDriver) : List (Ticket × Int) := d.port.processed.filterMap finishedOf

/-- Everything that happens to the driver besides the calls of operations. -/
inductive DriverStep where
  | post (i : Nat) (internal : Int) (bytes : Nat) (dosError : Int)
  | interrupt
  | process
  | submitPoll (token : Nat) (waker : Waker) (interest : Interest) (env : ArmEnv)
  | register (interest : Interest) (mode : RegistrationMode) (env : RegisterEnv)
  | reregister (token : Nat) (interest : Interest)
  | deregister (token : Nat)

def driverStep (d : IocpDriver) : DriverStep → Option IocpDriver
  | .post i internal bytes dosError => some { d with port := d.port.post i internal bytes dosError }
  | .interrupt => some { d with port := d.port.interrupt }
  | .process =>
      match d.port.queue with
      | [] => none
      | entry :: _ => some (d.processNext entry).2
  | .submitPoll token waker interest env => some (d.submitPoll token waker interest env).2
  | .register interest mode env => some (d.registerHandleWithMode interest mode env).2
  | .reregister token interest => some (d.reregisterHandle token interest).2
  | .deregister token => some (d.deregisterHandle token).2

/-- The driver and the system at work between two calls of a client. -/
def background : Machine IocpDriver DriverStep where
  start := fun d => d = new
  step := driverStep

/-- No handle is associated under a key `process_entries` takes for its own. -/
def Keyed : Iocp.Request → Prop
  | .operation key _ _ => key < AFD_POLL_COMPLETION_KEY
  | _ => True

def KeysInvariant (d : IocpDriver) : Prop := ∀ request ∈ d.port.outstanding, Keyed request

/-! ## What each step does to the requests -/

/-- Packets of interrupts and polls touch neither the port nor the completion
table. -/
theorem processEntry_frame (d : IocpDriver) {entry : Entry} (other : ticketOf entry.request = none) :
    (d.processEntry entry).2.completions = d.completions ∧ (d.processEntry entry).2.port = d.port := by
  unfold processEntry Entry.completionKey Entry.overlapped
  cases request : entry.request with
  | interrupt => simp
  | operation key token serial =>
      rw [request] at other
      cases other
  | afdPoll pollToken events =>
      have notInterrupt : AFD_POLL_COMPLETION_KEY ≠ INTERRUPT_KEY := by decide
      simp only [notInterrupt, if_true, if_false]
      split
      · exact ⟨rfl, rfl⟩
      · split <;> exact ⟨rfl, rfl⟩

theorem processEntry_operation (d : IocpDriver) {entry : Entry} {key token serial : Nat}
    (request : entry.request = .operation key token serial) (small : key < AFD_POLL_COMPLETION_KEY) :
    (d.processEntry entry).2 = { d with
      completions := (d.completions.complete (fun _ => none) token (completionResultFromEntry entry)).2 } := by
  have notAfd : key ≠ AFD_POLL_COMPLETION_KEY := by omega
  have notInterrupt : key ≠ INTERRUPT_KEY := by
    unfold INTERRUPT_KEY
    unfold AFD_POLL_COMPLETION_KEY at small
    omega
  simp [processEntry, Entry.completionKey, Entry.overlapped, request, notAfd, notInterrupt]

/-- Opening the device changes nothing else. -/
theorem ensureAfdHandle_frame (d : IocpDriver) (opened : Except IoError Unit) :
    ∃ afd, (d.ensureAfdHandle opened).2 = { d with afd := afd } := by
  unfold ensureAfdHandle
  split
  · exact ⟨d.afd, rfl⟩
  · split
    · exact ⟨d.afd, rfl⟩
    · exact ⟨true, rfl⟩

theorem armPollOperation_effect (d : IocpDriver) (token : Nat) (interest : Interest) (env : ArmEnv) :
    (d.armPollOperation token interest env).2.completions = d.completions ∧
      ((d.armPollOperation token interest env).2.port = d.port ∨
        Port.Pushed d.port (.afdPoll env.key (interestToAfdEvents interest))
          (d.armPollOperation token interest env).2.port) := by
  obtain ⟨afd, frame⟩ := d.ensureAfdHandle_frame env.opened
  unfold armPollOperation
  split
  · rename_i err opened failed
    rw [failed] at frame
    cases frame
    exact ⟨rfl, .inl rfl⟩
  · rename_i opened succeeded
    rw [succeeded] at frame
    cases frame
    split
    · exact ⟨rfl, .inl rfl⟩
    · exact ⟨rfl, .inl rfl⟩
    · split
      · exact ⟨rfl, .inl rfl⟩
      · split
        · exact ⟨rfl, .inr (Port.pushed_held _ _)⟩
        · exact ⟨rfl, .inl rfl⟩

/-- A poll is armed with one AFD request or with none, and the completion table is
left alone. -/
theorem submitPoll_effect (d : IocpDriver) (token : Nat) (waker : Waker) (interest : Interest)
    (env : ArmEnv) :
    (d.submitPoll token waker interest env).2.completions = d.completions ∧
      ((d.submitPoll token waker interest env).2.port = d.port ∨
        Port.Pushed d.port (.afdPoll env.key (interestToAfdEvents interest))
          (d.submitPoll token waker interest env).2.port) := by
  unfold submitPoll
  split
  · exact ⟨rfl, .inl rfl⟩
  · exact ⟨rfl, .inl rfl⟩
  · simp only
    split
    · exact armPollOperation_effect (d.setPoll token _) token interest env
    · exact ⟨rfl, .inl rfl⟩

theorem registerHandleWithMode_frame (d : IocpDriver) (interest : Interest) (mode : RegistrationMode)
    (env : RegisterEnv) :
    (d.registerHandleWithMode interest mode env).2.completions = d.completions ∧
      (d.registerHandleWithMode interest mode env).2.port = d.port := by
  unfold registerHandleWithMode
  cases mode with
  | completion => simp only; split <;> exact ⟨rfl, rfl⟩
  | poll =>
      simp only
      split
      · exact ⟨rfl, rfl⟩
      · obtain ⟨afd, frame⟩ := d.ensureAfdHandle_frame env.opened
        split
        · rename_i failed
          rw [failed] at frame
          cases frame
          exact ⟨rfl, rfl⟩
        · rename_i succeeded
          rw [succeeded] at frame
          cases frame
          exact ⟨rfl, rfl⟩

/-- Everything a step can do to the table and the port: nothing, a move inside the
port, a request that is not an operation's, or a packet processed. -/
theorem driverStep_cases {d d' : IocpDriver} {k : DriverStep} (stepped : d.driverStep k = some d') :
    (d'.completions = d.completions ∧ Port.Moved d.port d'.port) ∨
      (∃ request, d'.completions = d.completions ∧ ticketOf request = none ∧
        Port.Pushed d.port request d'.port) ∨
      (∃ entry rest, d.port.queue = entry :: rest ∧ d' = (d.processNext entry).2) := by
  have still : ∀ {d' : IocpDriver}, d'.completions = d.completions ∧ d'.port = d.port →
      d'.completions = d.completions ∧ Port.Moved d.port d'.port :=
    fun same => ⟨same.1, by rw [same.2], by rw [same.2]⟩
  cases k with
  | post i internal bytes dosError =>
      cases stepped
      exact .inl ⟨rfl, Port.moved_post _ _ _ _ _⟩
  | interrupt =>
      cases stepped
      exact .inr (.inl ⟨.interrupt, rfl, rfl, Port.pushed_interrupt _⟩)
  | process =>
      simp only [driverStep] at stepped
      split at stepped
      · cases stepped
      · rename_i entry rest front
        cases stepped
        exact .inr (.inr ⟨entry, rest, front, rfl⟩)
  | submitPoll token waker interest env =>
      cases stepped
      obtain ⟨table, same | pushed⟩ := submitPoll_effect d token waker interest env
      · exact .inl (still ⟨table, same⟩)
      · exact .inr (.inl ⟨_, table, rfl, pushed⟩)
  | register interest mode env =>
      cases stepped
      exact .inl (still (registerHandleWithMode_frame d interest mode env))
  | reregister token interest =>
      cases stepped
      refine .inl (still ?_)
      unfold reregisterHandle
      split <;> exact ⟨rfl, rfl⟩
  | deregister token =>
      cases stepped
      refine .inl (still ?_)
      unfold deregisterHandle
      split <;> exact ⟨rfl, rfl⟩

theorem processNext_port {d : IocpDriver} {entry : Entry} {rest : List Entry}
    (inv : KeysInvariant d) (front : d.port.queue = entry :: rest) :
    (d.processNext entry).2.port = d.port.pop := by
  have keyed : Keyed entry.request :=
    inv _ (by rw [Port.outstanding_pop front]; exact Multiset.mem_cons_self _ _)
  unfold processNext
  cases request : entry.request with
  | operation key token serial =>
      rw [request] at keyed
      rw [processEntry_operation _ request keyed]
  | interrupt => exact (processEntry_frame _ (by rw [request]; rfl)).2
  | afdPoll pollToken events => exact (processEntry_frame _ (by rw [request]; rfl)).2

theorem keysInvariant_step {d d' : IocpDriver} {k : DriverStep} (inv : KeysInvariant d)
    (stepped : d.driverStep k = some d') : KeysInvariant d' := by
  obtain ⟨-, moved⟩ | ⟨request, -, other, pushed⟩ | ⟨entry, rest, front, rfl⟩ := driverStep_cases stepped
  · intro r member
    exact inv r (moved.outstanding ▸ member)
  · intro r member
    rw [pushed.outstanding, Multiset.mem_cons] at member
    obtain rfl | old := member
    · cases r with
      | operation key token serial => cases other
      | _ => trivial
    · exact inv r old
  · intro r member
    rw [processNext_port inv front] at member
    exact inv r (by rw [Port.outstanding_pop front]; exact Multiset.mem_cons_of_mem member)

theorem driverStep_progress {d d' : IocpDriver} {k : DriverStep} (inv : KeysInvariant d)
    (stepped : d.driverStep k = some d') :
    Progress (fun _ => none) d.completions d'.completions d.owed d'.owed d.finished d'.finished := by
  obtain ⟨table, moved⟩ | ⟨request, table, other, pushed⟩ | ⟨entry, rest, front, rfl⟩ :=
    driverStep_cases stepped
  · refine .quiet table ?_ ?_
    · rw [owed, owed, moved.outstanding]
    · rw [finished, finished, moved.processed]
  · refine .quiet table ?_ ?_
    · rw [owed, owed, pushed.outstanding, Multiset.filterMap_cons_none _ _ other]
    · rw [finished, finished, pushed.processed]
  · have port := processNext_port inv front
    cases answers : ticketOf entry.request with
    | none =>
        refine .quiet (processEntry_frame _ answers).1 ?_ ?_
        · rw [owed, owed, port, Port.outstanding_pop front, Multiset.filterMap_cons_none _ _ answers]
        · simp [finished, port, Port.processed_pop front, List.filterMap_append, finishedOf, answers]
    | some ticket =>
        cases request : entry.request with
        | operation key token serial =>
            have keyed : Keyed entry.request :=
              inv _ (by rw [Port.outstanding_pop front]; exact Multiset.mem_cons_self _ _)
            rw [request] at keyed
            have mine : ticket = ⟨token, serial⟩ := by
              rw [request] at answers
              exact (Option.some.inj answers).symm
            subst mine
            have owing : d.owed = ⟨token, serial⟩ ::ₘ (d.processNext entry).2.owed := by
              rw [owed, owed, port, Port.outstanding_pop front, Multiset.filterMap_cons_some _ _ _ answers]
            refine .ends ⟨token, serial⟩ (completionResultFromEntry entry) ?_ ?_ ?_ ?_
            · rw [owing]
              exact Multiset.mem_cons_self _ _
            · rw [processNext, processEntry_operation _ request keyed]
            · rw [owing, Multiset.erase_cons_head]
            · simp [finished, port, Port.processed_pop front, List.filterMap_append, finishedOf, answers]
        | interrupt => rw [request] at answers; cases answers
        | afdPoll pollToken events => rw [request] at answers; cases answers

def slotFits (d : IocpDriver) (e : SubmitEnv) : Bool :=
  (d.completions.get e.key).isNone && decide (e.handleKey < AFD_POLL_COMPLETION_KEY)

theorem slotFits_iff {d : IocpDriver} {e : SubmitEnv} :
    d.slotFits e = true ↔ d.completions.get e.key = none ∧ e.handleKey < AFD_POLL_COMPLETION_KEY := by
  simp [slotFits]

/-- The IOCP driver, as its clients use it. -/
def api : CompletionDriver IocpDriver (Option OverlappedCtx) SubmitEnv DriverStep where
  table := completions
  owed := owed
  finished := finished
  release := fun _ => none
  submitCompletion := submitCompletion
  getCompletionResult := getCompletionResult
  setCompletionWaker := setCompletionWaker
  ignoreCompletion := ignoreCompletion
  step := driverStep
  Start := fun d => d = new
  Inv := KeysInvariant
  fits := slotFits
  start_inv := by
    rintro _ rfl request member
    simp [new, Port.outstanding] at member
  start_empty := by
    rintro _ rfl
    exact ⟨fun k => Slab.get_empty k, rfl, rfl⟩
  submit_inv := by
    intro d serial waker e inv fits
    unfold submitCompletion
    cases e.submitted with
    | error err => exact inv
    | ok _ =>
        intro request member
        rw [(Port.pushed_held d.port _).outstanding, Multiset.mem_cons] at member
        obtain rfl | old := member
        · exact (slotFits_iff.mp fits).2
        · exact inv request old
  submit_spec := by
    intro d serial waker e inv fits
    have vacant := (slotFits_iff.mp fits).1
    unfold submitCompletion
    cases e.submitted with
    | error err => exact ⟨Slab.remove_insert vacant _, rfl, rfl⟩
    | ok _ =>
        refine ⟨vacant, ⟨_, rfl⟩, ?_, rfl⟩
        rw [owed, owed, (Port.pushed_held d.port _).outstanding, Multiset.filterMap_cons_some ticketOf _ _ rfl]
  get_inv := fun _ _ inv => inv
  get_spec := fun _ _ => ⟨rfl, rfl, rfl, rfl⟩
  set_inv := fun _ _ _ inv => inv
  set_spec := fun _ _ _ => ⟨rfl, rfl, rfl⟩
  ignore_inv := fun _ _ _ inv => inv
  ignore_spec := fun _ _ _ => ⟨rfl, rfl, rfl⟩
  step_inv := fun _ _ _ inv stepped => keysInvariant_step inv stepped
  step_progress := fun _ _ _ inv stepped => driverStep_progress inv stepped

/-! ## `flush` and `wait` are runs of small steps -/

theorem processEntries_runs (n : Nat) (d : IocpDriver) : background.Runs d (d.processEntries n).2 := by
  induction n generalizing d with
  | zero => exact .refl d
  | succ n ih =>
      unfold processEntries
      split
      · exact .refl d
      · rename_i entry rest front
        refine Machine.Runs.trans (.of_step .process ?_) (ih _)
        show d.driverStep .process = _
        simp only [driverStep, front]

theorem processBatch_runs (d : IocpDriver) (dequeued : Dequeued) :
    background.Runs d (d.processBatch dequeued).2.2 := by
  unfold processBatch
  cases dequeued with
  | error err => simp only; split <;> exact .refl d
  | ok n => exact processEntries_runs _ d

theorem processReadyCompletions_runs (d : IocpDriver) (answers : List Dequeued) :
    background.Runs d (d.processReadyCompletions answers).2.2 := by
  induction answers generalizing d with
  | nil => exact .refl d
  | cons dequeued rest ih =>
      have batch := processBatch_runs d dequeued
      unfold processReadyCompletions
      split
      · rename_i processed
        rw [processed] at batch
        exact batch
      · rename_i processed
        rw [processed] at batch
        exact batch
      · rename_i processed
        rw [processed] at batch
        exact batch.trans (ih _)

theorem flush_runs {d d' : IocpDriver} {answers : List Dequeued} {wakers : List Waker}
    (flushed : d.flush answers = some (wakers, d')) : background.Runs d d' := by
  have ready := processReadyCompletions_runs d answers
  unfold flush at flushed
  split at flushed
  · rename_i processed
    rw [processed] at ready
    cases flushed
    exact ready
  · rename_i processed
    rw [processed] at ready
    split at flushed <;> cases flushed
    exact ready

theorem wait_runs {d d' : IocpDriver} {first : Dequeued} {answers : List Dequeued} {wakers : List Waker}
    (waited : d.wait first answers = some (wakers, d')) : background.Runs d d' := by
  have batch := processBatch_runs d first
  unfold wait at waited
  split at waited
  · rename_i processed
    rw [processed] at batch
    cases waited
    exact batch
  · rename_i n front middle processed
    rw [processed] at batch
    have ready := processReadyCompletions_runs middle answers
    split at waited
    · rename_i drained
      rw [drained] at ready
      cases waited
      exact batch.trans ready
    · cases waited
  · rename_i processed
    rw [processed] at batch
    split at waited <;> cases waited
    exact batch

end IocpDriver

/-! ## Slots are given back -/

/-- Every occupied slot that holds a dropped operation's data still expects its
completion, and every occupied slot belongs to an operation that waits or to a
request whose completion has not been read. -/
def SlotsReleased {D X E K : Type} (api : CompletionDriver D X E K) (s : Clients D) : Prop :=
  Exchange.Unleaked (s.view api)

/-- **When slots are given back**, in the io_uring and in the IOCP driver: over
every run, exactly if no operation is dropped while its result lies in its slot. -/
theorem slots_released_iff {s t : Clients UringDriver} {u v : Clients IocpDriver}
    {uring : List (ClientStep UringDriver.SubmitEnv UringDriver.DriverStep)}
    {iocp : List (ClientStep IocpDriver.SubmitEnv IocpDriver.DriverStep)}
    (uringInitial : Clients.Initial UringDriver.api s) (iocpInitial : Clients.Initial IocpDriver.api u)
    (uringRan : (Clients.machine UringDriver.api).exec s uring = some t)
    (iocpRan : (Clients.machine IocpDriver.api).exec u iocp = some v) :
    ((Clients.machine UringDriver.api).Throughout (SlotsReleased UringDriver.api) s uring ↔
        (Clients.machine UringDriver.api).AllSteps (Clients.DropsRunning UringDriver.api) s uring) ∧
      ((Clients.machine IocpDriver.api).Throughout (SlotsReleased IocpDriver.api) u iocp ↔
        (Clients.machine IocpDriver.api).AllSteps (Clients.DropsRunning IocpDriver.api) u iocp) :=
  ⟨Clients.unleaked_iff_dropsRunning uringInitial uringRan,
    Clients.unleaked_iff_dropsRunning iocpInitial iocpRan⟩

def newIocpClients : Clients IocpDriver where
  driver := .new
  ops := fun _ => .idle
  submitters := []
  delivered := []

theorem initial_newIocpClients : Clients.Initial IocpDriver.api newIocpClients :=
  ⟨rfl, fun _ => rfl, rfl, rfl⟩

/-- A read is dropped while the kernel holds it; its completion comes later. -/
def dropWhileRunning : List (ClientStep UringDriver.SubmitEnv UringDriver.DriverStep) :=
  [.poll 0 ⟨1⟩ ⟨0, .ok (), UringDriver.idleEnter⟩, .drop 0,
    .driver (.background (.enter ⟨2, [(1, 5)], .ok 2⟩)), .driver (.background .drain)]

/-- The same with a packet. -/
def dropBeforePacket : List (ClientStep IocpDriver.SubmitEnv IocpDriver.DriverStep) :=
  [.poll 0 ⟨1⟩ ⟨0, 0, .ok ()⟩, .drop 0, .driver (.post 0 0 5 0), .driver .process]

theorem slots_released_when_dropped_running :
    (Clients.machine UringDriver.api).Throughout (SlotsReleased UringDriver.api)
        UringDriver.newClients dropWhileRunning ∧
      (Clients.machine IocpDriver.api).Throughout (SlotsReleased IocpDriver.api)
        newIocpClients dropBeforePacket := by
  have exactly := @slots_released_iff _ _ _ _ dropWhileRunning dropBeforePacket
    UringDriver.initial_newClients initial_newIocpClients rfl rfl
  refine ⟨exactly.1.mpr ?_, exactly.2.mpr ?_⟩
  · refine ⟨trivial, fun next submitted => ⟨?_, fun _ _ => ⟨trivial, fun _ _ => ⟨trivial, fun _ _ => trivial⟩⟩⟩⟩
    cases submitted
    intro ticket waker waits c found
    cases waits
    cases found
    rfl
  · refine ⟨trivial, fun next submitted => ⟨?_, fun _ _ => ⟨trivial, fun _ _ => ⟨trivial, fun _ _ => trivial⟩⟩⟩⟩
    cases submitted
    intro ticket waker waits c found
    cases waits
    cases found
    rfl

/-- A read is submitted and completes, its packet is processed, and then it is
dropped. -/
def dropAfterPacket : List (ClientStep IocpDriver.SubmitEnv IocpDriver.DriverStep) :=
  [.poll 0 ⟨1⟩ ⟨0, 0, .ok ()⟩, .driver (.post 0 0 5 0), .driver .process, .drop 0]

theorem dropped_slot_leaks :
    (∃ s, (Clients.machine UringDriver.api).exec UringDriver.newClients
        (UringDriver.readOnce ++ [.drop 0]) = some s ∧ ¬ SlotsReleased UringDriver.api s) ∧
      ∃ s, (Clients.machine IocpDriver.api).exec newIocpClients dropAfterPacket = some s ∧
        ¬ SlotsReleased IocpDriver.api s := by
  constructor
  · refine ⟨_, rfl, fun released => ?_⟩
    have running := (released 0 _ rfl).1 (by decide)
    cases running
  · refine ⟨_, rfl, fun released => ?_⟩
    have running := (released 0 _ rfl).1 (by decide)
    cases running

end Vibeio.Driver
