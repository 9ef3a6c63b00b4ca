/-
# Op.Custody -- who holds the data of a request

A request points into memory that its operation owns: a path, an address, an array of
buffers, the buffers.  While the operation lives the data is in its fields; when it is
dropped it hands a tuple to `ignore_completion`, and the slot keeps that tuple until the
completion has been read.  Each operation writes its own tuple.

* `LinuxOp` and `WindowsOp`: for every operation the fields it starts with, what the
  request points to and which fields it stores (`build_completion_entry`,
  `submit_windows`), and what its `drop` hands over, as sets of named resources.
* `InCustody`: whatever a request under way points to is held by its operation or by the
  slot.
* `requests_in_custody_iff`: over every run, exactly if no `OpenOp` (on Windows: no
  `AcceptOp` and no vectored operation on a file) is dropped while its request is under
  way.
-/
import Vibeio.Driver.IocpOperations
import Mathlib.Data.Finset.Basic

namespace Vibeio.Op

open Vibeio.Theory
open Vibeio.Driver

set_option autoImplicit false

inductive Resource where
  | path
  | acceptOutputBuffer
  | bytesReceived
  | completionSystemIovecs
  | completionWsabufs
  | completionStaging
  | socketBuf
  /-- The boxed `sockaddr`, `iovec` or `WSABUF`, and header of `recvfrom` and `sendto`. -/
  | completionState
  | buf
  | bufs
  deriving DecidableEq, Repr

/-- What a pushed request points to, what its operation has in its fields meanwhile, and
what the operation's `drop` would hand to the slot.  The fields hold both. -/
structure RequestData where
  referenced : Finset Resource
  held : Finset Resource
  ignored : Finset Resource
  kept : referenced ⊆ held
  own : ignored ⊆ held

/-! ## io_uring -/

inductive LinuxOp where
  | openOp
  | acceptOp
  | readvOp
  | writevOp
  | readOp
  | readAtOp
  | recvfromOp
  | sendtoOp
  deriving DecidableEq, Repr

namespace LinuxOp

/-- The fields that own data after `new`. -/
def new : LinuxOp → Finset Resource
  | openOp => {.path}
  | acceptOp => ∅
  | readvOp | writevOp => {.bufs}
  | readOp | readAtOp | recvfromOp | sendtoOp => {.buf}

/-- What the entry points to, and the fields then. -/
def buildCompletionEntry (op : LinuxOp) (fields : Finset Resource) : Finset Resource × Finset Resource :=
  match op with
  | openOp => ({.path}, fields)
  | acceptOp => (∅, fields)
  | readvOp | writevOp => ({.completionSystemIovecs, .bufs}, insert .completionSystemIovecs fields)
  | readOp | readAtOp => ({.buf}, fields)
  | recvfromOp | sendtoOp => ({.completionState, .buf}, insert .completionState fields)

/-- What `drop` takes out of the fields for `ignore_completion`. -/
def drop (op : LinuxOp) (fields : Finset Resource) : Finset Resource :=
  match op with
  | openOp | acceptOp => ∅
  | readvOp | writevOp => fields ∩ {.completionSystemIovecs, .bufs}
  | readOp | readAtOp => fields ∩ {.buf}
  | recvfromOp | sendtoOp => fields ∩ {.completionState, .buf}

def requestData (op : LinuxOp) : RequestData where
  referenced := (op.buildCompletionEntry op.new).1
  held := (op.buildCompletionEntry op.new).2
  ignored := op.drop (op.buildCompletionEntry op.new).2
  kept := by cases op <;> decide
  own := by cases op <;> decide

/-- Only an `OpenOp` hands over less than its request points to: the path. -/
theorem handsOver_iff (op : LinuxOp) :
    op.requestData.referenced ⊆ op.requestData.ignored ↔ op ≠ .openOp := by
  cases op <;> decide

end LinuxOp

/-! ## IOCP -/

inductive RawOsHandle where
  | socket
  | handle
  deriving DecidableEq, Repr

/-- The operations that can be submitted, with the kind of handle where they take
both. -/
inductive WindowsOp where
  | acceptOp
  | readvOp (on : RawOsHandle)
  | writevOp (on : RawOsHandle)
  | readOp (on : RawOsHandle)
  | readAtOp
  | recvfromOp
  | sendtoOp
  deriving DecidableEq, Repr

namespace WindowsOp

def new : WindowsOp → Finset Resource
  | acceptOp => {.bytesReceived}
  | readvOp _ | writevOp _ => {.bufs}
  | readOp _ | readAtOp | recvfromOp | sendtoOp => {.buf}

/-- What the call is given pointers to, and the fields after it was accepted. -/
def submitWindows (op : WindowsOp) (fields : Finset Resource) : Finset Resource × Finset Resource :=
  match op with
  | acceptOp => ({.acceptOutputBuffer, .bytesReceived}, insert .acceptOutputBuffer fields)
  | readvOp .socket | writevOp .socket =>
      ({.completionWsabufs, .bufs}, (insert .completionWsabufs fields).erase .completionStaging)
  | readvOp .handle | writevOp .handle =>
      ({.completionStaging}, (insert .completionStaging fields).erase .completionWsabufs)
  | readOp .socket => ({.socketBuf, .buf}, insert .socketBuf fields)
  | readOp .handle | readAtOp => ({.buf}, fields)
  | recvfromOp | sendtoOp => ({.completionState, .buf}, insert .completionState fields)

def drop (op : WindowsOp) (fields : Finset Resource) : Finset Resource :=
  match op with
  | acceptOp => ∅
  | readvOp _ | writevOp _ => fields ∩ {.completionWsabufs, .bufs}
  | readOp _ => fields ∩ {.socketBuf, .buf}
  | readAtOp => fields ∩ {.buf}
  | recvfromOp | sendtoOp => fields ∩ {.completionState, .buf}

def requestData (op : WindowsOp) : RequestData where
  referenced := (op.submitWindows op.new).1
  held := (op.submitWindows op.new).2
  ignored := op.drop (op.submitWindows op.new).2
  kept := by rcases op with _ | (_ | _) | (_ | _) | (_ | _) | _ | _ | _ <;> decide
  own := by rcases op with _ | (_ | _) | (_ | _) | (_ | _) | _ | _ | _ <;> decide

/-- An accept, and a vectored operation on a file, which goes through a staging buffer. -/
def Forgets : WindowsOp → Prop
  | acceptOp | readvOp .handle | writevOp .handle => True
  | _ => False

theorem handsOver_iff (op : WindowsOp) :
    op.requestData.referenced ⊆ op.requestData.ignored ↔ ¬ op.Forgets := by
  rcases op with _ | (_ | _) | (_ | _) | (_ | _) | _ | _ | _ <;> simp only [Forgets] <;> decide

end WindowsOp

/-! ## Custody in the exchange -/

section Exchange

variable {X : Type} {release : X → X} {data : Nat → RequestData} {x x' : Exchange X}

/-- Operation `op` waits for `t` and has `r` in its fields, or the slot of `t` has the
tuple `op` has handed over, and `r` is in it. -/
def Holds (data : Nat → RequestData) (x : Exchange X) (t : Ticket) (op : Nat) (r : Resource) : Prop :=
  (∃ waker, x.ops op = .waiting t waker ∧ r ∈ (data op).held) ∨
    ∃ c, x.table.get t.token = some c ∧ c.ignoredData = some ⟨op⟩ ∧ r ∈ (data op).ignored

/-- Whatever a request under way points to is held. -/
def InCustody (data : Nat → RequestData) (x : Exchange X) : Prop :=
  ∀ t ∈ x.owed, ∀ op, x.submitters[t.serial]? = some op → ∀ r ∈ (data op).referenced, Holds data x t op r

/-- If the request of `op` is under way, its `drop` hands over all it points to. -/
def HandsOver (data : Nat → RequestData) (x : Exchange X) (op : Nat) : Prop :=
  ∀ t waker, x.ops op = .waiting t waker → t ∈ x.owed → (data op).referenced ⊆ (data op).ignored

/-- An operation that still waits, and a slot that keeps its tuple, still hold. -/
theorem Holds.frame {t : Ticket} {op : Nat} {r : Resource} (holds : Holds data x t op r)
    (waiting : ∀ waker, x.ops op = .waiting t waker → ∃ waker', x'.ops op = .waiting t waker')
    (slot : ∀ c, x.table.get t.token = some c →
      ∃ c', x'.table.get t.token = some c' ∧ c'.ignoredData = c.ignoredData) : Holds data x' t op r := by
  obtain ⟨waker, waits, mine⟩ | ⟨c, found, ignored, given⟩ := holds
  · obtain ⟨waker', waits'⟩ := waiting waker waits
    exact .inl ⟨waker', waits', mine⟩
  · obtain ⟨c', found', same⟩ := slot c found
    exact .inr ⟨c', found', same.trans ignored, given⟩

theorem InCustody.submit {op token : Nat} (custody : InCustody data x) (sound : Exchange.Sound x)
    (idle : x.ops op = .idle) (vacant : x.table.get token = none) (waker : Waker) (context : X) :
    InCustody data (x.submit op token waker context) := by
  intro t owes op' submitted r points
  obtain rfl | old := Multiset.mem_cons.mp owes
  · have mine : op' = op := by
      have := submitted
      simp only [Exchange.submit, List.getElem?_concat_length, Option.some.injEq] at this
      exact this.symm
    subst mine
    exact .inl ⟨waker, x.become_self op' _, (data op').kept points⟩
  · have before : x.submitters[t.serial]? = some op' := by
      rwa [Exchange.submit, List.getElem?_append_left (sound.owed_issued old)] at submitted
    refine (custody t old op' before r points).frame (fun waker' waits => ⟨waker', ?_⟩) fun c found => ⟨c, ?_, rfl⟩
    · exact Exchange.become_of_idle _ idle waits
    · simp only [Exchange.submit, Slab.get_insert, if_neg (sound.not_owed_of_vacant vacant t old)]
      exact found

theorem InCustody.poll {op : Nat} {ticket : Ticket} {old : Waker} (custody : InCustody data x)
    (sound : Exchange.Sound x) (waits : x.ops op = .waiting ticket old) (waker : Waker) :
    InCustody data (x.poll op ticket waker) := by
  obtain ⟨c, result, slot, completed⟩ | running := x.completed_or_running ticket
  · -- the slot has a result in it, so it is of no request under way
    rw [Exchange.poll_of_completed slot completed]
    intro t owes op' submitted r points
    have elsewhere := sound.not_owed_of_completed slot completed t owes
    refine (custody t owes op' submitted r points).frame (fun waker' waits' => ⟨waker', ?_⟩)
      fun c' found' => ⟨c', ?_, rfl⟩
    · exact Exchange.become_of_waiting _ waits waits' fun same => elsewhere (congrArg Ticket.token same)
    · simp only [Slab.get_remove, if_neg elsewhere]
      exact found'
  · rw [Exchange.poll_of_running running]
    intro t owes op' submitted r points
    refine (custody t owes op' submitted r points).frame (fun waker' waits' => ?_) fun c found => ?_
    · by_cases mine : op' = op
      · subst mine
        cases waits.symm.trans waits'
        exact ⟨waker, x.become_self op' _⟩
      · exact ⟨waker', (x.become_of_ne _ mine).trans waits'⟩
    · simp only [CompletionTable.get_setCompletionWaker]
      split
      · rename_i same
        exact ⟨{ c with waiter := some waker }, by rw [← same, found]; rfl, rfl⟩
      · exact ⟨c, found, rfl⟩

theorem InCustody.drop {op : Nat} {ticket : Ticket} {waker : Waker} (custody : InCustody data x)
    (sound : Exchange.Sound x) (waits : x.ops op = .waiting ticket waker) (hands : HandsOver data x op) :
    InCustody data (x.drop op ticket) := by
  intro t owes op' submitted r points
  have owes' : t ∈ x.owed := owes
  by_cases mine : t = ticket
  · -- the operation's own request: the slot has it now
    subst mine
    cases (sound.submitter op t waker waits).symm.trans submitted
    obtain ⟨c, found, -⟩ := sound.owedSlot t owes'
    refine .inr ⟨{ c with ignoredData := some ⟨op⟩ }, ?_, rfl, hands t waker waits owes' points⟩
    simp [Exchange.drop, CompletionTable.get_ignoreCompletion, found]
  · refine (custody t owes' op' submitted r points).frame (fun waker' waits' => ⟨waker', ?_⟩)
      fun c found => ⟨c, ?_, rfl⟩
    · exact Exchange.become_of_waiting _ waits waits' mine
    · simp only [Exchange.drop, CompletionTable.get_ignoreCompletion,
        if_neg (sound.owed_apart owes' waits mine)]
      exact found

theorem InCustody.finish {ticket : Ticket} (custody : InCustody data x) (sound : Exchange.Sound x)
    (owes : ticket ∈ x.owed) (result : Int) : InCustody data (x.finish release ticket result) := by
  intro t left op submitted r points
  have owes' : t ∈ x.owed := Multiset.mem_of_mem_erase left
  have different : t ≠ ticket := by
    rintro rfl
    exact (Multiset.Nodup.notMem_erase (Multiset.Nodup.of_map Ticket.token sound.tokens)) left
  refine (custody t owes' op submitted r points).frame (fun waker waits => ⟨waker, waits⟩)
    fun c found => ⟨c, ?_, rfl⟩
  have elsewhere : t.token ≠ ticket.token := fun same => different (sound.owed_inj owes' owes same)
  exact (CompletionTable.get_complete_of_ne release x.table result elsewhere).trans found

theorem InCustody.step {l : ExchangeStep X} (custody : InCustody data x) (sound : Exchange.Sound x)
    (hands : ∀ op, l = .drop op → HandsOver data x op) (stepped : x.step release l = some x') :
    InCustody data x' := by
  obtain ⟨op, token, waker, context, rfl, idle, vacant, rfl⟩ | ⟨op, t, old, waker, rfl, waits, rfl⟩ |
    ⟨op, t, waker, rfl, waits, rfl⟩ | ⟨op, rfl, idle, rfl⟩ | ⟨t, result, rfl, owes, rfl⟩ :=
    Exchange.step_cases release stepped
  · exact custody.submit sound idle vacant waker context
  · exact custody.poll sound waits waker
  · exact custody.drop sound waits (hands op rfl)
  · intro t owes op' submitted r points
    refine (custody t owes op' submitted r points).frame (fun waker waits => ⟨waker, ?_⟩) fun c found => ⟨c, found, rfl⟩
    exact Exchange.become_of_idle _ idle waits
  · exact custody.finish sound owes result

/-- What the tuple lacks, nobody holds once the operation is gone. -/
theorem not_inCustody_of_drop {op : Nat} (sound : Exchange.Sound x) (outside : ¬ HandsOver data x op)
    (stepped : x.step release (.drop op) = some x') : ¬ InCustody data x' := by
  simp only [HandsOver, not_forall, Finset.not_subset] at outside
  obtain ⟨t, waker, waits, owes, r, points, lacks⟩ := outside
  simp only [Exchange.step, waits, Option.some.injEq] at stepped
  subst stepped
  intro custody
  obtain ⟨waker', waits', -⟩ | ⟨-, -, -, given⟩ := custody t owes op (sound.submitter op t waker waits) r points
  · rw [show (x.drop op t).ops op = .gone from x.become_self op _] at waits'
    cases waits'
  · exact lacks given

theorem inCustody_initial (initial : Exchange.Initial x) : InCustody data x := by
  intro t owes
  rw [initial.owed] at owes
  exact absurd owes (Multiset.notMem_zero t)

end Exchange

/-! ## Every run of a driver -/

/-- The operations dropped while their requests are under way satisfy `may`. -/
def DropsOnly {D X E K : Type} (api : CompletionDriver D X E K) (may : Nat → Prop) (s : Clients D) :
    ClientStep E K → Prop
  | .drop op => ∀ t waker, s.ops op = .waiting t waker → t ∈ api.owed s.driver → may op
  | _ => True

theorem inCustody_iff_dropsOnly {D X E K : Type} {api : CompletionDriver D X E K} {data : Nat → RequestData}
    {may : Nat → Prop} (handsOver : ∀ op, (data op).referenced ⊆ (data op).ignored ↔ may op)
    {s t : Clients D} {labels : List (ClientStep E K)} (initial : Clients.Initial api s)
    (ran : (Clients.machine api).exec s labels = some t) :
    (Clients.machine api).Throughout (fun s => InCustody data (s.view api)) s labels ↔
      (Clients.machine api).AllSteps (DropsOnly api may) s labels := by
  have condition : DropsOnly api may = fun s l => ∀ op, l = .drop op → HandsOver data (s.view api) op := by
    funext s l
    cases l <;> simp [DropsOnly, HandsOver, handsOver, Clients.view]
  rw [condition]
  refine Clients.throughout_iff_drops (fun _ => inCustody_initial) ?_ ?_ initial ran
  · intro x l x' sound custody hands stepped
    exact custody.step sound hands stepped
  · intro x op x' sound outside stepped
    exact not_inCustody_of_drop sound outside stepped

/-- **When the data of every request is held**, under io_uring and under IOCP, whatever
the operations are: over every run, exactly if an operation that is dropped while its
request is under way is no `OpenOp`, and on Windows no `AcceptOp` and no vectored
operation on a file. -/
theorem requests_in_custody_iff {s t : Clients UringDriver} {u v : Clients IocpDriver}
    {uring : List (ClientStep UringDriver.SubmitEnv UringDriver.DriverStep)}
    {iocp : List (ClientStep IocpDriver.SubmitEnv IocpDriver.DriverStep)}
    (linux : Nat → LinuxOp) (windows : Nat → WindowsOp)
    (uringInitial : Clients.Initial UringDriver.api s) (iocpInitial : Clients.Initial IocpDriver.api u)
    (uringRan : (Clients.machine UringDriver.api).exec s uring = some t)
    (iocpRan : (Clients.machine IocpDriver.api).exec u iocp = some v) :
    ((Clients.machine UringDriver.api).Throughout
          (fun s => InCustody (fun op => (linux op).requestData) (s.view UringDriver.api)) s uring ↔
        (Clients.machine UringDriver.api).AllSteps
          (DropsOnly UringDriver.api fun op => linux op ≠ .openOp) s uring) ∧
      ((Clients.machine IocpDriver.api).Throughout
          (fun s => InCustody (fun op => (windows op).requestData) (s.view IocpDriver.api)) u iocp ↔
        (Clients.machine IocpDriver.api).AllSteps
          (DropsOnly IocpDriver.api fun op => ¬ (windows op).Forgets) u iocp) :=
  ⟨inCustody_iff_dropsOnly (fun op => (linux op).handsOver_iff) uringInitial uringRan,
    inCustody_iff_dropsOnly (fun op => (windows op).handsOver_iff) iocpInitial iocpRan⟩

/-- A read, and a read from a file on Windows, dropped while their requests are under
way. -/
theorem requests_in_custody_reads :
    (Clients.machine UringDriver.api).Throughout
        (fun s => InCustody (fun _ => LinuxOp.readOp.requestData) (s.view UringDriver.api))
        UringDriver.newClients dropWhileRunning ∧
      (Clients.machine IocpDriver.api).Throughout
        (fun s => InCustody (fun _ => WindowsOp.readAtOp.requestData) (s.view IocpDriver.api))
        newIocpClients dropBeforePacket := by
  have exactly := @requests_in_custody_iff _ _ _ _ dropWhileRunning dropBeforePacket
    (fun _ => .readOp) (fun _ => .readAtOp) UringDriver.initial_newClients initial_newIocpClients rfl rfl
  refine ⟨exactly.1.mpr ?_, exactly.2.mpr ?_⟩
  · refine ⟨trivial, fun _ _ => ⟨?_, fun _ _ => ⟨trivial, fun _ _ => ⟨trivial, fun _ _ => trivial⟩⟩⟩⟩
    intro _ _ _ _
    decide
  · refine ⟨trivial, fun _ _ => ⟨?_, fun _ _ => ⟨trivial, fun _ _ => ⟨trivial, fun _ _ => trivial⟩⟩⟩⟩
    intro _ _ _ _ forgets
    exact forgets

/-- An `open`, and a vectored read from a file on Windows, are dropped right after they
were submitted: nobody has the path, nobody has the staging buffer. -/
theorem dropped_open_loses_path :
    (∃ s, (Clients.machine UringDriver.api).exec UringDriver.newClients
        [.poll 0 ⟨1⟩ ⟨0, .ok (), UringDriver.idleEnter⟩, .drop 0] = some s ∧
        ¬ InCustody (fun _ => LinuxOp.openOp.requestData) (s.view UringDriver.api)) ∧
      ∃ s, (Clients.machine IocpDriver.api).exec newIocpClients
        [.poll 0 ⟨1⟩ ⟨0, 0, .ok ()⟩, .drop 0] = some s ∧
        ¬ InCustody (fun _ => (WindowsOp.readvOp .handle).requestData) (s.view IocpDriver.api) := by
  constructor
  · refine ⟨_, rfl, fun custody => ?_⟩
    obtain ⟨_, waits, -⟩ | ⟨-, -, -, given⟩ := custody ⟨0, 0⟩ (by decide) 0 rfl .path (by decide)
    · cases waits
    · exact absurd given (by decide)
  · refine ⟨_, rfl, fun custody => ?_⟩
    obtain ⟨_, waits, -⟩ | ⟨-, -, -, given⟩ := custody ⟨0, 0⟩ (by decide) 0 rfl .completionStaging (by decide)
    · cases waits
    · exact absurd given (by decide)

end Vibeio.Op
