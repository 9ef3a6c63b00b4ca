/-
# Op.Descriptors -- the descriptors the kernel hands out

The completion of an `accept` or an `open` carries a new descriptor.  It goes through the
slot of the operation to the poll that takes it, and an accept asks three more questions
about it before it gives it to the caller.

* `AcceptOp.finish`, `OpenOp.finish`: what `poll_completion` makes of a result.
* `NoneLost`: every descriptor whose completion has been read was returned or closed, or
  is in the slot of an operation that still waits for it.
* `descriptors_kept_iff`: over every run, exactly if no such operation is dropped with a
  descriptor in its slot, no completion with a descriptor is read after its operation was
  dropped, and no accepted descriptor fails one of the three questions.  Nothing in these
  operations or in the driver closes a descriptor.
-/
import Vibeio.Driver.UringOperations

namespace Vibeio.Op

open Vibeio.Theory
open Vibeio.Driver

set_option autoImplicit false

/-! ## What follows an accept -/

def FD_CLOEXEC : Nat := 1
def AF_INET : Nat := 2
def AF_INET6 : Nat := 10

/-- `sockaddr_storage`, with the fields of both of its views as they lie in memory. -/
structure SockaddrStorage where
  ssFamily : Nat
  sinPort : BitVec 16
  sinAddr : BitVec 32
  sin6Port : BitVec 16
  sin6Addr : BitVec 128
  sin6Flowinfo : BitVec 32
  sin6ScopeId : BitVec 32
  deriving DecidableEq

inductive SocketAddr where
  | v4 (ip : BitVec 32) (port : BitVec 16)
  | v6 (ip : BitVec 128) (port : BitVec 16) (flowinfo scopeId : BitVec 32)
  deriving DecidableEq

/-- `u16::from_be` where the low byte comes first. -/
def fromBeU16 (n : BitVec 16) : BitVec 16 := n.extractLsb' 0 8 ++ n.extractLsb' 8 8

def fromBeU32 (n : BitVec 32) : BitVec 32 :=
  n.extractLsb' 0 8 ++ n.extractLsb' 8 8 ++ n.extractLsb' 16 8 ++ n.extractLsb' 24 8

def sockaddrStorageToSocketaddr (storage : SockaddrStorage) : Except IoError SocketAddr :=
  if storage.ssFamily = AF_INET then .ok (.v4 (fromBeU32 storage.sinAddr) (fromBeU16 storage.sinPort))
  else if storage.ssFamily = AF_INET6 then
    .ok (.v6 storage.sin6Addr (fromBeU16 storage.sin6Port) storage.sin6Flowinfo storage.sin6ScopeId)
  else .error (.custom .invalidData "unsupported socket family")

/-- What the system answers after an accept: the two `fcntl` calls, `none` for -1, and
`getpeername`. -/
structure FollowUps where
  fdflags : Option Nat
  setfd : Option Nat
  errno : Nat
  peer : Except IoError SockaddrStorage

def setCloexec (follow : FollowUps) : Except IoError Unit :=
  match follow.fdflags with
  | none => .error (.os follow.errno)
  | some fdflags =>
      if fdflags &&& FD_CLOEXEC = 0 then
        match follow.setfd with
        | none => .error (.os follow.errno)
        | some _ => .ok ()
      else .ok ()

/-- The end of `AcceptOp::poll_completion`. -/
def AcceptOp.finish (result : Int) (follow : FollowUps) : Except IoError (Int × SocketAddr) :=
  if result < 0 then .error (.os (-result).toNat)
  else do
    setCloexec follow
    let peer ← follow.peer
    let address ← sockaddrStorageToSocketaddr peer
    return (result, address)

/-- The end of `OpenOp::poll_completion`. -/
def OpenOp.finish (result : Int) : Except IoError Int :=
  if result < 0 then .error (.os (-result).toNat) else .ok result

/-- The descriptor is marked, it has a peer, and the peer an internet address. -/
def FollowUps.Succeed (follow : FollowUps) : Prop :=
  setCloexec follow = .ok () ∧
    ∃ peer, follow.peer = .ok peer ∧ (peer.ssFamily = AF_INET ∨ peer.ssFamily = AF_INET6)

/-! ## The machine -/

/-- `other` are the operations whose results are not descriptors. -/
inductive DescriptorOp where
  | acceptOp
  | openOp
  | other
  deriving DecidableEq, Repr

inductive Fate where
  | returned
  | closed
  deriving DecidableEq, Repr

/-- The descriptor a poll that found `result` returns in `Ok`. -/
def DescriptorOp.returns (result : Int) (follow : FollowUps) : DescriptorOp → Option Int
  | acceptOp => (AcceptOp.finish result follow).toOption.map Prod.fst
  | openOp => (OpenOp.finish result).toOption
  | other => none

/-- The clients of the io_uring driver, and what became of descriptors, by the request
they came from. -/
structure Descriptors where
  clients : Clients UringDriver
  fates : List (Ticket × Int × Fate)

inductive DescriptorStep where
  | poll (op : Nat) (waker : Waker) (env : UringDriver.SubmitEnv) (follow : FollowUps)
  | drop (op : Nat)
  | driver (k : UringDriver.DriverStep)

namespace Descriptors

def clientStep : DescriptorStep → ClientStep UringDriver.SubmitEnv UringDriver.DriverStep
  | .poll op waker env _ => .poll op waker env
  | .drop op => .drop op
  | .driver k => .driver k

/-- The result `poll_completion` finds. -/
def foundResult (clients : Clients UringDriver) (op : Nat) : Option (Ticket × Int) :=
  match clients.ops op with
  | .waiting ticket _ => (clients.driver.getCompletionResult ticket.token).1.map fun result => (ticket, result)
  | _ => none

/-- What a step returns or closes. -/
def newFates (kind : Nat → DescriptorOp) (s : Descriptors) : DescriptorStep → List (Ticket × Int × Fate)
  | .poll op _ _ follow =>
      match foundResult s.clients op with
      | some (ticket, result) =>
          ((kind op).returns result follow).toList.map fun fd => (ticket, fd, .returned)
      | none => []
  | .drop _ => []
  | .driver _ => []

def step (kind : Nat → DescriptorOp) (s : Descriptors) (l : DescriptorStep) : Option Descriptors :=
  (s.clients.step UringDriver.api (clientStep l)).map fun clients => ⟨clients, s.fates ++ s.newFates kind l⟩

structure Initial (s : Descriptors) : Prop where
  clients : Clients.Initial UringDriver.api s.clients
  fates : s.fates = []

def machine (kind : Nat → DescriptorOp) : Machine Descriptors DescriptorStep where
  start := Initial
  step := step kind

/-- Every descriptor whose completion has been read was returned or closed, or waits in
the slot of its operation. -/
def NoneLost (kind : Nat → DescriptorOp) (s : Descriptors) : Prop :=
  ∀ t fd op, (t, fd) ∈ s.clients.driver.finished → 0 ≤ fd → s.clients.submitters[t.serial]? = some op →
    kind op ≠ .other →
    (∃ fate, (t, fd, fate) ∈ s.fates) ∨
      ∃ waker c, s.clients.ops op = .waiting t waker ∧
        s.clients.driver.completions.get t.token = some c ∧ c.completed = some fd

/-- A poll that finds an accepted descriptor gets good answers about it, a drop finds no
descriptor, and a descriptor is read only for an operation that still waits. -/
def KeepsHold (kind : Nat → DescriptorOp) (s : Descriptors) : DescriptorStep → Prop
  | .poll op _ _ follow => ∀ ticket fd, foundResult s.clients op = some (ticket, fd) → 0 ≤ fd →
      kind op = .acceptOp → follow.Succeed
  | .drop op => ∀ ticket fd, foundResult s.clients op = some (ticket, fd) → 0 ≤ fd → kind op = .other
  | .driver (.background .drain) => ∀ cqe rest ticket op, s.clients.driver.ring.cq = cqe :: rest →
      UringDriver.ticketOf cqe.sqe = some ticket → 0 ≤ cqe.result →
      s.clients.submitters[ticket.serial]? = some op → kind op ≠ .other →
      ∀ c, s.clients.driver.completions.get ticket.token = some c → c.ignoredData = none
  | _ => True

end Descriptors

/-! ## Follow-ups -/

theorem socketaddr_ok_iff (peer : SockaddrStorage) :
    (∃ address, sockaddrStorageToSocketaddr peer = .ok address) ↔
      peer.ssFamily = AF_INET ∨ peer.ssFamily = AF_INET6 := by
  unfold sockaddrStorageToSocketaddr
  split
  · rename_i inet
    exact ⟨fun _ => .inl inet, fun _ => ⟨_, rfl⟩⟩
  · rename_i notInet
    split
    · rename_i inet6
      exact ⟨fun _ => .inr inet6, fun _ => ⟨_, rfl⟩⟩
    · rename_i notInet6
      constructor
      · rintro ⟨_, impossible⟩
        cases impossible
      · rintro (inet | inet6)
        · exact absurd inet notInet
        · exact absurd inet6 notInet6

theorem AcceptOp.finish_ok {result : Int} {follow : FollowUps} (nonneg : 0 ≤ result) (good : follow.Succeed) :
    ∃ address, AcceptOp.finish result follow = .ok (result, address) := by
  obtain ⟨marked, peer, named, family⟩ := good
  obtain ⟨address, decoded⟩ := (socketaddr_ok_iff peer).mpr family
  refine ⟨address, ?_⟩
  simp [AcceptOp.finish, Int.not_lt.mpr nonneg, marked, named, decoded, bind, Except.bind, pure, Except.pure]

theorem AcceptOp.finish_error (result : Int) {follow : FollowUps} (bad : ¬ follow.Succeed) :
    ∃ err, AcceptOp.finish result follow = .error err := by
  unfold AcceptOp.finish
  split
  · exact ⟨_, rfl⟩
  · cases marked : setCloexec follow with
    | error err => exact ⟨err, rfl⟩
    | ok _ =>
        cases named : follow.peer with
        | error err => exact ⟨err, rfl⟩
        | ok peer =>
            cases decoded : sockaddrStorageToSocketaddr peer with
            | error err => exact ⟨err, by simp [bind, Except.bind, decoded]⟩
            | ok address =>
                exact absurd ⟨marked, peer, named, (socketaddr_ok_iff peer).mp ⟨address, decoded⟩⟩ bad

/-- A descriptor that is found is returned, unless it is an accepted one with a bad
answer. -/
theorem DescriptorOp.returns_eq {kind : DescriptorOp} {fd : Int} {follow : FollowUps} (nonneg : 0 ≤ fd)
    (descriptor : kind ≠ .other) (good : kind = .acceptOp → follow.Succeed) :
    kind.returns fd follow = some fd := by
  cases kind with
  | acceptOp =>
      obtain ⟨address, finished⟩ := AcceptOp.finish_ok nonneg (good rfl)
      simp [DescriptorOp.returns, finished, Except.toOption]
  | openOp => simp [DescriptorOp.returns, OpenOp.finish, Int.not_lt.mpr nonneg, Except.toOption]
  | other => exact absurd rfl descriptor

theorem DescriptorOp.returns_none {fd : Int} {follow : FollowUps} (bad : ¬ follow.Succeed) :
    DescriptorOp.acceptOp.returns fd follow = none := by
  obtain ⟨err, finished⟩ := AcceptOp.finish_error fd bad
  simp [DescriptorOp.returns, finished, Except.toOption]

/-! ## Descriptors in the exchange -/

section Exchange

variable {X : Type} {release : X → X} {kind : Nat → DescriptorOp} {x x' : Exchange X}
variable {fates new : List (Ticket × Int × Fate)}

def Safe (x : Exchange X) (fates : List (Ticket × Int × Fate)) (t : Ticket) (fd : Int) (op : Nat) : Prop :=
  (∃ fate, (t, fd, fate) ∈ fates) ∨
    ∃ waker c, x.ops op = .waiting t waker ∧ x.table.get t.token = some c ∧ c.completed = some fd

/-- `NoneLost` of what the exchange sees. -/
def Accounted (kind : Nat → DescriptorOp) (x : Exchange X) (fates : List (Ticket × Int × Fate)) : Prop :=
  ∀ t fd op, (t, fd) ∈ x.finished → 0 ≤ fd → x.submitters[t.serial]? = some op → kind op ≠ .other →
    Safe x fates t fd op

/-- Fates are of requests whose results were handed out. -/
def FatesDelivered (x : Exchange X) (fates : List (Ticket × Int × Fate)) : Prop :=
  ∀ e ∈ fates, ∃ d ∈ x.delivered, d.ticket = e.1

theorem FatesDelivered.same (deliveredFates : FatesDelivered x fates) (same : x'.delivered = x.delivered) :
    FatesDelivered x' (fates ++ []) := by
  rw [List.append_nil]
  intro e member
  rw [same]
  exact deliveredFates e member

theorem Safe.frame {t : Ticket} {fd : Int} {op : Nat} (safe : Safe x fates t fd op)
    (held : ∀ waker c, x.ops op = .waiting t waker → x.table.get t.token = some c → c.completed = some fd →
      ∃ waker' c', x'.ops op = .waiting t waker' ∧ x'.table.get t.token = some c' ∧
        c'.completed = some fd) : Safe x' (fates ++ new) t fd op := by
  obtain ⟨fate, known⟩ | ⟨waker, c, waits, found, completed⟩ := safe
  · exact .inl ⟨fate, List.mem_append_left _ known⟩
  · exact .inr (held waker c waits found completed)

/-- A request that somebody waits for has no fate yet. -/
theorem no_fate_of_waiting (sound : Exchange.Sound x) (deliveredFates : FatesDelivered x fates) {op : Nat}
    {ticket : Ticket} {waker : Waker} (waits : x.ops op = .waiting ticket waker) (fd : Int) (fate : Fate) :
    (ticket, fd, fate) ∉ fates := by
  intro known
  obtain ⟨d, member, same⟩ := deliveredFates _ known
  exact sound.undelivered op ticket waker waits d member (congrArg Ticket.serial same)

theorem no_fate_of_owed (sound : Exchange.Sound x) (deliveredFates : FatesDelivered x fates) {ticket : Ticket}
    (owes : ticket ∈ x.owed) (fd : Int) (fate : Fate) : (ticket, fd, fate) ∉ fates := by
  intro known
  obtain ⟨d, member, same⟩ := deliveredFates _ known
  obtain ⟨-, finished⟩ := sound.deliveredRight d member
  have twice := Multiset.nodup_add.mp sound.serials
  refine Multiset.disjoint_left.mp twice.2.2 (Multiset.mem_map_of_mem Ticket.serial owes) ?_
  refine Multiset.mem_coe.mpr (List.mem_map.mpr ⟨_, finished, ?_⟩)
  exact congrArg Ticket.serial same

theorem Accounted.submit {op token : Nat} (accounted : Accounted kind x fates) (sound : Exchange.Sound x)
    (idle : x.ops op = .idle) (vacant : x.table.get token = none) (waker : Waker) (context : X) :
    Accounted kind (x.submit op token waker context) (fates ++ []) := by
  intro t fd op' finished nonneg submitted descriptor
  have before : x.submitters[t.serial]? = some op' := by
    rwa [Exchange.submit, List.getElem?_append_left (sound.finished_issued finished)] at submitted
  refine (accounted t fd op' finished nonneg before descriptor).frame fun waker' c waits found completed => ?_
  refine ⟨waker', c, Exchange.become_of_idle _ idle waits, ?_, completed⟩
  simp only [Exchange.submit, Slab.get_insert, if_neg (sound.not_held_of_vacant vacant waits)]
  exact found

/-- The slot of `ticket` and the state of its operation change, and nothing else that
matters here; the descriptor of `ticket`, if it has one, is taken care of. -/
theorem Accounted.letGo {op : Nat} {ticket : Ticket} {old : Waker} {state : OpState}
    (accounted : Accounted kind x fates) (sound : Exchange.Sound x) (waits : x.ops op = .waiting ticket old)
    (ops : x'.ops = x.become op state) (finished : x'.finished = x.finished)
    (submitters : x'.submitters = x.submitters)
    (others : ∀ k, k ≠ ticket.token → x'.table.get k = x.table.get k)
    (mine : ∀ c fd, x.table.get ticket.token = some c → c.completed = some fd → 0 ≤ fd → kind op ≠ .other →
      Safe x' (fates ++ new) ticket fd op) : Accounted kind x' (fates ++ new) := by
  intro t fd op' done nonneg submitted descriptor
  rw [finished] at done
  rw [submitters] at submitted
  obtain ⟨fate, known⟩ | ⟨waker, c, waits', found, completed⟩ := accounted t fd op' done nonneg submitted descriptor
  · exact .inl ⟨fate, List.mem_append_left _ known⟩
  · by_cases same : op' = op
    · subst same
      cases waits.symm.trans waits'
      exact mine c fd found completed nonneg descriptor
    · have elsewhere : t.token ≠ ticket.token := fun equal =>
        same (sound.heldOnce op' t waker op ticket old waits' waits equal)
      refine .inr ⟨waker, c, ?_, (others _ elsewhere).trans found, completed⟩
      rw [ops, x.become_of_ne _ same, waits']

/-- A poll that takes the result. -/
theorem Accounted.take {op : Nat} {ticket : Ticket} {old : Waker} {result : Int} {c : Completion X}
    (accounted : Accounted kind x fates) (sound : Exchange.Sound x) (waits : x.ops op = .waiting ticket old)
    (slot : x.table.get ticket.token = some c) (completed : c.completed = some result) (waker : Waker)
    (returned : 0 ≤ result → kind op ≠ .other → ∃ fate, (ticket, result, fate) ∈ new) :
    Accounted kind (x.poll op ticket waker) (fates ++ new) := by
  rw [Exchange.poll_of_completed slot completed]
  refine accounted.letGo sound waits rfl rfl rfl (fun k other => ?_) fun c' fd slot' completed' nonneg descriptor => ?_
  · simp only [Slab.get_remove, if_neg other]
  · cases slot.symm.trans slot'
    cases completed.symm.trans completed'
    obtain ⟨fate, known⟩ := returned nonneg descriptor
    exact .inl ⟨fate, List.mem_append_right _ known⟩

/-- A descriptor that a poll takes and does not return is lost. -/
theorem not_accounted_take {op : Nat} {ticket : Ticket} {old : Waker} {fd : Int} {c : Completion X}
    (sound : Exchange.Sound x) (deliveredFates : FatesDelivered x fates)
    (waits : x.ops op = .waiting ticket old) (slot : x.table.get ticket.token = some c)
    (completed : c.completed = some fd) (waker : Waker) (nonneg : 0 ≤ fd) (descriptor : kind op ≠ .other) :
    ¬ Accounted kind (x.poll op ticket waker) fates := by
  rw [Exchange.poll_of_completed slot completed]
  intro safe
  obtain ⟨fate, known⟩ | ⟨_, _, waits', -⟩ := safe ticket fd op (sound.result_own waits slot completed) nonneg
    (sound.submitter op ticket old waits) descriptor
  · exact no_fate_of_waiting sound deliveredFates waits fd fate known
  · simp only [Exchange.become_self] at waits'
    cases waits'

/-- A poll that finds no result. -/
theorem Accounted.rewake {op : Nat} {ticket : Ticket} {old : Waker} (accounted : Accounted kind x fates)
    (sound : Exchange.Sound x) (waits : x.ops op = .waiting ticket old)
    (running : ∀ c, x.table.get ticket.token = some c → c.completed = none) (waker : Waker) :
    Accounted kind (x.poll op ticket waker) (fates ++ []) := by
  rw [Exchange.poll_of_running running]
  refine accounted.letGo sound waits rfl rfl rfl (fun k other => ?_) fun c fd slot completed _ _ => ?_
  · simp only [CompletionTable.get_setCompletionWaker, if_neg other]
  · rw [running c slot] at completed
    cases completed

theorem Accounted.drop {op : Nat} {ticket : Ticket} {old : Waker} (accounted : Accounted kind x fates)
    (sound : Exchange.Sound x) (waits : x.ops op = .waiting ticket old)
    (empty : ∀ c fd, x.table.get ticket.token = some c → c.completed = some fd → 0 ≤ fd → kind op = .other) :
    Accounted kind (x.drop op ticket) (fates ++ []) := by
  refine accounted.letGo sound waits rfl rfl rfl (fun k other => ?_) fun c fd slot completed nonneg descriptor => ?_
  · simp only [Exchange.drop, CompletionTable.get_ignoreCompletion, if_neg other]
  · exact absurd (empty c fd slot completed nonneg) descriptor

/-- A descriptor in the slot of a dropped operation is lost. -/
theorem not_accounted_drop {op : Nat} {ticket : Ticket} {old : Waker} {fd : Int} {c : Completion X}
    (sound : Exchange.Sound x) (deliveredFates : FatesDelivered x fates)
    (waits : x.ops op = .waiting ticket old) (slot : x.table.get ticket.token = some c)
    (completed : c.completed = some fd) (nonneg : 0 ≤ fd) (descriptor : kind op ≠ .other) :
    ¬ Accounted kind (x.drop op ticket) fates := by
  intro safe
  obtain ⟨fate, known⟩ | ⟨_, _, waits', -⟩ := safe ticket fd op (sound.result_own waits slot completed) nonneg
    (sound.submitter op ticket old waits) descriptor
  · exact no_fate_of_waiting sound deliveredFates waits fd fate known
  · simp only [Exchange.drop, Exchange.become_self] at waits'
    cases waits'

theorem Accounted.dropIdle {op : Nat} (accounted : Accounted kind x fates) (idle : x.ops op = .idle) :
    Accounted kind { x with ops := x.become op .gone } (fates ++ []) := by
  intro t fd op' finished nonneg submitted descriptor
  refine (accounted t fd op' finished nonneg submitted descriptor).frame fun waker c waits found completed => ?_
  exact ⟨waker, c, Exchange.become_of_idle _ idle waits, found, completed⟩

theorem Accounted.finish {ticket : Ticket} {result : Int} (accounted : Accounted kind x fates)
    (sound : Exchange.Sound x) (owes : ticket ∈ x.owed)
    (live : 0 ≤ result → ∀ op, x.submitters[ticket.serial]? = some op → kind op ≠ .other →
      ∀ c, x.table.get ticket.token = some c → c.ignoredData = none) :
    Accounted kind (x.finish release ticket result) (fates ++ []) := by
  intro t fd op finished nonneg submitted descriptor
  obtain ⟨c, slot, running, owner⟩ := sound.owedSlot ticket owes
  obtain old | mine := List.mem_append.mp finished
  · refine (accounted t fd op old nonneg submitted descriptor).frame fun waker c' waits found completed => ?_
    have elsewhere : t.token ≠ ticket.token := by
      intro same
      rw [same, slot] at found
      cases found
      rw [running] at completed
      cases completed
    refine ⟨waker, c', waits, ?_, completed⟩
    exact (CompletionTable.get_complete_of_ne release x.table result elsewhere).trans found
  · cases List.mem_singleton.mp mine
    have kept := live nonneg op submitted descriptor c slot
    obtain ⟨op', waker, waits⟩ := owner kept
    cases (sound.submitter op' ticket waker waits).symm.trans submitted
    refine .inr ⟨waker, { c with waiter := none, completed := some result, context := release c.context }, waits,
      ?_, rfl⟩
    simp only [Exchange.finish, CompletionTable.complete_of_kept release _ slot kept, Slab.get_insert_self]

/-- A descriptor that is read for a dropped operation is lost. -/
theorem not_accounted_finish {ticket : Ticket} {fd : Int} {op : Nat} {c : Completion X}
    (sound : Exchange.Sound x) (deliveredFates : FatesDelivered x fates) (owes : ticket ∈ x.owed)
    (submitted : x.submitters[ticket.serial]? = some op) (slot : x.table.get ticket.token = some c)
    (ignored : c.ignoredData ≠ none) (nonneg : 0 ≤ fd) (descriptor : kind op ≠ .other) :
    ¬ Accounted kind (x.finish release ticket fd) fates := by
  intro safe
  obtain ⟨fate, known⟩ | ⟨waker, _, waits, -⟩ := safe ticket fd op
    (List.mem_append_right _ (List.mem_singleton_self _)) nonneg submitted descriptor
  · exact no_fate_of_owed sound deliveredFates owes fd fate known
  · obtain ⟨c', slot', kept, -⟩ := sound.heldSlot op ticket waker waits
    cases slot.symm.trans slot'
    exact ignored kept

end Exchange

/-! ## Every run -/

namespace Descriptors

variable {kind : Nat → DescriptorOp} {s s' : Descriptors}

theorem noneLost_iff : NoneLost kind s ↔ Accounted kind (s.clients.view UringDriver.api) s.fates := Iff.rfl

/-- A poll finds what is in the slot of its operation. -/
theorem foundResult_waiting {clients : Clients UringDriver} {op : Nat} {ticket : Ticket} {waker : Waker}
    (waits : clients.ops op = .waiting ticket waker) {ticket' : Ticket} {fd : Int} :
    foundResult clients op = some (ticket', fd) ↔
      ticket' = ticket ∧ ∃ c, clients.driver.completions.get ticket.token = some c ∧ c.completed = some fd := by
  simp only [foundResult, waits, UringDriver.getCompletionResult, CompletionTable.getCompletionResult,
    Option.map_eq_some_iff, Option.bind_eq_some_iff, Prod.mk.injEq]
  constructor
  · rintro ⟨fd', found, rfl, rfl⟩
    exact ⟨rfl, found⟩
  · rintro ⟨rfl, found⟩
    exact ⟨fd, found, rfl, rfl⟩

theorem foundResult_of_not_waiting {clients : Clients UringDriver} {op : Nat}
    (away : ∀ ticket waker, clients.ops op ≠ .waiting ticket waker) : foundResult clients op = none := by
  unfold foundResult
  split
  · rename_i ticket waker waits
    exact absurd waits (away ticket waker)
  · rfl

theorem keepsHold_poll_of_none {op : Nat} {waker : Waker} {env : UringDriver.SubmitEnv} {follow : FollowUps}
    (notFound : foundResult s.clients op = none) : KeepsHold kind s (.poll op waker env follow) := by
  intro ticket fd found
  rw [notFound] at found
  cases found

theorem newFates_poll_of_none {op : Nat} {waker : Waker} {env : UringDriver.SubmitEnv} {follow : FollowUps}
    (notFound : foundResult s.clients op = none) : s.newFates kind (.poll op waker env follow) = [] := by
  simp only [newFates, notFound]

structure Kept (s : Descriptors) : Prop where
  clients : Clients.Kept UringDriver.api s.clients
  fates : FatesDelivered (s.clients.view UringDriver.api) s.fates

/-- What a step does, by whether it satisfies `KeepsHold`. -/
structure StepSpec (kind : Nat → DescriptorOp) (s : Descriptors) (l : DescriptorStep) (s' : Descriptors) :
    Prop where
  fates : FatesDelivered (s'.clients.view UringDriver.api) s'.fates
  safe : NoneLost kind s → KeepsHold kind s l → NoneLost kind s'
  lost : ¬ KeepsHold kind s l → ¬ NoneLost kind s'

/-- A step the exchange does not see. -/
theorem stepSpec_quiet {l : DescriptorStep} {clients : Clients UringDriver} (kept : Kept s)
    (same : clients.view UringDriver.api = s.clients.view UringDriver.api) (holds : KeepsHold kind s l) :
    StepSpec kind s l ⟨clients, s.fates ++ []⟩ := by
  refine ⟨?_, fun safe _ => ?_, fun outside => absurd holds outside⟩
  · rw [same]
    exact kept.fates.same rfl
  · rw [noneLost_iff] at safe ⊢
    rw [same, List.append_nil]
    exact safe

theorem poll_ready_spec {op : Nat} {waker old : Waker} {env : UringDriver.SubmitEnv} {follow : FollowUps}
    {ticket : Ticket} {result : Int} {clients : Clients UringDriver} (kept : Kept s)
    (waits : s.clients.ops op = .waiting ticket old)
    (found : foundResult s.clients op = some (ticket, result))
    (after : clients.view UringDriver.api = (s.clients.view UringDriver.api).poll op ticket waker) :
    StepSpec kind s (.poll op waker env follow)
      ⟨clients, s.fates ++ s.newFates kind (.poll op waker env follow)⟩ := by
  have sound := kept.clients.sound
  obtain ⟨-, c, slot, completed⟩ := (foundResult_waiting waits).mp found
  have new_eq : s.newFates kind (.poll op waker env follow) =
      ((kind op).returns result follow).toList.map fun fd => (ticket, fd, .returned) := by
    simp only [newFates, found]
  refine ⟨?_, fun safe holds => ?_, fun outside => ?_⟩
  · rw [after, new_eq, Exchange.poll_of_completed (x := s.clients.view UringDriver.api) slot completed]
    intro e member
    obtain old | fresh := List.mem_append.mp member
    · obtain ⟨d, known, same⟩ := kept.fates e old
      exact ⟨d, List.mem_append_left _ known, same⟩
    · obtain ⟨fd, -, rfl⟩ := List.mem_map.mp fresh
      exact ⟨⟨op, ticket, result⟩, List.mem_append_right _ (List.mem_singleton_self _), rfl⟩
  · rw [noneLost_iff] at safe ⊢
    rw [after]
    refine safe.take sound waits slot completed waker fun nonneg descriptor => ⟨.returned, ?_⟩
    rw [new_eq, DescriptorOp.returns_eq nonneg descriptor (holds ticket result found nonneg)]
    exact List.mem_singleton_self _
  · simp only [KeepsHold, not_forall] at outside
    obtain ⟨ticket', fd, found', nonneg, accepts, bad⟩ := outside
    cases found.symm.trans found'
    have nothing : s.newFates kind (.poll op waker env follow) = [] := by
      rw [new_eq, accepts, DescriptorOp.returns_none bad]
      rfl
    rw [noneLost_iff, after, nothing, List.append_nil]
    exact not_accounted_take sound kept.fates waits slot completed waker nonneg (by simp [accepts])

theorem poll_pending_spec {op : Nat} {waker old : Waker} {env : UringDriver.SubmitEnv} {follow : FollowUps}
    {ticket : Ticket} {clients : Clients UringDriver} (kept : Kept s)
    (waits : s.clients.ops op = .waiting ticket old) (notFound : foundResult s.clients op = none)
    (after : clients.view UringDriver.api = (s.clients.view UringDriver.api).poll op ticket waker) :
    StepSpec kind s (.poll op waker env follow) ⟨clients, s.fates ++ []⟩ := by
  have running : ∀ c, s.clients.driver.completions.get ticket.token = some c → c.completed = none := by
    intro c slot
    cases completed : c.completed with
    | none => rfl
    | some fd =>
        have found := (foundResult_waiting waits).mpr ⟨rfl, c, slot, completed⟩
        rw [notFound] at found
        cases found
  refine ⟨?_, fun safe _ => ?_, fun outside => absurd (keepsHold_poll_of_none notFound) outside⟩
  · rw [after, Exchange.poll_of_running (x := s.clients.view UringDriver.api) running]
    exact kept.fates.same rfl
  · rw [noneLost_iff] at safe ⊢
    rw [after]
    exact safe.rewake kept.clients.sound waits running waker

theorem poll_spec {op : Nat} {waker : Waker} {env : UringDriver.SubmitEnv} {follow : FollowUps} (kept : Kept s)
    (stepped : s.step kind (.poll op waker env follow) = some s') :
    StepSpec kind s (.poll op waker env follow) s' := by
  obtain ⟨clients, moved, rfl⟩ := Option.map_eq_some_iff.mp stepped
  simp only [clientStep, Clients.step] at moved
  split at moved
  case isFalse => cases moved
  case isTrue admissible =>
      cases moved
      cases state : s.clients.ops op with
      | gone => exact absurd state admissible.1
      | idle =>
          have notFound : foundResult s.clients op = none :=
            foundResult_of_not_waiting fun _ _ waits => by simp [state] at waits
          have holds : KeepsHold kind s (.poll op waker env follow) := keepsHold_poll_of_none notFound
          rw [newFates_poll_of_none notFound]
          obtain ⟨-, same | ⟨token, context, submitted⟩⟩ :=
            Clients.poll_idle_refines state kept.clients.inv (admissible.2 state) waker
          · exact stepSpec_quiet kept same holds
          · simp only [Exchange.step] at submitted
            split at submitted
            · rename_i idle vacant
              rw [Option.some.injEq] at submitted
              refine ⟨?_, fun safe _ => ?_, fun outside => absurd holds outside⟩
              · rw [← submitted]
                exact kept.fates.same rfl
              · rw [noneLost_iff] at safe ⊢
                rw [← submitted]
                exact safe.submit kept.clients.sound idle vacant waker context
            · cases submitted
      | waiting ticket old =>
          obtain ⟨-, polled⟩ := Clients.poll_waiting_refines state kept.clients.inv waker env
          simp only [Exchange.step, Clients.view, state, Option.some.injEq] at polled
          cases found : foundResult s.clients op with
          | none =>
              rw [newFates_poll_of_none found]
              exact poll_pending_spec kept state found polled.symm
          | some pair =>
              obtain ⟨ticket', result⟩ := pair
              obtain ⟨rfl, -⟩ := (foundResult_waiting state).mp found
              exact poll_ready_spec kept state found polled.symm

theorem drop_spec {op : Nat} (kept : Kept s) (stepped : s.step kind (.drop op) = some s') :
    StepSpec kind s (.drop op) s' := by
  have sound := kept.clients.sound
  obtain ⟨clients, moved, rfl⟩ := Option.map_eq_some_iff.mp stepped
  simp only [clientStep, Clients.step] at moved
  split at moved
  case isFalse => cases moved
  case isTrue here =>
      cases moved
      obtain ⟨-, dropped⟩ := Clients.drop_refines here kept.clients.inv
      cases state : s.clients.ops op with
      | gone => exact absurd state here
      | idle =>
          have after : (s.clients.dropOperation UringDriver.api op).view UringDriver.api =
              { s.clients.view UringDriver.api with
                ops := (s.clients.view UringDriver.api).become op .gone } := by
            simp only [Exchange.step, show (s.clients.view UringDriver.api).ops op = .idle from state,
              Option.some.injEq] at dropped
            exact dropped.symm
          have notFound : foundResult s.clients op = none :=
            foundResult_of_not_waiting fun _ _ waits => by simp [state] at waits
          refine ⟨?_, fun safe _ => ?_, fun outside => ?_⟩
          · rw [after]
            exact kept.fates.same rfl
          · rw [noneLost_iff] at safe ⊢
            rw [after]
            exact safe.dropIdle state
          · refine absurd (fun ticket fd found => ?_) outside
            rw [notFound] at found
            cases found
      | waiting ticket waker =>
          have after : (s.clients.dropOperation UringDriver.api op).view UringDriver.api =
              (s.clients.view UringDriver.api).drop op ticket := by
            simp only [Exchange.step, show (s.clients.view UringDriver.api).ops op = .waiting ticket waker from state,
              Option.some.injEq] at dropped
            exact dropped.symm
          refine ⟨?_, fun safe holds => ?_, fun outside => ?_⟩
          · rw [after]
            exact kept.fates.same rfl
          · rw [noneLost_iff] at safe ⊢
            rw [after]
            refine safe.drop sound state fun c fd slot completed nonneg => ?_
            exact holds ticket fd ((foundResult_waiting state).mpr ⟨rfl, c, slot, completed⟩) nonneg
          · simp only [KeepsHold, not_forall] at outside
            obtain ⟨ticket', fd, found, nonneg, descriptor⟩ := outside
            obtain ⟨rfl, c, slot, completed⟩ := (foundResult_waiting state).mp found
            rw [noneLost_iff, after]
            simp only [newFates, List.append_nil]
            exact not_accounted_drop sound kept.fates state slot completed nonneg descriptor

/-- `KeepsHold` of a step of the driver is about the completion it reads. -/
theorem keepsHold_driver {k : UringDriver.DriverStep} :
    KeepsHold kind s (.driver k) ↔ (k = .background .drain → ∀ cqe rest ticket op,
      s.clients.driver.ring.cq = cqe :: rest → UringDriver.ticketOf cqe.sqe = some ticket → 0 ≤ cqe.result →
      s.clients.submitters[ticket.serial]? = some op → kind op ≠ .other →
      ∀ c, s.clients.driver.completions.get ticket.token = some c → c.ignoredData = none) := by
  unfold KeepsHold
  split
  · simp_all
  · simp_all
  · rename_i drain
    cases drain
    simp
  · rename_i notDrain
    simp only [true_iff]
    rintro rfl
    exact (notDrain rfl).elim

theorem driver_spec {k : UringDriver.DriverStep} (kept : Kept s)
    (stepped : s.step kind (.driver k) = some s') : StepSpec kind s (.driver k) s' := by
  have sound := kept.clients.sound
  obtain ⟨clients, moved, rfl⟩ := Option.map_eq_some_iff.mp stepped
  obtain ⟨d, ran, rfl⟩ := Option.map_eq_some_iff.mp moved
  obtain ⟨table_eq, owed_eq, finished_eq, nothing⟩ |
    ⟨cqe, rest, ticket, reads, front, own, table_eq, owed_eq, finished_eq⟩ :=
    UringDriver.driverStep_reads kept.clients.inv ran
  · refine stepSpec_quiet kept ?_ (keepsHold_driver.mpr fun reads cqe rest ticket op front own => ?_)
    · simp only [Clients.view, UringDriver.api, table_eq, owed_eq, finished_eq]
    · rw [nothing reads cqe rest front] at own
      cases own
  · have owes : ticket ∈ (s.clients.view UringDriver.api).owed := by
      show ticket ∈ s.clients.driver.owed
      rw [owed_eq]
      exact Multiset.mem_cons_self _ _
    have after : Clients.view UringDriver.api { s.clients with driver := d } =
        (s.clients.view UringDriver.api).finish id ticket cqe.result := by
      simp only [Clients.view, UringDriver.api, Exchange.finish, table_eq, owed_eq, finished_eq,
        Multiset.erase_cons_head]
    refine ⟨?_, fun safe holds => ?_, fun outside => ?_⟩
    · rw [after]
      exact kept.fates.same rfl
    · rw [noneLost_iff] at safe ⊢
      rw [after]
      refine safe.finish sound owes fun nonneg op submitted descriptor c slot => ?_
      exact keepsHold_driver.mp holds reads cqe rest ticket op front own nonneg submitted descriptor c slot
    · simp only [keepsHold_driver, not_forall] at outside
      obtain ⟨-, cqe', rest', ticket', op, front', own', nonneg, submitted, descriptor, c, slot, ignored⟩ := outside
      cases front.symm.trans front'
      cases own.symm.trans own'
      rw [noneLost_iff, after]
      simp only [newFates, List.append_nil]
      exact not_accounted_finish sound kept.fates owes submitted slot ignored nonneg descriptor

theorem step_spec {l : DescriptorStep} (kept : Kept s) (stepped : s.step kind l = some s') :
    StepSpec kind s l s' := by
  cases l with
  | poll op waker env follow => exact poll_spec kept stepped
  | drop op => exact drop_spec kept stepped
  | driver k => exact driver_spec kept stepped

theorem Kept.step {l : DescriptorStep} (kept : Kept s) (stepped : s.step kind l = some s') : Kept s' := by
  have spec := step_spec kept stepped
  obtain ⟨clients, moved, rfl⟩ := Option.map_eq_some_iff.mp stepped
  exact ⟨Clients.Kept.step kept.clients moved, spec.fates⟩

theorem kept_initial (initial : Initial s) : Kept s := by
  refine ⟨Clients.kept_initial initial.clients, ?_⟩
  rw [initial.fates]
  intro e member
  cases member

theorem noneLost_initial (initial : Initial s) : NoneLost kind s := by
  intro t fd op finished
  have none := (Clients.initial_view initial.clients).finished
  rw [show s.clients.driver.finished = [] from none] at finished
  cases finished

/-- **When no descriptor is lost.** -/
theorem descriptors_kept_iff (kind : Nat → DescriptorOp) {first last : Descriptors} {labels : List DescriptorStep}
    (initial : Initial first) (ran : (machine kind).exec first labels = some last) :
    (machine kind).Throughout (NoneLost kind) first labels ↔
      (machine kind).AllSteps (KeepsHold kind) first labels := by
  refine Machine.throughout_iff_allSteps (M := machine kind) (I := fun s => Kept s ∧ NoneLost kind s) ?_
    (fun _ holds => holds.2) ?_ ⟨kept_initial initial, noneLost_initial initial⟩ ran
  · rintro s l s' ⟨kept, safe⟩ holds stepped
    exact ⟨kept.step stepped, (step_spec kept stepped).safe safe holds⟩
  · rintro s l s' ⟨kept, -⟩ outside stepped
    exact (step_spec kept stepped).lost outside

/-- The descriptor is marked already, and the peer has an IPv4 address. -/
def goodAnswers : FollowUps := ⟨some 1, some 0, 0, .ok ⟨AF_INET, 0, 0, 0, 0, 0, 0⟩⟩

def newDescriptors : Descriptors := ⟨UringDriver.newClients, []⟩

/-- A connection is accepted, and polled for. -/
def acceptOnce : List DescriptorStep :=
  [.poll 0 ⟨1⟩ ⟨0, .ok (), UringDriver.idleEnter⟩ goodAnswers,
    .driver (.background (.enter ⟨2, [(1, 7)], .ok 2⟩)), .driver (.background .drain),
    .poll 0 ⟨1⟩ ⟨0, .ok (), UringDriver.idleEnter⟩ goodAnswers]

theorem goodAnswers_succeed : goodAnswers.Succeed := ⟨rfl, _, rfl, .inl rfl⟩

theorem descriptors_kept_accept :
    (machine fun _ => .acceptOp).Throughout (NoneLost fun _ => .acceptOp) newDescriptors acceptOnce := by
  refine (@descriptors_kept_iff (fun _ => .acceptOp) newDescriptors _ acceptOnce
    ⟨UringDriver.initial_newClients, rfl⟩ rfl).mpr ?_
  refine ⟨fun _ _ _ _ _ => goodAnswers_succeed, fun a submitted => ⟨trivial, fun b entered => ⟨?_, fun _ _ =>
    ⟨fun _ _ _ _ _ => goodAnswers_succeed, fun _ _ => trivial⟩⟩⟩⟩
  cases submitted
  cases entered
  intro cqe rest ticket op front own _ _ _ c slot
  cases front
  cases own
  cases slot
  rfl

/-- The accept is dropped, and then the kernel accepts: descriptor 7 is read and
forgotten. -/
theorem dropped_accept_loses_descriptor :
    ∃ s, (machine fun _ => .acceptOp).exec newDescriptors
        [.poll 0 ⟨1⟩ ⟨0, .ok (), UringDriver.idleEnter⟩ goodAnswers, .drop 0,
          .driver (.background (.enter ⟨2, [(1, 7)], .ok 2⟩)), .driver (.background .drain)] = some s ∧
      ¬ NoneLost (fun _ => .acceptOp) s := by
  refine ⟨_, rfl, fun safe => ?_⟩
  obtain ⟨_, known⟩ | ⟨_, _, waits, -⟩ := safe ⟨0, 0⟩ 7 0 (by decide) (by decide) rfl (by decide)
  · cases known
  · cases waits

end Descriptors

end Vibeio.Op
