/-
# Handle.Owners -- handles inside the values that own them

A registration lives in the driver's slab, a descriptor in the system, and a
`TcpStream` or a `WaitPidOp` owns one of each.  `deregister_handle` gives the slot back
only if the system still knows the descriptor, so it matters which of the two an owner
lets go of first.

* `System` is the driver with the descriptors that are open and those that are in the
  poll set.  Deregistering a closed descriptor fails, and closing one takes it out of the
  poll set.
* `fromStdWithMode`, `WaitPidOp.pollPoll` and the drops, in the order in which fields are
  dropped.
* `Balanced`: slots and live handles correspond, one by one.
* `registrations_owned_iff`: they do in every run, up to the first step that lets go of a
  descriptor before its handle (or fails a registration while slot 0 is taken).
-/
import Vibeio.Handle.Inner
import Vibeio.Theory.Machine
import Mathlib.Data.Finset.Basic
import Mathlib.Data.Multiset.Bind

namespace Vibeio.Handle

open Vibeio.Theory
open Vibeio.Driver

set_option autoImplicit false

/-- `opened` are the open descriptors, `watched` those in the poll set. -/
structure System where
  driver : MioDriver
  opened : Finset Int
  watched : Finset Int

namespace System

def openFd (sys : System) (fd : Int) : System := { sys with opened := insert fd sys.opened }

def close (sys : System) (fd : Int) : System :=
  { sys with opened := sys.opened.erase fd, watched := sys.watched.erase fd }

/-- What the system says when a descriptor is taken out of the poll set. -/
def epollDel (sys : System) (fd : Int) : Except IoError Unit :=
  if fd ∉ sys.opened then .error (.os EBADF)
  else if fd ∉ sys.watched then .error (.os ENOENT)
  else .ok ()

/-- Its answer to the deregistration of a token, which asks for the descriptor in the
slot. -/
def deregistered (sys : System) (token : Nat) : Except IoError Unit :=
  match sys.driver.registrations.get token with
  | none => .ok ()
  | some r => sys.epollDel r.fd

/-- The poll set after the deregistration of a token. -/
def unwatched (sys : System) (token : Nat) : Finset Int :=
  match sys.driver.registrations.get token with
  | none => sys.watched
  | some r => sys.watched.erase r.fd

def dropHandle (sys : System) (h : MioHandle) : System :=
  { sys with
    driver := h.drop sys.driver (sys.deregistered h.token)
    watched := sys.unwatched h.token }

/-- `InnerRawHandle::new_with_mode`. -/
def newWithMode (sys : System) (fd : Int) (interest : Interest) (mode : RegistrationMode) (key : Nat)
    (registered : Except IoError Unit) : Except IoError MioHandle × System :=
  match MioHandle.newWithDriverAndMode sys.driver fd interest mode
      ⟨key, registered, sys.deregistered 0⟩ with
  | (.ok h, d) => (.ok h, { sys with driver := d, watched := insert fd sys.watched })
  | (.error err, d) => (.error err, { sys with driver := d, watched := sys.unwatched 0 })

/-- A registration fails only while slot 0 is vacant. -/
def FailsSafely (sys : System) (registered : Except IoError Unit) : Prop :=
  registered = .ok () ∨ sys.driver.registrations.get 0 = none

end System

/-! ## `TcpStream` -/

structure TcpStream where
  inner : Int
  handle : MioHandle

/-- The handle is in a `ManuallyDrop`: if `set_nonblocking` fails it is forgotten, and
`inner` is closed. -/
def TcpStream.fromStdWithMode (sys : System) (inner : Int) (mode : RegistrationMode) (key : Nat)
    (registered nonblocking : Except IoError Unit) : Except IoError TcpStream × System :=
  match sys.newWithMode inner .both mode key registered with
  | (.error err, sys) => (.error err, sys.close inner)
  | (.ok handle, sys) =>
      match nonblocking with
      | .error err => (.error err, sys.close inner)
      | .ok () => (.ok ⟨inner, handle⟩, sys)

/-- `Drop for TcpStream` drops the handle; the field `inner` is dropped after it. -/
def TcpStream.drop (stream : TcpStream) (sys : System) : System :=
  (sys.dropHandle stream.handle).close stream.inner

/-! ## `WaitPidOp` -/

inductive WaitPidState where
  | init (pid : Int)
  | polling (pid : Int) (pidfd : Int) (handle : MioHandle)
  | done

/-- What the calls of one `poll_poll` return: `pidfd_open`, the registration, the read,
the registration of an interest, `waitpid`. -/
structure WaitEnv where
  pidfd : Int
  openErrno : Nat
  key : Nat
  registered : Except IoError Unit
  read : Except IoError Nat
  reregistered : Except IoError Unit
  waited : Int
  waitErrno : Nat
  status : Int

/-- The read finds the child running. -/
def WaitEnv.blocked (env : WaitEnv) : Bool :=
  match env.read with
  | .error err => err.isWouldBlock
  | .ok _ => false

namespace WaitPidOp

def new (pid : Nat) : WaitPidState := .init (asI32 pid)

def openPidfd (fd : Int) (errno : Nat) : Except IoError Int :=
  if fd < 0 then .error (.os errno) else .ok fd

def reap (rc : Int) (errno : Nat) (status : Int) : Except IoError Int :=
  if rc < 0 then .error (.os errno)
  else if rc = 0 then .error (.custom .wouldBlock "child has not exited yet")
  else .ok status

/-- `Drop for OwnedPidFd`. -/
def dropPidFd (sys : System) (pidfd : Int) : System := if 0 ≤ pidfd then sys.close pidfd else sys

/-- The fields of a state are dropped in the order of their declaration. -/
def drop (sys : System) : WaitPidState → System
  | .init _ => sys
  | .polling _ pidfd handle => (dropPidFd sys pidfd).dropHandle handle
  | .done => sys

/-- The arm `Polling`; `none` is `Poll::Pending`. -/
def pollPolling (sys : System) (pid pidfd : Int) (handle : MioHandle) (waker : Waker) (env : WaitEnv) :
    Option (Except IoError Int) × WaitPidState × System :=
  if env.blocked then
    match sys.driver.submitPoll handle.token waker .readable env.reregistered with
    | (.error err, d) => (some (.error err), .polling pid pidfd handle, { sys with driver := d })
    | (.ok (), d) => (none, .polling pid pidfd handle, { sys with driver := d })
  else
    (some (reap env.waited env.waitErrno env.status), .done, drop sys (.polling pid pidfd handle))

def pollPoll (sys : System) (state : WaitPidState) (waker : Waker) (env : WaitEnv) :
    Option (Except IoError Int) × WaitPidState × System :=
  match state with
  | .init pid =>
      match openPidfd env.pidfd env.openErrno with
      | .error err => (some (.error err), .init pid, sys)
      | .ok fd =>
          match (sys.openFd fd).newWithMode fd .readable .poll env.key env.registered with
          | (.error err, sys) => (some (.error err), .init pid, dropPidFd sys fd)
          | (.ok handle, sys) => pollPolling sys pid fd handle waker env
  | .polling pid pidfd handle => pollPolling sys pid pidfd handle waker env
  | .done => (some (.error (.custom .other "WaitPidOp already completed")), .done, sys)

/-- The poll does not complete the operation, unless it fails to register it. -/
def HandleFirst (sys : System) (env : WaitEnv) : WaitPidState → Prop
  | .init _ => 0 ≤ env.pidfd → sys.FailsSafely env.registered ∧ (env.registered = .ok () → env.blocked)
  | .polling _ _ _ => env.blocked
  | .done => True

end WaitPidOp

/-! ## Owners -/

inductive Owner where
  | stream (stream : TcpStream)
  | waitPid (state : WaitPidState)

namespace Owner

/-- The live handles inside an owner. -/
def handles : Owner → Multiset MioHandle
  | stream s => {s.handle}
  | waitPid (.polling _ _ handle) => {handle}
  | waitPid _ => 0

/-- The descriptors an owner closes. -/
def fds : Owner → Multiset Int
  | stream s => {s.inner}
  | waitPid (.polling _ pidfd _) => {pidfd}
  | waitPid _ => 0

def drop (sys : System) : Owner → System
  | stream s => s.drop sys
  | waitPid state => WaitPidOp.drop sys state

end Owner

/-- All live handles. -/
def handlesOf (owners : Slab Owner) : Multiset MioHandle := owners.items.bind fun entry => entry.2.handles

structure Host where
  sys : System
  owners : Slab Owner

/-- `blockOn` is the poll of a stream's operation that finds it would block; `event` is
one event of a wait of the driver. -/
inductive OwnerStep where
  | fromStd (name : Nat) (inner : Int) (mode : RegistrationMode) (key : Nat)
      (registered nonblocking : Except IoError Unit)
  | newWaitPid (name pid : Nat)
  | blockOn (name : Nat) (waker : Waker) (interest : Interest) (registered : Except IoError Unit)
  | pollWaitPid (name : Nat) (waker : Waker) (env : WaitEnv)
  | event (event : Event)
  | drop (name : Nat)

namespace Host

def new : Host := ⟨⟨MioDriver.new, ∅, ∅⟩, .empty⟩

/-- The system opens descriptors that are not open, and the slab gives out entries that
are vacant. -/
def step (host : Host) : OwnerStep → Option Host
  | .fromStd name inner mode key registered nonblocking =>
      if host.owners.get name = none ∧ 0 ≤ inner ∧ inner ∉ host.sys.opened ∧
          host.sys.driver.registrations.get key = none then
        match TcpStream.fromStdWithMode (host.sys.openFd inner) inner mode key registered nonblocking with
        | (.ok stream, sys) => some ⟨sys, host.owners.insert name (.stream stream)⟩
        | (.error _, sys) => some { host with sys := sys }
      else none
  | .newWaitPid name pid =>
      if host.owners.get name = none then
        some { host with owners := host.owners.insert name (.waitPid (WaitPidOp.new pid)) }
      else none
  | .blockOn name waker interest registered =>
      match host.owners.get name with
      | some (.stream stream) =>
          let (_, d) := host.sys.driver.submitPoll stream.handle.token waker interest registered
          some { host with sys := { host.sys with driver := d } }
      | _ => none
  | .pollWaitPid name waker env =>
      match host.owners.get name with
      | some (.waitPid state) =>
          if env.pidfd ∉ host.sys.opened ∧ host.sys.driver.registrations.get env.key = none then
            let (_, state, sys) := WaitPidOp.pollPoll host.sys state waker env
            some ⟨sys, host.owners.insert name (.waitPid state)⟩
          else none
      | _ => none
  | .event event =>
      some { host with sys := { host.sys with driver := (host.sys.driver.handleEvent event).2 } }
  | .drop name =>
      match host.owners.get name with
      | some owner => some ⟨owner.drop host.sys, host.owners.remove name⟩
      | none => none

def machine : Machine Host OwnerStep where
  start := fun host => host = new
  step := step

/-- There are as many occupied slots as live handles, and the descriptor of every slot
is open and some live owner's. -/
structure Owned (host : Host) : Prop where
  count : host.sys.driver.registrations.items.card = (handlesOf host.owners).card
  owned : ∀ k r, host.sys.driver.registrations.get k = some r →
    r.fd ∈ host.sys.opened ∧ ∃ name owner, host.owners.get name = some owner ∧ r.fd ∈ owner.fds

/-- Nothing lets go of a descriptor before its handle: a registered stream can be made
nonblocking, and a `WaitPidOp` that polls its descriptor is neither completed nor
dropped. -/
def HandleFirst (host : Host) : OwnerStep → Prop
  | .fromStd _ _ _ _ registered nonblocking =>
      host.sys.FailsSafely registered ∧ (registered = .ok () → nonblocking = .ok ())
  | .pollWaitPid name _ env =>
      ∀ state, host.owners.get name = some (.waitPid state) → WaitPidOp.HandleFirst host.sys env state
  | .drop name => ∀ pid pidfd handle, host.owners.get name ≠ some (.waitPid (.polling pid pidfd handle))
  | _ => True

end Host

/-! ## Slots -/

/-- The occupied slots with their descriptors. -/
def slotsOf (registrations : Slab MioRegistration) : Multiset (Nat × Int) :=
  registrations.items.map fun entry => (entry.1, entry.2.fd)

theorem mem_slotsOf {s : Slab MioRegistration} {k : Nat} {fd : Int} :
    (k, fd) ∈ slotsOf s ↔ ∃ r, s.get k = some r ∧ r.fd = fd := by
  unfold slotsOf
  constructor
  · intro member
    obtain ⟨⟨k', r⟩, stored, same⟩ := Multiset.mem_map.mp member
    cases same
    exact ⟨r, Slab.mem_items.mp stored, rfl⟩
  · rintro ⟨r, found, rfl⟩
    exact Multiset.mem_map.mpr ⟨(k, r), Slab.mem_items.mpr found, rfl⟩

/-- Writing to a slot keeps its descriptor. -/
theorem slotsOf_insert_same {s : Slab MioRegistration} {k : Nat} {r r' : MioRegistration}
    (found : s.get k = some r) (same : r'.fd = r.fd) : slotsOf (s.insert k r') = slotsOf s := by
  unfold slotsOf
  rw [Slab.items_insert_of_remove, Slab.items_remove found]
  simp [same]

theorem slotsOf_remove {s : Slab MioRegistration} {k : Nat} {r : MioRegistration}
    (found : s.get k = some r) : slotsOf s = (k, r.fd) ::ₘ slotsOf (s.remove k) := by
  unfold slotsOf
  rw [Slab.items_remove found, Multiset.map_cons]

theorem slotsOf_insert {s : Slab MioRegistration} {k : Nat} (vacant : s.get k = none) (r : MioRegistration) :
    slotsOf (s.insert k r) = (k, r.fd) ::ₘ slotsOf s := by
  unfold slotsOf
  rw [Slab.items_insert vacant, Multiset.map_cons]

theorem slotsOf_submitPoll (d : MioDriver) (token : Nat) (waker : Waker) (interest : Interest)
    (registered : Except IoError Unit) :
    slotsOf (d.submitPoll token waker interest registered).2.registrations = slotsOf d.registrations := by
  unfold MioDriver.submitPoll
  cases found : d.registrations.get token with
  | none => rfl
  | some r =>
      dsimp only
      split
      · cases registered with
        | error err => rfl
        | ok _ => exact slotsOf_insert_same found rfl
      · exact slotsOf_insert_same found rfl

theorem slotsOf_handleEvent (d : MioDriver) (event : Event) :
    slotsOf (d.handleEvent event).2.registrations = slotsOf d.registrations := by
  unfold MioDriver.handleEvent
  split
  · rfl
  · cases found : d.registrations.get event.token with
    | none => rfl
    | some r => exact slotsOf_insert_same found rfl

/-! ## Balance -/

def InnerRawHandle.slot (h : MioHandle) : Nat × Int := (h.token, h.handle)

/-- The occupied slots are those of the handles, whose descriptors are distinct, open
and watched. -/
structure Balanced (sys : System) (handles : Multiset MioHandle) : Prop where
  slots : slotsOf sys.driver.registrations = handles.map InnerRawHandle.slot
  distinct : (handles.map (·.handle)).Nodup
  alive : ∀ h ∈ handles, 0 ≤ h.handle ∧ h.handle ∈ sys.opened ∧ h.handle ∈ sys.watched

/-- There are more or fewer occupied slots than handles. -/
def OutOfBalance (sys : System) (handles : Multiset MioHandle) : Prop :=
  (slotsOf sys.driver.registrations).card ≠ handles.card

namespace Balanced

variable {sys : System} {handles : Multiset MioHandle} {h : MioHandle}

theorem card (balanced : Balanced sys handles) : (slotsOf sys.driver.registrations).card = handles.card := by
  rw [balanced.slots, Multiset.card_map]

/-- What a handle finds in its slot. -/
theorem found (balanced : Balanced sys (h ::ₘ handles)) :
    ∃ r, sys.driver.registrations.get h.token = some r ∧ r.fd = h.handle := by
  apply mem_slotsOf.mp
  rw [balanced.slots, Multiset.map_cons]
  exact Multiset.mem_cons_self _ _

theorem others (balanced : Balanced sys (h ::ₘ handles)) {other : MioHandle} (member : other ∈ handles) :
    other.handle ≠ h.handle := by
  intro same
  have distinct := balanced.distinct
  rw [Multiset.map_cons, Multiset.nodup_cons] at distinct
  exact distinct.1 (same ▸ Multiset.mem_map_of_mem (·.handle) member)

/-- Another driver with the same slots, and more descriptors. -/
theorem mono (balanced : Balanced sys handles) {sys' : System}
    (slots : slotsOf sys'.driver.registrations = slotsOf sys.driver.registrations)
    (opened : sys.opened ⊆ sys'.opened) (watched : sys.watched ⊆ sys'.watched) : Balanced sys' handles where
  slots := slots.trans balanced.slots
  distinct := balanced.distinct
  alive := by
    intro h member
    obtain ⟨nonneg, isOpen, isWatched⟩ := balanced.alive h member
    exact ⟨nonneg, opened isOpen, watched isWatched⟩

theorem openFd (balanced : Balanced sys handles) (fd : Int) : Balanced (sys.openFd fd) handles :=
  balanced.mono rfl (Finset.subset_insert fd sys.opened) (Finset.Subset.refl _)

theorem close (balanced : Balanced sys handles) {fd : Int} (unused : ∀ h ∈ handles, h.handle ≠ fd) :
    Balanced (sys.close fd) handles where
  slots := balanced.slots
  distinct := balanced.distinct
  alive := by
    intro h member
    obtain ⟨nonneg, isOpen, isWatched⟩ := balanced.alive h member
    have other := unused h member
    exact ⟨nonneg, Finset.mem_erase.mpr ⟨other, isOpen⟩, Finset.mem_erase.mpr ⟨other, isWatched⟩⟩

/-- A descriptor that is not open is no handle's. -/
theorem unused_of_closed (balanced : Balanced sys handles) {fd : Int} (closed : fd ∉ sys.opened) :
    ∀ h ∈ handles, h.handle ≠ fd := by
  rintro h member rfl
  exact closed (balanced.alive h member).2.1

theorem submitPoll (balanced : Balanced sys handles) (token : Nat) (waker : Waker) (interest : Interest)
    (registered : Except IoError Unit) :
    Balanced { sys with driver := (sys.driver.submitPoll token waker interest registered).2 } handles :=
  balanced.mono (slotsOf_submitPoll _ _ _ _ _) (Finset.Subset.refl _) (Finset.Subset.refl _)

end Balanced

/-! ## Dropping a handle -/

theorem dropHandle_vacant {sys : System} {h : MioHandle}
    (vacant : sys.driver.registrations.get h.token = none) : sys.dropHandle h = sys := by
  simp [System.dropHandle, MioHandle.drop, MioDriver.deregisterHandle, System.unwatched, vacant]

theorem dropHandle_open {sys : System} {h : MioHandle} {r : MioRegistration}
    (found : sys.driver.registrations.get h.token = some r) (isOpen : r.fd ∈ sys.opened)
    (isWatched : r.fd ∈ sys.watched) :
    sys.dropHandle h = ⟨⟨sys.driver.registrations.remove h.token, sys.driver.registry.remove h.token⟩,
      sys.opened, sys.watched.erase r.fd⟩ := by
  simp [System.dropHandle, MioHandle.drop, MioDriver.deregisterHandle, System.unwatched,
    System.deregistered, System.epollDel, found, isOpen, isWatched]

/-- The system refuses, and the slot stays. -/
theorem dropHandle_closed {sys : System} {h : MioHandle} {r : MioRegistration}
    (found : sys.driver.registrations.get h.token = some r) (closed : r.fd ∉ sys.opened) :
    (sys.dropHandle h).driver = sys.driver := by
  simp [System.dropHandle, MioHandle.drop, MioDriver.deregisterHandle, System.deregistered,
    System.epollDel, found, closed]

/-- A handle that goes before its descriptor takes its slot along. -/
theorem Balanced.dropHandle {sys : System} {h : MioHandle} {handles : Multiset MioHandle}
    (balanced : Balanced sys (h ::ₘ handles)) : Balanced (sys.dropHandle h) handles := by
  obtain ⟨r, found, fd_eq⟩ := balanced.found
  obtain ⟨-, isOpen, isWatched⟩ := balanced.alive h (Multiset.mem_cons_self h handles)
  rw [dropHandle_open found (fd_eq ▸ isOpen) (fd_eq ▸ isWatched)]
  constructor
  · have slots := balanced.slots
    rw [slotsOf_remove found, Multiset.map_cons, fd_eq] at slots
    exact (Multiset.cons_inj_right _).mp slots
  · have distinct := balanced.distinct
    rw [Multiset.map_cons, Multiset.nodup_cons] at distinct
    exact distinct.2
  · intro other member
    obtain ⟨nonneg, otherOpen, otherWatched⟩ := balanced.alive other (Multiset.mem_cons_of_mem member)
    exact ⟨nonneg, otherOpen, Finset.mem_erase.mpr ⟨fd_eq ▸ balanced.others member, otherWatched⟩⟩

/-- A handle that goes after its descriptor leaves its slot behind. -/
theorem outOfBalance_closed_first {sys : System} {h : MioHandle} {handles : Multiset MioHandle}
    (balanced : Balanced sys (h ::ₘ handles)) :
    OutOfBalance ((sys.close h.handle).dropHandle h) handles := by
  obtain ⟨r, found, fd_eq⟩ := balanced.found
  have closed : r.fd ∉ (sys.close h.handle).opened := by
    rw [fd_eq]
    exact Finset.notMem_erase _ _
  have unchanged : ((sys.close h.handle).dropHandle h).driver = sys.driver :=
    dropHandle_closed found closed
  unfold OutOfBalance
  rw [unchanged, balanced.card, Multiset.card_cons]
  omega

/-! ## Making a handle -/

/-- A failed registration is the drop of a handle with the placeholder token. -/
theorem newWithMode_error {sys : System} {key : Nat} (vacant : sys.driver.registrations.get key = none)
    (fd : Int) (interest : Interest) (mode : RegistrationMode) (err : IoError) :
    sys.newWithMode fd interest mode key (.error err) =
      (.error err, sys.dropHandle (MioHandle.halfBuilt fd interest mode)) := by
  simp only [System.newWithMode, newWithDriverAndMode_error vacant]
  rfl

def InnerRawHandle.withToken (h : MioHandle) (token : Nat) : MioHandle := { h with token := token }

theorem newWithMode_ok (sys : System) (fd : Int) (interest : Interest) (mode : RegistrationMode) (key : Nat) :
    sys.newWithMode fd interest mode key (.ok ()) =
      (.ok ((MioHandle.halfBuilt fd interest mode).withToken key),
        ⟨(sys.driver.registerHandle fd interest key (.ok ())).2, sys.opened, insert fd sys.watched⟩) := rfl

/-- **A registered handle has the slot it was given.** -/
theorem Balanced.register {sys : System} {handles : Multiset MioHandle} {key : Nat} {fd : Int}
    (balanced : Balanced sys handles) (vacant : sys.driver.registrations.get key = none)
    (nonneg : 0 ≤ fd) (isOpen : fd ∈ sys.opened) (unused : ∀ h ∈ handles, h.handle ≠ fd)
    (interest : Interest) (mode : RegistrationMode) :
    Balanced (sys.newWithMode fd interest mode key (.ok ())).2
      ((MioHandle.halfBuilt fd interest mode).withToken key ::ₘ handles) := by
  rw [newWithMode_ok]
  constructor
  · rw [Multiset.map_cons, ← balanced.slots]
    exact slotsOf_insert vacant _
  · rw [Multiset.map_cons, Multiset.nodup_cons]
    refine ⟨?_, balanced.distinct⟩
    intro taken
    obtain ⟨h, member, same⟩ := Multiset.mem_map.mp taken
    exact unused h member same
  · intro h member
    obtain rfl | old := Multiset.mem_cons.mp member
    · exact ⟨nonneg, isOpen, Finset.mem_insert_self _ _⟩
    · obtain ⟨nonneg, isOpen, isWatched⟩ := balanced.alive h old
      exact ⟨nonneg, isOpen, Finset.mem_insert_of_mem isWatched⟩

/-- A registration that fails while slot 0 is taken takes the slot of a live handle. -/
theorem outOfBalance_failed {sys : System} {handles : Multiset MioHandle} {r : MioRegistration}
    (balanced : Balanced sys handles) (taken : sys.driver.registrations.get 0 = some r)
    (fd : Int) (interest : Interest) (mode : RegistrationMode) :
    OutOfBalance (sys.dropHandle (MioHandle.halfBuilt fd interest mode)) handles := by
  have occupied : ((0 : Nat), r.fd) ∈ slotsOf sys.driver.registrations := mem_slotsOf.mpr ⟨r, taken, rfl⟩
  rw [balanced.slots] at occupied
  obtain ⟨h, member, same⟩ := Multiset.mem_map.mp occupied
  obtain ⟨-, isOpen, isWatched⟩ := balanced.alive h member
  have fd_eq : h.handle = r.fd := congrArg Prod.snd same
  have taken' : sys.driver.registrations.get (MioHandle.halfBuilt fd interest mode).token = some r := taken
  unfold OutOfBalance
  rw [dropHandle_open taken' (fd_eq ▸ isOpen) (fd_eq ▸ isWatched), ← balanced.card,
    slotsOf_remove taken', Multiset.card_cons]
  exact Nat.ne_of_lt (Nat.lt_succ_self _)

/-! ## `TcpStream` in balance -/

theorem fromStdWithMode_refused {sys : System} {key : Nat} (vacant : sys.driver.registrations.get key = none)
    (inner : Int) (mode : RegistrationMode) (err : IoError) (nonblocking : Except IoError Unit) :
    TcpStream.fromStdWithMode sys inner mode key (.error err) nonblocking =
      (.error err, (sys.dropHandle (MioHandle.halfBuilt inner .both mode)).close inner) := by
  simp only [TcpStream.fromStdWithMode, newWithMode_error vacant]

/-- The forgotten handle keeps its slot. -/
theorem outOfBalance_forgotten {sys : System} {handles : Multiset MioHandle} {key : Nat} {inner : Int}
    (balanced : Balanced sys handles) (vacant : sys.driver.registrations.get key = none)
    (mode : RegistrationMode) :
    OutOfBalance ((sys.newWithMode inner .both mode key (.ok ())).2.close inner) handles := by
  have slots : slotsOf ((sys.newWithMode inner .both mode key (.ok ())).2.close inner).driver.registrations =
      (key, inner) ::ₘ slotsOf sys.driver.registrations := slotsOf_insert vacant _
  unfold OutOfBalance
  rw [slots, Multiset.card_cons, balanced.card]
  omega

theorem Balanced.dropStream {sys : System} {handles : Multiset MioHandle} {stream : TcpStream}
    (balanced : Balanced sys (stream.handle ::ₘ handles)) (same : stream.inner = stream.handle.handle) :
    Balanced (stream.drop sys) handles := by
  refine balanced.dropHandle.close ?_
  intro h member
  rw [same]
  exact balanced.others member

/-! ## `WaitPidOp` in balance -/

theorem pollPolling_blocked {sys : System} {handles : Multiset MioHandle} {handle : MioHandle}
    (balanced : Balanced sys handles) (pid pidfd : Int) (waker : Waker) {env : WaitEnv}
    (blocked : env.blocked = true) :
    ∃ answer sys', WaitPidOp.pollPolling sys pid pidfd handle waker env =
      (answer, .polling pid pidfd handle, sys') ∧ Balanced sys' handles := by
  have kept := balanced.submitPoll handle.token waker .readable env.reregistered
  unfold WaitPidOp.pollPolling
  rw [if_pos blocked]
  cases submitted : sys.driver.submitPoll handle.token waker .readable env.reregistered with
  | mk answer d =>
      rw [submitted] at kept
      cases answer with
      | error err => exact ⟨_, _, rfl, kept⟩
      | ok _ => exact ⟨_, _, rfl, kept⟩

/-- `pidfd` is declared before `handle`, so it is closed first. -/
theorem outOfBalance_dropPolling {sys : System} {handles : Multiset MioHandle} {handle : MioHandle}
    {pidfd : Int} (balanced : Balanced sys (handle ::ₘ handles)) (same : pidfd = handle.handle) (pid : Int) :
    OutOfBalance (WaitPidOp.drop sys (.polling pid pidfd handle)) handles := by
  obtain ⟨nonneg, -, -⟩ := balanced.alive handle (Multiset.mem_cons_self _ _)
  subst same
  simp only [WaitPidOp.drop, WaitPidOp.dropPidFd, if_pos nonneg]
  exact outOfBalance_closed_first balanced

theorem pollPolling_completed {sys : System} {handles : Multiset MioHandle} {handle : MioHandle}
    (balanced : Balanced sys (handle ::ₘ handles)) (pid pidfd : Int) (same : pidfd = handle.handle) (waker : Waker)
    {env : WaitEnv} (readable : env.blocked = false) :
    ∃ answer sys', WaitPidOp.pollPolling sys pid pidfd handle waker env = (answer, .done, sys') ∧
      OutOfBalance sys' handles := by
  unfold WaitPidOp.pollPolling
  rw [if_neg (by simp [readable])]
  exact ⟨_, _, rfl, outOfBalance_dropPolling balanced same pid⟩

/-- The descriptor an owner closes is the one its handle is registered for. -/
def Owner.Matched (owner : Owner) : Prop := owner.fds = owner.handles.map (·.handle)

/-- What a `poll_poll` does to the balance, with the handles of everybody else in
`rest`. -/
structure PollSpec (sys : System) (rest : Multiset MioHandle) (state : WaitPidState) (env : WaitEnv)
    (after : WaitPidState × System) : Prop where
  kept : WaitPidOp.HandleFirst sys env state →
    Balanced after.2 ((Owner.waitPid after.1).handles + rest) ∧ (Owner.waitPid after.1).Matched
  leaked : ¬ WaitPidOp.HandleFirst sys env state →
    OutOfBalance after.2 ((Owner.waitPid after.1).handles + rest)

section Init

variable {sys : System} {rest : Multiset MioHandle} {env : WaitEnv}

theorem pollPoll_unopened (balanced : Balanced sys rest) (pid : Int) (waker : Waker) (failed : env.pidfd < 0) :
    PollSpec sys rest (.init pid) env (WaitPidOp.pollPoll sys (.init pid) waker env).2 := by
  have unopened : WaitPidOp.pollPoll sys (.init pid) waker env =
      (some (.error (.os env.openErrno)), .init pid, sys) := by
    simp [WaitPidOp.pollPoll, WaitPidOp.openPidfd, failed]
  rw [unopened]
  constructor
  · intro _
    exact ⟨by simpa [Owner.handles] using balanced, rfl⟩
  · intro outside
    exact absurd (fun nonneg => by omega) outside

/-- The registration fails: the half-built handle is dropped, then the descriptor. -/
theorem pollPoll_refused (balanced : Balanced sys rest) (pid : Int) (waker : Waker) (nonneg : 0 ≤ env.pidfd)
    (fresh : env.pidfd ∉ sys.opened) (vacant : sys.driver.registrations.get env.key = none) {err : IoError}
    (answered : env.registered = .error err) :
    PollSpec sys rest (.init pid) env (WaitPidOp.pollPoll sys (.init pid) waker env).2 := by
  have refused : WaitPidOp.pollPoll sys (.init pid) waker env = (some (.error err), .init pid,
      ((sys.openFd env.pidfd).dropHandle (MioHandle.halfBuilt env.pidfd .readable .poll)).close
        env.pidfd) := by
    have vacant' : (sys.openFd env.pidfd).driver.registrations.get env.key = none := vacant
    have made := newWithMode_error vacant' env.pidfd .readable .poll err
    simp [WaitPidOp.pollPoll, WaitPidOp.openPidfd, Int.not_lt.mpr nonneg, answered, made,
      WaitPidOp.dropPidFd, nonneg]
  have notAccepted : env.registered ≠ .ok () := by simp [answered]
  have opened := balanced.openFd env.pidfd
  rw [refused]
  constructor
  · intro first
    obtain ⟨accepted | free, -⟩ := first nonneg
    · exact absurd accepted notAccepted
    · have unchanged : (sys.openFd env.pidfd).dropHandle (MioHandle.halfBuilt env.pidfd .readable .poll) =
          sys.openFd env.pidfd := dropHandle_vacant free
      refine ⟨?_, rfl⟩
      rw [unchanged]
      simpa [Owner.handles] using opened.close (balanced.unused_of_closed fresh)
  · intro outside
    cases taken : sys.driver.registrations.get 0 with
    | none =>
        exact absurd (fun _ => ⟨.inr taken, fun accepted => absurd accepted notAccepted⟩) outside
    | some r =>
        simp only [Owner.handles, zero_add]
        exact outOfBalance_failed opened taken env.pidfd .readable .poll

/-- The registration succeeds, and the loop goes on to `Polling`. -/
theorem pollPoll_registered (balanced : Balanced sys rest) (pid : Int) (waker : Waker) (nonneg : 0 ≤ env.pidfd)
    (fresh : env.pidfd ∉ sys.opened) (vacant : sys.driver.registrations.get env.key = none)
    (answered : env.registered = .ok ()) :
    PollSpec sys rest (.init pid) env (WaitPidOp.pollPoll sys (.init pid) waker env).2 := by
  have isOpen : env.pidfd ∈ (sys.openFd env.pidfd).opened := Finset.mem_insert_self _ _
  have registered := (balanced.openFd env.pidfd).register vacant nonneg isOpen
    (balanced.unused_of_closed fresh) .readable .poll
  have continues : WaitPidOp.pollPoll sys (.init pid) waker env =
      WaitPidOp.pollPolling ((sys.openFd env.pidfd).newWithMode env.pidfd .readable .poll env.key
        (.ok ())).2 pid env.pidfd ((MioHandle.halfBuilt env.pidfd .readable .poll).withToken env.key)
        waker env := by
    simp only [WaitPidOp.pollPoll, WaitPidOp.openPidfd, if_neg (Int.not_lt.mpr nonneg), answered,
      newWithMode_ok]
  rw [continues]
  cases read : env.blocked with
  | true =>
      obtain ⟨answer, sys', polled, kept⟩ := pollPolling_blocked registered pid env.pidfd waker read
      rw [polled]
      constructor
      · intro _
        exact ⟨kept, rfl⟩
      · intro outside
        exact absurd (fun _ => ⟨.inl answered, fun _ => read⟩) outside
  | false =>
      obtain ⟨answer, sys', polled, leaked⟩ := pollPolling_completed registered pid env.pidfd rfl waker read
      rw [polled]
      constructor
      · intro first
        have blocked := (first nonneg).2 answered
        rw [read] at blocked
        cases blocked
      · intro _
        simpa [Owner.handles] using leaked

end Init

/-- **One poll of a `WaitPidOp`** keeps the balance if it does not complete it. -/
theorem pollPoll_spec {sys : System} {rest : Multiset MioHandle} {state : WaitPidState} {env : WaitEnv}
    (balanced : Balanced sys ((Owner.waitPid state).handles + rest)) (matched : (Owner.waitPid state).Matched)
    (fresh : env.pidfd ∉ sys.opened) (vacant : sys.driver.registrations.get env.key = none) (waker : Waker) :
    PollSpec sys rest state env (WaitPidOp.pollPoll sys state waker env).2 := by
  cases state with
  | init pid =>
      simp only [Owner.handles, zero_add] at balanced
      by_cases failed : env.pidfd < 0
      · exact pollPoll_unopened balanced pid waker failed
      have nonneg : 0 ≤ env.pidfd := by omega
      cases answered : env.registered with
      | error err => exact pollPoll_refused balanced pid waker nonneg fresh vacant answered
      | ok _ => exact pollPoll_registered balanced pid waker nonneg fresh vacant answered
  | polling pid pidfd handle =>
      simp only [Owner.handles, Multiset.singleton_add] at balanced
      have same : pidfd = handle.handle := by simpa [Owner.Matched, Owner.fds, Owner.handles] using matched
      simp only [WaitPidOp.pollPoll]
      cases read : env.blocked with
      | true =>
          obtain ⟨answer, sys', polled, kept⟩ := pollPolling_blocked balanced pid pidfd waker read
          rw [polled]
          constructor
          · intro _
            exact ⟨by simpa [Owner.handles] using kept, matched⟩
          · intro outside
            exact absurd read outside
      | false =>
          obtain ⟨answer, sys', polled, leaked⟩ := pollPolling_completed balanced pid pidfd same waker read
          rw [polled]
          constructor
          · intro first
            rw [WaitPidOp.HandleFirst, read] at first
            cases first
          · intro _
            simpa [Owner.handles] using leaked
  | done =>
      constructor
      · intro _
        exact ⟨balanced, matched⟩
      · intro outside
        exact absurd trivial outside

/-! ## Every run -/

theorem handlesOf_insert {owners : Slab Owner} {name : Nat} (vacant : owners.get name = none) (owner : Owner) :
    handlesOf (owners.insert name owner) = owner.handles + handlesOf owners := by
  simp [handlesOf, Slab.items_insert vacant]

theorem handlesOf_remove {owners : Slab Owner} {name : Nat} {owner : Owner}
    (found : owners.get name = some owner) :
    handlesOf owners = owner.handles + handlesOf (owners.remove name) := by
  simp [handlesOf, Slab.items_remove found]

theorem handlesOf_replace (owners : Slab Owner) (name : Nat) (owner : Owner) :
    handlesOf (owners.insert name owner) = owner.handles + handlesOf (owners.remove name) := by
  simp [handlesOf, Slab.items_insert_of_remove]

namespace Host

/-- The invariant: slots and handles balance, and every owner closes the descriptor of
its handle. -/
structure Kept (host : Host) : Prop where
  balanced : Balanced host.sys (handlesOf host.owners)
  matched : ∀ name owner, host.owners.get name = some owner → owner.Matched

theorem matched_insert {owners : Slab Owner} {name : Nat} {owner : Owner}
    (all : ∀ name owner, owners.get name = some owner → owner.Matched) (matched : owner.Matched) :
    ∀ name' owner', (owners.insert name owner).get name' = some owner' → owner'.Matched := by
  intro name' owner' found
  rw [Slab.get_insert] at found
  split at found
  · cases found
    exact matched
  · exact all name' owner' found

theorem matched_remove {owners : Slab Owner} {name : Nat}
    (all : ∀ name owner, owners.get name = some owner → owner.Matched) :
    ∀ name' owner', (owners.remove name).get name' = some owner' → owner'.Matched := by
  intro name' owner' found
  rw [Slab.get_remove] at found
  split at found
  · cases found
  · exact all name' owner' found

theorem kept_new : Kept new := by
  refine ⟨⟨rfl, Multiset.nodup_zero, ?_⟩, ?_⟩
  · intro h member
    exact absurd member (Multiset.notMem_zero h)
  · intro name owner found
    simp [new] at found

theorem Kept.owned {host : Host} (kept : Kept host) : Owned host := by
  constructor
  · rw [← kept.balanced.card, slotsOf, Multiset.card_map]
  · intro k r found
    have occupied : (k, r.fd) ∈ slotsOf host.sys.driver.registrations := mem_slotsOf.mpr ⟨r, found, rfl⟩
    rw [kept.balanced.slots] at occupied
    obtain ⟨h, live, same⟩ := Multiset.mem_map.mp occupied
    have fd_eq : h.handle = r.fd := congrArg Prod.snd same
    obtain ⟨⟨name, owner⟩, stored, inside⟩ := Multiset.mem_bind.mp live
    have present := Slab.mem_items.mp stored
    refine ⟨fd_eq ▸ (kept.balanced.alive h live).2.1, name, owner, present, ?_⟩
    rw [kept.matched name owner present, ← fd_eq]
    exact Multiset.mem_map_of_mem (·.handle) inside

theorem not_owned {host : Host} (out : OutOfBalance host.sys (handlesOf host.owners)) : ¬ Owned host := by
  intro owned
  apply out
  rw [slotsOf, Multiset.card_map]
  exact owned.count

/-- What a step does, by whether it satisfies `HandleFirst`. -/
def StepSpec (host : Host) (l : OwnerStep) (next : Host) : Prop :=
  (HandleFirst host l → Kept next) ∧
    (¬ HandleFirst host l → OutOfBalance next.sys (handlesOf next.owners))

theorem fromStd_spec {host next : Host} {name key : Nat} {inner : Int} {mode : RegistrationMode}
    {registered nonblocking : Except IoError Unit} (kept : Kept host)
    (stepped : host.step (.fromStd name inner mode key registered nonblocking) = some next) :
    StepSpec host (.fromStd name inner mode key registered nonblocking) next := by
  simp only [step] at stepped
  split at stepped
  case isFalse => cases stepped
  case isTrue admissible =>
      obtain ⟨absent, nonneg, fresh, vacant⟩ := admissible
      have opened := kept.balanced.openFd inner
      have unused := kept.balanced.unused_of_closed fresh
      have isOpen : inner ∈ (host.sys.openFd inner).opened := Finset.mem_insert_self _ _
      cases registered with
      | error err =>
          have vacant' : (host.sys.openFd inner).driver.registrations.get key = none := vacant
          rw [fromStdWithMode_refused vacant'] at stepped
          cases stepped
          constructor
          · rintro ⟨accepted | free, -⟩
            · cases accepted
            · have unchanged : (host.sys.openFd inner).dropHandle (MioHandle.halfBuilt inner .both mode) =
                  host.sys.openFd inner := dropHandle_vacant free
              refine ⟨?_, kept.matched⟩
              show Balanced (((host.sys.openFd inner).dropHandle _).close inner) _
              rw [unchanged]
              exact opened.close unused
          · intro outside
            cases taken : host.sys.driver.registrations.get 0 with
            | none => exact absurd ⟨.inr taken, by simp⟩ outside
            | some r => exact outOfBalance_failed opened taken inner .both mode
      | ok _ =>
          cases nonblocking with
          | error err =>
              cases stepped
              constructor
              · rintro ⟨-, made⟩
                cases made rfl
              · intro _
                exact outOfBalance_forgotten opened vacant mode
          | ok _ =>
              cases stepped
              constructor
              · intro _
                refine ⟨?_, matched_insert kept.matched rfl⟩
                rw [handlesOf_insert absent]
                exact opened.register vacant nonneg isOpen unused .both mode
              · intro outside
                exact absurd ⟨.inl rfl, fun _ => rfl⟩ outside

theorem pollWaitPid_spec {host next : Host} {name : Nat} {waker : Waker} {env : WaitEnv} (kept : Kept host)
    (stepped : host.step (.pollWaitPid name waker env) = some next) :
    StepSpec host (.pollWaitPid name waker env) next := by
  simp only [step] at stepped
  split at stepped
  case h_2 => cases stepped
  case h_1 state found =>
      split at stepped
      case isFalse => cases stepped
      case isTrue admissible =>
          cases stepped
          have balanced := kept.balanced
          rw [handlesOf_remove found] at balanced
          have spec := pollPoll_spec balanced (kept.matched _ _ found) admissible.1 admissible.2 waker
          have first_iff : HandleFirst host (.pollWaitPid name waker env) ↔
              WaitPidOp.HandleFirst host.sys env state := by
            simp [HandleFirst, found]
          unfold StepSpec
          rw [first_iff, handlesOf_replace]
          constructor
          · intro first
            obtain ⟨after, matched⟩ := spec.kept first
            refine ⟨?_, matched_insert kept.matched matched⟩
            rw [handlesOf_replace]
            exact after
          · exact spec.leaked

theorem drop_spec {host next : Host} {name : Nat} (kept : Kept host)
    (stepped : host.step (.drop name) = some next) : StepSpec host (.drop name) next := by
  simp only [step] at stepped
  split at stepped
  case h_2 => cases stepped
  case h_1 owner found =>
      cases stepped
      have balanced := kept.balanced
      have matched := kept.matched name owner found
      rw [handlesOf_remove found] at balanced
      cases owner with
      | stream stream =>
          have same : stream.inner = stream.handle.handle := by
            simpa [Owner.Matched, Owner.fds, Owner.handles] using matched
          constructor
          · intro _
            exact ⟨balanced.dropStream same, matched_remove kept.matched⟩
          · intro outside
            exact absurd (by simp [HandleFirst, found]) outside
      | waitPid state =>
          cases state with
          | polling pid pidfd handle =>
              have same : pidfd = handle.handle := by
                simpa [Owner.Matched, Owner.fds, Owner.handles] using matched
              constructor
              · intro first
                exact absurd found (first pid pidfd handle)
              · intro _
                exact outOfBalance_dropPolling balanced same pid
          | init pid =>
              constructor
              · intro _
                exact ⟨by simpa [Owner.handles, Owner.drop, WaitPidOp.drop] using balanced, matched_remove kept.matched⟩
              · intro outside
                exact absurd (by simp [HandleFirst, found]) outside
          | done =>
              constructor
              · intro _
                exact ⟨by simpa [Owner.handles, Owner.drop, WaitPidOp.drop] using balanced, matched_remove kept.matched⟩
              · intro outside
                exact absurd (by simp [HandleFirst, found]) outside

theorem step_spec {host next : Host} {l : OwnerStep} (kept : Kept host) (stepped : host.step l = some next) :
    StepSpec host l next := by
  cases l with
  | fromStd name inner mode key registered nonblocking => exact fromStd_spec kept stepped
  | pollWaitPid name waker env => exact pollWaitPid_spec kept stepped
  | drop name => exact drop_spec kept stepped
  | newWaitPid name pid =>
      simp only [step] at stepped
      split at stepped
      · rename_i absent
        cases stepped
        refine ⟨fun _ => ⟨?_, matched_insert kept.matched rfl⟩, fun outside => absurd trivial outside⟩
        rw [handlesOf_insert absent]
        simpa [Owner.handles, WaitPidOp.new] using kept.balanced
      · cases stepped
  | blockOn name waker interest registered =>
      simp only [step] at stepped
      split at stepped
      · cases stepped
        exact ⟨fun _ => ⟨kept.balanced.submitPoll _ _ _ _, kept.matched⟩, fun outside => absurd trivial outside⟩
      · cases stepped
  | event event =>
      cases stepped
      refine ⟨fun _ => ⟨?_, kept.matched⟩, fun outside => absurd trivial outside⟩
      exact kept.balanced.mono (slotsOf_handleEvent _ _) (Finset.Subset.refl _) (Finset.Subset.refl _)

/-- **Registrations outlive no handle, exactly in the runs that drop handles first.** -/
theorem registrations_owned_iff (labels : List OwnerStep) (last : Host)
    (ran : machine.exec new labels = some last) :
    machine.Throughout Owned new labels ↔ machine.AllSteps HandleFirst new labels := by
  refine Machine.throughout_iff_allSteps (M := machine) (I := Kept) ?_ (fun _ => Kept.owned) ?_ kept_new ran
  · intro host l next kept first stepped
    exact (step_spec kept stepped).1 first
  · intro host l next kept outside stepped
    exact not_owned ((step_spec kept stepped).2 outside)

/-- The child is running; its descriptor is 6. -/
def childRuns (key : Nat) : WaitEnv := ⟨6, 0, key, .ok (), .error (.os EAGAIN), .ok (), 0, 0, 0⟩

/-- A stream lives and dies beside a child that is waited for. -/
def streamBesideChild : List OwnerStep :=
  [.fromStd 0 5 .completion 0 (.ok ()) (.ok ()), .newWaitPid 1 100, .pollWaitPid 1 ⟨1⟩ (childRuns 1),
    .drop 0]

theorem registrations_owned_beside_child : machine.Throughout Owned new streamBesideChild := by
  refine (registrations_owned_iff streamBesideChild _ rfl).mpr ?_
  refine ⟨⟨.inl rfl, fun _ => rfl⟩, fun a made => ⟨trivial, fun b begun => ⟨?_, fun c polled => ⟨?_, ?_⟩⟩⟩⟩
  · cases made
    cases begun
    intro state found
    cases found
    exact fun _ => ⟨.inl rfl, fun _ => rfl⟩
  · cases made
    cases begun
    cases polled
    rintro _ _ _ ⟨⟩
  · exact fun _ _ => trivial

/-- A future that waits for a child is dropped: its descriptor is closed, its slot stays. -/
theorem dropped_wait_leaves_slot :
    ∃ host, machine.exec new [.newWaitPid 1 100, .pollWaitPid 1 ⟨1⟩ (childRuns 0), .drop 1] = some host ∧
      ¬ Owned host :=
  ⟨_, rfl, fun owned => absurd owned.count (by decide)⟩

end Host

end Vibeio.Handle
