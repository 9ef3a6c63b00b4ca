/-
# Net.SocketAddr -- socket addresses as the system has them

An address goes to the system as a `sockaddr_in` or a `sockaddr_in6` at the front of a
zeroed `sockaddr_storage`, and comes back the same way.  The two directions are written out
once for each operation that needs them: `socket_addr_to_raw` for `sendto` and the UDP
socket, and, with the domain of the socket to be made, for TCP streams and listeners;
`sockaddr_storage_to_socketaddr` for `recvfrom` and `accept`.

The model is of memory: a struct is the bytes it occupies, field by field, in the byte order
of the target.  A `Target` is what differs between the systems: the byte order, how the
family is laid out, and the number of `AF_INET6`.

* `socket_addr_round_trip`: each decoder takes back what each encoder made, the length is
  that of the struct of the family, and every other family is refused.
-/
import Vibeio.Driver.Basic
import Vibeio.Io.Buf
import Vibeio.Theory.Bytes

namespace Vibeio.Net

set_option autoImplicit false

open Vibeio.Theory
open Vibeio.Io (ArrayU8)
open Vibeio.Driver (IoError)

/-! ## Addresses -/

structure Ipv4Addr where
  octets : ArrayU8 4
  deriving DecidableEq, Repr

/-- `Ipv4Addr::from(u32)`. -/
def Ipv4Addr.ofU32 (ip : Word 4) : Ipv4Addr := ⟨toBeBytes 4 ip, length_toBeBytes 4 ip⟩

/-- `Ipv6Addr::from([u8; 16])` is the constructor. -/
structure Ipv6Addr where
  octets : ArrayU8 16
  deriving DecidableEq, Repr

structure SocketAddrV4 where
  ip : Ipv4Addr
  port : Word 2
  deriving DecidableEq, Repr

structure SocketAddrV6 where
  ip : Ipv6Addr
  port : Word 2
  flowinfo : Word 4
  scopeId : Word 4
  deriving DecidableEq, Repr

inductive SocketAddr where
  | v4 (address : SocketAddrV4)
  | v6 (address : SocketAddrV6)
  deriving DecidableEq, Repr

/-! ## Memory of the target -/

def AF_INET : Nat := 2

/-- With `lenByte` every `sockaddr` begins with a length byte and the family is a `u8`; without
it the family is a `u16`. -/
structure Target where
  endian : Endian
  lenByte : Bool
  afInet6 : Nat
  distinct : afInet6 ≠ AF_INET
  fits : afInet6 < 256

def Target.linux (endian : Endian) : Target := ⟨endian, false, 10, by decide, by decide⟩

def Target.freebsd (endian : Endian) : Target := ⟨endian, true, 28, by decide, by decide⟩

/-- The length byte, where there is one, and the family. -/
def Target.header (T : Target) (len : UInt8) (family : Nat) : List UInt8 :=
  if T.lenByte then [len, UInt8.ofNat family]
  else toNeBytes T.endian 2 (BitVec.ofNat 16 family)

/-- The family in the first two bytes of a `sockaddr`. -/
def Target.familyOf (T : Target) (header : List UInt8) : Nat :=
  if T.lenByte then (header.getD 1 0).toNat else (fromNeBytes T.endian 2 header).toNat

structure SockaddrIn where
  sinLen : UInt8
  sinFamily : Nat
  sinPort : Word 2
  sAddr : Word 4
  sinZero : ArrayU8 8

structure SockaddrIn6 where
  sin6Len : UInt8
  sin6Family : Nat
  sin6Port : Word 2
  sin6Flowinfo : Word 4
  s6Addr : ArrayU8 16
  sin6ScopeId : Word 4

namespace SockaddrIn

def size : Nat := 16

def image (T : Target) (a : SockaddrIn) : List UInt8 :=
  T.header a.sinLen a.sinFamily ++ (toNeBytes T.endian 2 a.sinPort ++
    (toNeBytes T.endian 4 a.sAddr ++ a.sinZero.bytes))

end SockaddrIn

namespace SockaddrIn6

def size : Nat := 28

def image (T : Target) (a : SockaddrIn6) : List UInt8 :=
  T.header a.sin6Len a.sin6Family ++ (toNeBytes T.endian 2 a.sin6Port ++
    (toNeBytes T.endian 4 a.sin6Flowinfo ++ (a.s6Addr.bytes ++ toNeBytes T.endian 4 a.sin6ScopeId)))

end SockaddrIn6

structure SockaddrStorage where
  bytes : List UInt8
  size : bytes.length = 128
  deriving DecidableEq, Repr

namespace SockaddrStorage

def zeroed : SockaddrStorage := ⟨List.replicate 128 0, by simp⟩

/-- A struct written through a pointer to the start. -/
def write (storage : SockaddrStorage) (image : List UInt8) : SockaddrStorage :=
  ⟨Vibeio.Io.overwrite storage.bytes image, by simp [storage.size]⟩

def slice (storage : SockaddrStorage) (offset len : Nat) : List UInt8 :=
  (storage.bytes.drop offset).take len

theorem length_slice (storage : SockaddrStorage) {offset len : Nat} (within : offset + len ≤ 128) :
    (storage.slice offset len).length = len := by
  simp only [slice, List.length_take, List.length_drop, storage.size]
  omega

/-- `ss_family as c_int`. -/
def ssFamily (T : Target) (storage : SockaddrStorage) : Nat := T.familyOf (storage.slice 0 2)

/-- The storage seen as a `sockaddr_in`. -/
def asIn (T : Target) (storage : SockaddrStorage) : SockaddrIn where
  sinLen := storage.bytes.getD 0 0
  sinFamily := storage.ssFamily T
  sinPort := fromNeBytes T.endian 2 (storage.slice 2 2)
  sAddr := fromNeBytes T.endian 4 (storage.slice 4 4)
  sinZero := ⟨storage.slice 8 8, storage.length_slice (by decide)⟩

/-- The storage seen as a `sockaddr_in6`. -/
def asIn6 (T : Target) (storage : SockaddrStorage) : SockaddrIn6 where
  sin6Len := storage.bytes.getD 0 0
  sin6Family := storage.ssFamily T
  sin6Port := fromNeBytes T.endian 2 (storage.slice 2 2)
  sin6Flowinfo := fromNeBytes T.endian 4 (storage.slice 4 4)
  s6Addr := ⟨storage.slice 8 16, storage.length_slice (by decide)⟩
  sin6ScopeId := fromNeBytes T.endian 4 (storage.slice 24 4)

end SockaddrStorage

/-! ## The two directions -/

def SocketAddrV4.toSockaddr (T : Target) (address : SocketAddrV4) : SockaddrIn where
  sinLen := 0
  sinFamily := AF_INET
  sinPort := toBe T.endian 2 address.port
  sAddr := fromNeBytes T.endian 4 address.ip.octets.bytes
  sinZero := ⟨List.replicate 8 0, by simp⟩

def SocketAddrV6.toSockaddr (T : Target) (address : SocketAddrV6) : SockaddrIn6 where
  sin6Len := 0
  sin6Family := T.afInet6
  sin6Port := toBe T.endian 2 address.port
  sin6Flowinfo := address.flowinfo
  s6Addr := address.ip.octets
  sin6ScopeId := address.scopeId

/-- The body of `socket_addr_to_raw`: the domain, the storage and its length. -/
def rawParts (T : Target) : SocketAddr → Nat × SockaddrStorage × Nat
  | .v4 address =>
      (AF_INET, SockaddrStorage.zeroed.write ((address.toSockaddr T).image T), SockaddrIn.size)
  | .v6 address =>
      (T.afInet6, SockaddrStorage.zeroed.write ((address.toSockaddr T).image T), SockaddrIn6.size)

/-- The body of `sockaddr_storage_to_socketaddr`. -/
def addressOf (T : Target) (storage : SockaddrStorage) : Except IoError SocketAddr :=
  let family := storage.ssFamily T
  if family = AF_INET then
    let addrIn := storage.asIn T
    let port := fromBe T.endian 2 addrIn.sinPort
    let ipU32 := fromBe T.endian 4 addrIn.sAddr
    .ok (.v4 ⟨.ofU32 ipU32, port⟩)
  else if family = T.afInet6 then
    let addrIn6 := storage.asIn6 T
    let port := fromBe T.endian 2 addrIn6.sin6Port
    .ok (.v6 ⟨⟨addrIn6.s6Addr⟩, port, addrIn6.sin6Flowinfo, addrIn6.sin6ScopeId⟩)
  else .error (.custom .invalidData "unsupported socket family")

/-- `op/sendto.rs`. -/
def Sendto.socketAddrToRaw (T : Target) (address : SocketAddr) : SockaddrStorage × Nat :=
  (rawParts T address).2

/-- `net/udp/mod.rs`. -/
def Udp.socketAddrToRaw (T : Target) (address : SocketAddr) : SockaddrStorage × Nat :=
  (rawParts T address).2

/-- `net/tcp/stream.rs`. -/
def TcpStream.socketAddrToRaw (T : Target) (address : SocketAddr) : Nat × SockaddrStorage × Nat :=
  rawParts T address

/-- `net/tcp/listener.rs`. -/
def TcpListener.socketAddrToRaw (T : Target) (address : SocketAddr) : Nat × SockaddrStorage × Nat :=
  rawParts T address

/-- `op/recvfrom.rs`. -/
def Recvfrom.sockaddrStorageToSocketaddr (T : Target) (storage : SockaddrStorage) :
    Except IoError SocketAddr :=
  addressOf T storage

/-- `op/accept.rs`. -/
def Accept.sockaddrStorageToSocketaddr (T : Target) (storage : SockaddrStorage) :
    Except IoError SocketAddr :=
  addressOf T storage

/-! ## Fields come back -/

theorem Target.length_header (T : Target) (len : UInt8) (family : Nat) :
    (T.header len family).length = 2 := by
  unfold header
  split <;> simp

theorem Target.familyOf_header (T : Target) (len : UInt8) {family : Nat} (small : family < 256) :
    T.familyOf (T.header len family) = family := by
  unfold familyOf header
  split
  · simp [Nat.mod_eq_of_lt small]
  · rw [fromNeBytes_toNeBytes, BitVec.toNat_ofNat, Nat.mod_eq_of_lt (by omega)]

theorem SockaddrIn.length_image (T : Target) (a : SockaddrIn) : (a.image T).length = size := by
  simp [image, T.length_header, a.sinZero.size, size]

theorem SockaddrIn6.length_image (T : Target) (a : SockaddrIn6) : (a.image T).length = size := by
  simp [image, T.length_header, a.s6Addr.size, size]

/-- A field of a struct in storage is the bytes the struct has there. -/
theorem SockaddrStorage.slice_write {storage : SockaddrStorage} {front field back : List UInt8}
    {offset len : Nat} (start : front.length = offset) (width : field.length = len)
    (fits : (front ++ (field ++ back)).length ≤ 128) :
    (storage.write (front ++ (field ++ back))).slice offset len = field := by
  have whole : Vibeio.Io.overwrite storage.bytes (front ++ (field ++ back)) =
      front ++ (field ++ (back ++ storage.bytes.drop (front ++ (field ++ back)).length)) := by
    unfold Vibeio.Io.overwrite
    rw [List.take_of_length_le]
    · simp
    · have := storage.size
      simp only [List.length_append, List.length_drop] at fits ⊢
      omega
  show ((Vibeio.Io.overwrite _ _).drop offset).take len = field
  rw [whole, List.drop_left' start, List.take_left' width]

variable (T : Target) (storage : SockaddrStorage)

/-- A `sockaddr_in` is read back as it was written. -/
theorem SockaddrStorage.asIn_write (a : SockaddrIn) (small : a.sinFamily < 256) :
    (storage.write (a.image T)).ssFamily T = a.sinFamily ∧
    ((storage.write (a.image T)).asIn T).sinPort = a.sinPort ∧
    ((storage.write (a.image T)).asIn T).sAddr = a.sAddr := by
  have header := T.length_header a.sinLen a.sinFamily
  have whole : (a.image T).length ≤ 128 := by
    rw [a.length_image T]
    decide
  have family : (storage.write (a.image T)).slice 0 2 = T.header a.sinLen a.sinFamily :=
    @slice_write storage [] _ _ 0 2 rfl header whole
  have port : (storage.write (a.image T)).slice 2 2 = toNeBytes T.endian 2 a.sinPort :=
    slice_write header (length_toNeBytes _ _ _) whole
  have addr : (storage.write (a.image T)).slice 4 4 = toNeBytes T.endian 4 a.sAddr := by
    have split : a.image T = (T.header a.sinLen a.sinFamily ++ toNeBytes T.endian 2 a.sinPort) ++
        (toNeBytes T.endian 4 a.sAddr ++ a.sinZero.bytes) := by
      simp [SockaddrIn.image]
    rw [split] at whole ⊢
    exact slice_write (by simp [header]) (length_toNeBytes _ _ _) whole
  refine ⟨?_, ?_, ?_⟩
  · rw [ssFamily, family, T.familyOf_header _ small]
  · rw [asIn, port, fromNeBytes_toNeBytes]
  · rw [asIn, addr, fromNeBytes_toNeBytes]

/-- A `sockaddr_in6` is read back as it was written. -/
theorem SockaddrStorage.asIn6_write (a : SockaddrIn6) (small : a.sin6Family < 256) :
    (storage.write (a.image T)).ssFamily T = a.sin6Family ∧
    ((storage.write (a.image T)).asIn6 T).sin6Port = a.sin6Port ∧
    ((storage.write (a.image T)).asIn6 T).sin6Flowinfo = a.sin6Flowinfo ∧
    ((storage.write (a.image T)).asIn6 T).s6Addr = a.s6Addr ∧
    ((storage.write (a.image T)).asIn6 T).sin6ScopeId = a.sin6ScopeId := by
  have header := T.length_header a.sin6Len a.sin6Family
  have whole : (a.image T).length ≤ 128 := by
    rw [a.length_image T]
    decide
  have family : (storage.write (a.image T)).slice 0 2 = T.header a.sin6Len a.sin6Family :=
    @slice_write storage [] _ _ 0 2 rfl header whole
  have port : (storage.write (a.image T)).slice 2 2 = toNeBytes T.endian 2 a.sin6Port :=
    slice_write header (length_toNeBytes _ _ _) whole
  have flowinfo : (storage.write (a.image T)).slice 4 4 = toNeBytes T.endian 4 a.sin6Flowinfo := by
    have split : a.image T = (T.header a.sin6Len a.sin6Family ++ toNeBytes T.endian 2 a.sin6Port) ++
        (toNeBytes T.endian 4 a.sin6Flowinfo ++
          (a.s6Addr.bytes ++ toNeBytes T.endian 4 a.sin6ScopeId)) := by
      simp [SockaddrIn6.image]
    rw [split] at whole ⊢
    exact slice_write (by simp [header]) (length_toNeBytes _ _ _) whole
  have addr : (storage.write (a.image T)).slice 8 16 = a.s6Addr.bytes := by
    have split : a.image T = (T.header a.sin6Len a.sin6Family ++ toNeBytes T.endian 2 a.sin6Port ++
        toNeBytes T.endian 4 a.sin6Flowinfo) ++
          (a.s6Addr.bytes ++ toNeBytes T.endian 4 a.sin6ScopeId) := by
      simp [SockaddrIn6.image]
    rw [split] at whole ⊢
    exact slice_write (by simp [header]) a.s6Addr.size whole
  have scope : (storage.write (a.image T)).slice 24 4 = toNeBytes T.endian 4 a.sin6ScopeId := by
    have split : a.image T = (T.header a.sin6Len a.sin6Family ++ toNeBytes T.endian 2 a.sin6Port ++
        toNeBytes T.endian 4 a.sin6Flowinfo ++ a.s6Addr.bytes) ++
          (toNeBytes T.endian 4 a.sin6ScopeId ++ []) := by
      simp [SockaddrIn6.image]
    rw [split] at whole ⊢
    exact slice_write (by simp [header, a.s6Addr.size]) (length_toNeBytes _ _ _) whole
  refine ⟨?_, ?_, ?_, ?_, ?_⟩
  · rw [ssFamily, family, T.familyOf_header _ small]
  · rw [asIn6, port, fromNeBytes_toNeBytes]
  · rw [asIn6, flowinfo, fromNeBytes_toNeBytes]
  · simp only [asIn6, addr]
  · rw [asIn6, scope, fromNeBytes_toNeBytes]

/-! ## Round trips -/

/-- The number in `s_addr` is in the byte order of the target, and `from_be` undoes just that. -/
theorem Ipv4Addr.ofU32_fromBe (e : Endian) (ip : Ipv4Addr) :
    ofU32 (fromBe e 4 (fromNeBytes e 4 ip.octets.bytes)) = ip := by
  have bytes : toBeBytes 4 (fromBe e 4 (fromNeBytes e 4 ip.octets.bytes)) = ip.octets.bytes := by
    rw [fromBe_fromNeBytes e ip.octets.size, toBeBytes_fromBeBytes ip.octets.size]
  obtain ⟨⟨octets, width⟩⟩ := ip
  simp only [ofU32, Ipv4Addr.mk.injEq, ArrayU8.mk.injEq]
  exact bytes

theorem addressOf_rawParts (address : SocketAddr) :
    addressOf T (rawParts T address).2.1 = .ok address := by
  cases address with
  | v4 address =>
      obtain ⟨family, port, addr⟩ :=
        SockaddrStorage.asIn_write T .zeroed (address.toSockaddr T) (show AF_INET < 256 by decide)
      simp only [rawParts, addressOf, family, port, addr]
      rw [if_pos (show (address.toSockaddr T).sinFamily = AF_INET from rfl)]
      simp only [SocketAddrV4.toSockaddr, fromBe_toBe, Ipv4Addr.ofU32_fromBe]
  | v6 address =>
      obtain ⟨family, port, flowinfo, addr, scope⟩ :=
        SockaddrStorage.asIn6_write T .zeroed (address.toSockaddr T) T.fits
      simp only [rawParts, addressOf, family, port, flowinfo, addr, scope]
      rw [if_neg (show (address.toSockaddr T).sin6Family ≠ AF_INET from T.distinct),
        if_pos (show (address.toSockaddr T).sin6Family = T.afInet6 from rfl)]
      simp only [SocketAddrV6.toSockaddr, fromBe_toBe]

/-- A family that is neither of the two is refused. -/
theorem addressOf_unsupported (inet : storage.ssFamily T ≠ AF_INET)
    (inet6 : storage.ssFamily T ≠ T.afInet6) :
    addressOf T storage = .error (.custom .invalidData "unsupported socket family") := by
  simp only [addressOf]
  rw [if_neg inet, if_neg inet6]

/-- The size of the struct of an address's family, and the family. -/
def SocketAddr.sockaddrSize : SocketAddr → Nat
  | .v4 _ => SockaddrIn.size
  | .v6 _ => SockaddrIn6.size

def SocketAddr.family (T : Target) : SocketAddr → Nat
  | .v4 _ => AF_INET
  | .v6 _ => T.afInet6

/-- **Addresses survive the way to the system and back.**  On every target, for each encoder
and each decoder: the address comes back, the length is the size of the struct of its family,
the domain is its family, and a storage of any other family is an error. -/
theorem socket_addr_round_trip (T : Target) :
    (∀ address : SocketAddr,
      ∀ raw ∈ [Sendto.socketAddrToRaw T address, Udp.socketAddrToRaw T address,
        (TcpStream.socketAddrToRaw T address).2, (TcpListener.socketAddrToRaw T address).2],
        Recvfrom.sockaddrStorageToSocketaddr T raw.1 = .ok address ∧
        Accept.sockaddrStorageToSocketaddr T raw.1 = .ok address ∧
        raw.2 = address.sockaddrSize) ∧
    (∀ address : SocketAddr,
      (TcpStream.socketAddrToRaw T address).1 = address.family T ∧
      (TcpListener.socketAddrToRaw T address).1 = address.family T) ∧
    (∀ storage : SockaddrStorage,
      storage.ssFamily T ≠ AF_INET → storage.ssFamily T ≠ T.afInet6 →
        Recvfrom.sockaddrStorageToSocketaddr T storage =
          .error (.custom .invalidData "unsupported socket family") ∧
        Accept.sockaddrStorageToSocketaddr T storage =
          .error (.custom .invalidData "unsupported socket family")) := by
  refine ⟨?_, ?_, ?_⟩
  · intro address raw member
    have same : raw = (rawParts T address).2 := by
      simpa [Sendto.socketAddrToRaw, Udp.socketAddrToRaw, TcpStream.socketAddrToRaw,
        TcpListener.socketAddrToRaw] using member
    subst same
    refine ⟨addressOf_rawParts T address, addressOf_rawParts T address, ?_⟩
    cases address <;> rfl
  · intro address
    cases address <;> exact ⟨rfl, rfl⟩
  · intro storage inet inet6
    exact ⟨addressOf_unsupported T storage inet inet6, addressOf_unsupported T storage inet inet6⟩

/-- `192.0.2.1:443` from `sendto` to `accept` on a big-endian FreeBSD, and a storage of the
family 1 on a little-endian Linux. -/
theorem socket_addr_round_trip_example :
    Accept.sockaddrStorageToSocketaddr (.freebsd .big)
        (Sendto.socketAddrToRaw (.freebsd .big) (.v4 ⟨⟨⟨[192, 0, 2, 1], rfl⟩⟩, 443⟩)).1 =
      .ok (.v4 ⟨⟨⟨[192, 0, 2, 1], rfl⟩⟩, 443⟩) ∧
    Recvfrom.sockaddrStorageToSocketaddr (.linux .little) (SockaddrStorage.zeroed.write [1, 0]) =
      .error (.custom .invalidData "unsupported socket family") := by
  refine ⟨((socket_addr_round_trip (.freebsd .big)).1 _ _ (by simp)).2.1, ?_⟩
  have header : (SockaddrStorage.zeroed.write [1, 0]).slice 0 2 = [1, 0] :=
    @SockaddrStorage.slice_write .zeroed [] [1, 0] [] 0 2 rfl rfl (by decide)
  have family : (SockaddrStorage.zeroed.write [1, 0]).ssFamily (.linux .little) = 1 := by
    rw [SockaddrStorage.ssFamily, header]
    decide
  exact ((socket_addr_round_trip (.linux .little)).2.2 _ (by rw [family]; decide)
    (by rw [family]; decide)).1

end Vibeio.Net
