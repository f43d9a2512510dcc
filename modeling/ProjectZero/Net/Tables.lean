import ProjectZero.Lib.Layout
import ProjectZero.Lib.Queues
import ProjectZero.Tables

/-! # The tables of the network

Packet buffers, interfaces, sockets, ports and routes. An index field that is either an index of its
table or `0xFFFF` is an `Option`, with `none` for the second. A packet buffer has its bytes as a list,
`data_len` long; the pool is initialised, so no buffer is without memory. The threads that wait for a
socket are in the list of its wait queue, and `blocked` while nobody has woken them. -/

namespace ProjectZero.Net.Tables

open Lib.Layout Lib.Queues ProjectZero.Tables

/-- A slot of `PACKET_BUFFER_TABLE`, below `MAX_PACKET_BUFFERS`. -/
abbrev BufIdx := Fin 32

/-- A slot of `SOCKET_TABLE`, below `MAX_SOCKETS`. -/
abbrev SockIdx := Fin 16

/-- A slot of `INTERFACE_TABLE`, below `MAX_NETWORK_INTERFACES`. -/
abbrev IfIdx := Fin 4

abbrev Ip := BitVec 32

abbrev Port := BitVec 16

def packetBufferSize : ℕ := 2048
def packetHeadroom : ℕ := 64
def loopbackIp : Ip := 0x7F000001

export ProjectZero.Tables (SyscallError)

/-! ### Packet buffers -/

inductive PacketBufferState
  | free | rxAllocated | interfaceRxQueued | socketQueued | socketTxQueued | driverTxRing
  | transmitted
  deriving DecidableEq

structure PacketBuffer where
  state : PacketBufferState
  data : List Byte
  next : Option BufIdx
  interfaceId : ℕ
  deriving DecidableEq

def PacketBuffer.empty : PacketBuffer :=
  { state := .free, data := [], next := none, interfaceId := 0 }

/-! ### Interfaces -/

inductive InterfaceState
  | down | up | resetting | faulted
  deriving DecidableEq

/-- The two queues of an interface. -/
inductive Direction
  | rx | tx
  deriving DecidableEq

structure NetworkInterface where
  interfaceId : ℕ
  state : InterfaceState
  ipv4Addr : Ip
  droppedPackets : ℕ
  queue : Direction → Queue BufIdx
  packetsTotal : Direction → ℕ

def NetworkInterface.empty : NetworkInterface :=
  { interfaceId := 0, state := .down, ipv4Addr := 0, droppedPackets := 0, queue := fun _ => .empty,
    packetsTotal := fun _ => 0 }

/-- `lo0`, as `init_interfaces` configures it. -/
def NetworkInterface.loopback : NetworkInterface :=
  { NetworkInterface.empty with interfaceId := 1, state := .up, ipv4Addr := loopbackIp }

/-! ### Sockets -/

inductive SocketType
  | unset | udp | tcp | raw
  deriving DecidableEq

inductive SocketState
  | closed | udpUnbound | udpBound | udpConnected | listen | synSent | synReceived | established
  | finWait1 | finWait2 | closeWait | closing | lastAck | timeWait | peerClosed | faulted
  deriving DecidableEq

/-- A socket; the object of the kernel that stands for it is `none` before it is allocated. -/
structure SocketSlot where
  occupied : Bool
  sockType : SocketType
  state : SocketState
  socketId : ℕ
  kernelObject : Option ObjIdx
  ownerPid : ℕ
  localIp : Ip
  remoteIp : Ip
  localPort : Port
  remotePort : Port
  error : ℤ
  boundInterface : ℕ
  rxQueue : Queue BufIdx
  rxQueueLimit : ℕ
  deriving DecidableEq

def SocketSlot.empty : SocketSlot :=
  { occupied := false, sockType := .unset, state := .closed, socketId := 0, kernelObject := none,
    ownerPid := 0, localIp := 0, remoteIp := 0, localPort := 0, remotePort := 0, error := 0,
    boundInterface := 0, rxQueue := .empty, rxQueueLimit := 8 }

structure TcpControlBlock where
  sndUna : BitVec 32
  sndNxt : BitVec 32
  rcvNxt : BitVec 32
  deriving DecidableEq

def TcpControlBlock.empty : TcpControlBlock := { sndUna := 0, sndNxt := 0, rcvNxt := 0 }

/-! ### Ports and routes -/

structure PortBindingSlot where
  occupied : Bool
  socketId : ℕ
  ownerPid : ℕ
  ipAddr : Ip
  port : Port
  protocol : ℕ
  deriving DecidableEq

def PortBindingSlot.empty : PortBindingSlot :=
  { occupied := false, socketId := 0, ownerPid := 0, ipAddr := 0, port := 0, protocol := 0 }

structure RouteEntry where
  occupied : Bool
  destIp : Ip
  gatewayIp : Ip
  metric : ℕ
  interfaceId : ℕ
  prefixLen : ℕ
  deriving DecidableEq

def RouteEntry.empty : RouteEntry :=
  { occupied := false, destIp := 0, gatewayIp := 0, metric := 0, interfaceId := 0, prefixLen := 0 }

/-- The route of `net::init`: 127.0.0.0/8 over `lo0`. -/
def RouteEntry.loopback : RouteEntry :=
  { occupied := true, destIp := 0x7F000000, gatewayIp := 0, metric := 1, interfaceId := 1,
    prefixLen := 8 }

/-! ### All tables -/

/-- The tables, with the lock on the sockets. The counter of the identifiers does not wrap, where the
source has 64 bits. -/
structure Stack where
  buf : BufIdx → PacketBuffer
  iface : IfIdx → NetworkInterface
  socket : SockIdx → SocketSlot
  tcp : SockIdx → TcpControlBlock
  waiters : SockIdx → List TSlot
  blocked : TSlot → Bool
  port : Fin 32 → PortBindingSlot
  nextEphemeral : Port
  route : Fin 8 → RouteEntry
  nextSocketId : ℕ
  socketLock : Bool

scoped instance ne8 : NeZero 8 := ⟨by decide⟩

namespace Stack

/-- The tables after `net::init`. -/
def boot : Stack :=
  { buf := fun _ => .empty
    iface := update (fun _ => .empty) 0 .loopback
    socket := fun _ => .empty
    tcp := fun _ => .empty
    waiters := fun _ => []
    blocked := fun _ => false
    port := fun _ => .empty
    nextEphemeral := 49152
    route := update (fun _ => .empty) 0 .loopback
    nextSocketId := 1
    socketLock := false }

variable (n : Stack)

def setBuf (b : BufIdx) (p : PacketBuffer) : Stack :=
  { n with buf := update n.buf b p }

def setIface (i : IfIdx) (f : NetworkInterface) : Stack :=
  { n with iface := update n.iface i f }

variable (s : SockIdx)

def setSocket (sock : SocketSlot) : Stack :=
  { n with socket := update n.socket s sock }

def setTcp (cb : TcpControlBlock) : Stack :=
  { n with tcp := update n.tcp s cb }

/-- `wake_all` on the wait queue of the socket. -/
def wakeAll : Stack :=
  { n with
    blocked := fun t => if t ∈ n.waiters s then false else n.blocked t
    waiters := update n.waiters s [] }

/-- `block_current` by the thread `t` on the wait queue of the socket. -/
def park (t : TSlot) : Stack :=
  { n with
    waiters := update n.waiters s (n.waiters s ++ [t])
    blocked := update n.blocked t true }

end Stack

/-! ### Results -/

abbrev Outcome (α : Type) := Except Halt (Except SyscallError α × Stack)

def fail {α : Type} (e : SyscallError) (n : Stack) : Outcome α := .ok (.error e, n)

def done {α : Type} (a : α) (n : Stack) : Outcome α := .ok (.ok a, n)

/-- The body of a call runs under the lock; nobody gives the lock back that a call kept. -/
def locked {α : Type} (n : Stack) (body : Except Halt α) : Except Halt α :=
  if n.socketLock then .error .hang else body

/-- The error leaves the call by `?`, with the lock. -/
def failLocked {α : Type} (e : SyscallError) (n : Stack) : Outcome α :=
  fail e { n with socketLock := true }

lemma locked_eq_ok {α : Type} {n : Stack} {body : Except Halt α} {a : α}
    (h : locked n body = .ok a) : n.socketLock = false ∧ body = .ok a := by
  unfold locked at h
  split at h
  · cases h
  rename_i hl
  exact ⟨by simpa using hl, h⟩

end ProjectZero.Net.Tables
