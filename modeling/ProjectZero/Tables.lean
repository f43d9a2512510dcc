import ProjectZero.Lib.Run
import ProjectZero.Lib.Update

/-! # The kernel's tables

The static tables of the capability, object, channel and shared-memory subsystems, with the data each
of them holds, and the record `Kernel` of all of them. Sixteen-bit words are `BitVec 16`; counters
are numbers. A pair of slot bytes that is either a slot of the tables or `(0xFF, 0xFF)` is an
`Option Slot`, with `none` for the second: no function of the kernel writes any other pair. Indices
that an assertion or the size of a table bounds are elements of `Fin`.

A failed assertion and a loop that does not end stop the kernel, for one of the reasons `Halt`. -/

namespace ProjectZero.Tables

/-- A process slot, below `MAX_PROCESSES`. -/
abbrev PSlot := Fin 16

/-- A handle slot of a process, below `MAX_HANDLES_PER_PROCESS`. -/
abbrev HSlot := Fin 32

/-- A slot of the handle tables and of `CAPABILITY_NODE_TABLE`. -/
abbrev Slot := PSlot × HSlot

/-- A slot of `KERNEL_OBJECT_TABLE`, below `MAX_KERNEL_OBJECTS`. -/
abbrev ObjIdx := Fin 256

/-- A slot of `THREAD_TABLE`, below `MAX_THREADS`. -/
abbrev TSlot := Fin 16

scoped instance ne4 : NeZero 4 := ⟨by decide⟩
scoped instance ne16 : NeZero 16 := ⟨by decide⟩
scoped instance ne32 : NeZero 32 := ⟨by decide⟩
scoped instance ne256 : NeZero 256 := ⟨by decide⟩

abbrev Rights := BitVec 16

/-- `MAX_CAPABILITY_NODES`: the number of slots. -/
def maxCapabilityNodes : ℕ := 512

def maxDerivationDepth : ℕ := 8

lemma card_slot : Fintype.card Slot = maxCapabilityNodes := by simp [maxCapabilityNodes]

inductive SyscallError
  | invalidSyscall | invalidArgument | badHandle | permissionDenied | badAddress | outOfMemory
  | resourceBusy | notFound | wouldBlock | peerClosed | noSpace | fileExists | ioError
  | notADirectory | isADirectory | tableFull | resourceConflict | deviceFault | networkDown
  | networkUnreachable | connectionRefused | connectionReset | connectionAborted
  | alreadyConnected | notConnected | addressInUse | addressNotAvailable | timedOut
  | messageTooLarge
  deriving DecidableEq

/-! ### User addresses -/

def userVaMin : ℕ := 0x200000
def userVaMaxExclusive : ℕ := 0x7F8000000000

/-- `USER_DEV_MMIO_BASE`. -/
def userDevMmioBase : ℕ := 0x600000000000

/-- `USER_DEV_MMIO_END`. -/
def userDevMmioEnd : ℕ := 0x700000000000

/-! ### Rights -/

namespace CapRights

def duplicate : Rights := 0x0100#16
def transfer : Rights := 0x0200#16
def revoke : Rights := 0x0400#16
def close : Rights := 0x0800#16
def inspect : Rights := 0x1000#16
def audit : Rights := 0x2000#16
def channelReceive : Rights := 0x0001#16
def channelSend : Rights := 0x0002#16
def shmMapRead : Rights := 0x0004#16
def shmMapWrite : Rights := 0x0008#16
def shmUnmap : Rights := 0x0010#16
def devWrite : Rights := 0x0002#16
def devMapMmio : Rights := 0x0008#16
def devDmaAcquire : Rights := 0x0010#16
def devInterruptListen : Rights := 0x0020#16
def devReset : Rights := 0x0040#16
def netBind : Rights := 0x0001#16
def netListen : Rights := 0x0002#16
def netAccept : Rights := 0x0004#16
def netConnect : Rights := 0x0008#16
def netSend : Rights := 0x0010#16
def netRecv : Rights := 0x0020#16
def netRoute : Rights := 0x0040#16
def netConfig : Rights := 0x0080#16
def netRaw : Rights := 0x4000#16

end CapRights

/-! The rights of the handle interface that came before the capabilities. -/

namespace HandleRights

def read : Rights := 0x0001#16
def write : Rights := 0x0002#16
def mapRo : Rights := 0x0004#16
def mapRw : Rights := 0x0008#16
def transfer : Rights := 0x0010#16
def duplicate : Rights := 0x0020#16
def signal : Rights := 0x0040#16
def wait : Rights := 0x0080#16

end HandleRights

inductive IpcError
  | invalidHandle | badHandleGeneration | permissionDenied | objectTableFull | channelTableFull
  | shmTableFull | mappingTableFull | handleTableFull | objectIdExhausted | invalidProcess
  | invalidEndpoint | endpointClosed | peerClosed | wouldBlock | concurrentOperation
  | badMessageSize | badAlignment | invalidAddress | pmmExhausted | vmmError | timeout
  | capabilityRevoked | rightsAmplificationRejected | maxDerivationDepthExceeded
  | notCapabilityOwner | capabilityNotTransferable | capabilityNotDuplicable
  | capabilityIdExhausted | invalidCapability
  deriving DecidableEq

/-! ### Handles and capability nodes -/

/-- A handle word: the slot index in bits 0 to 15, the generation in bits 16 to 31. -/
structure Handle where
  val : BitVec 32
  deriving DecidableEq

namespace Handle

def new (slotIndex generation : BitVec 16) : Handle :=
  ⟨(generation.setWidth 32 <<< 16) ||| slotIndex.setWidth 32⟩

def slotIndex (h : Handle) : ℕ := (h.val &&& 0xFFFF#32).toNat

def generation (h : Handle) : BitVec 16 := (h.val >>> 16).setWidth 16

lemma toNat_new (s g : BitVec 16) : (Handle.new s g).val.toNat = g.toNat * 2 ^ 16 + s.toNat := by
  have hs : s.toNat < 2 ^ 16 := s.isLt
  have hg : g.toNat < 2 ^ 16 := g.isLt
  have hshift : g.toNat <<< 16 ||| s.toNat = g.toNat * 2 ^ 16 + s.toNat := by
    rw [← Nat.shiftLeft_add_eq_or_of_lt hs, Nat.shiftLeft_eq]
  have h1 : s.toNat % 2 ^ 32 = s.toNat := Nat.mod_eq_of_lt (by omega)
  have h2 : g.toNat % 2 ^ 32 = g.toNat := Nat.mod_eq_of_lt (by omega)
  have h3 : (g.toNat <<< 16) % 2 ^ 32 = g.toNat <<< 16 := by
    rw [Nat.shiftLeft_eq]
    exact Nat.mod_eq_of_lt (by omega)
  simp only [Handle.new, BitVec.toNat_or, BitVec.toNat_shiftLeft, BitVec.toNat_setWidth, h1, h2, h3,
    hshift]

lemma slotIndex_new (s g : BitVec 16) : (Handle.new s g).slotIndex = s.toNat := by
  have hs : s.toNat < 2 ^ 16 := s.isLt
  have hmask : (0xFFFF#32).toNat = 2 ^ 16 - 1 := rfl
  rw [slotIndex, BitVec.toNat_and, toNat_new, hmask, Nat.and_two_pow_sub_one_eq_mod]
  omega

lemma generation_new (s g : BitVec 16) : (Handle.new s g).generation = g := by
  have hs : s.toNat < 2 ^ 16 := s.isLt
  have hg : g.toNat < 2 ^ 16 := g.isLt
  refine BitVec.eq_of_toNat_eq ?_
  rw [generation, BitVec.toNat_setWidth, BitVec.toNat_ushiftRight, toNat_new,
    Nat.shiftRight_eq_div_pow]
  omega

lemma slotIndex_new_slot (h : HSlot) (g : BitVec 16) :
    (Handle.new (BitVec.ofNat 16 h) g).slotIndex = h := by
  have := h.isLt
  rw [slotIndex_new, BitVec.toNat_ofNat]
  omega

end Handle

structure HandleEntry where
  objectIndex : ObjIdx
  handleGeneration : BitVec 16
  objectGeneration : BitVec 16
  rights : Rights
  endpoint : ℕ
  occupied : Bool
  deriving DecidableEq

def HandleEntry.empty : HandleEntry :=
  { objectIndex := 0, handleGeneration := 1, objectGeneration := 0, rights := 0, endpoint := 0,
    occupied := false }

structure CapabilityNode where
  capabilityId : ℕ
  parent : Option Slot
  parentGen : BitVec 16
  derivationDepth : ℕ
  isRevoked : Bool
  flags : BitVec 16
  firstChild : Option Slot
  nextSibling : Option Slot
  deriving DecidableEq

def CapabilityNode.empty : CapabilityNode :=
  { capabilityId := 0, parent := none, parentGen := 0, derivationDepth := 0, isRevoked := false,
    flags := 0, firstChild := none, nextSibling := none }

/-- The generation after `g`: sixteen-bit, and zero is left out. -/
def bumpGeneration (g : BitVec 16) : BitVec 16 := if g + 1 = 0 then 1 else g + 1

lemma bumpGeneration_ne (g : BitVec 16) : bumpGeneration g ≠ g := by
  unfold bumpGeneration
  split
  next h =>
    intro e
    rw [← e] at h
    simp at h
  intro e
  have hg : g.toNat < 2 ^ 16 := g.isLt
  have h1 : (1 : BitVec 16).toNat = 1 := rfl
  have h := congrArg BitVec.toNat e
  rw [BitVec.toNat_add, h1] at h
  omega

/-! ### Kernel objects -/

inductive KernelObjectType
  | free | channel | shmObject | event | process | storageObject | device | socket
  deriving DecidableEq

inductive ObjectLifecycleState
  | free | active | peerClosed | quiescent | reclaiming
  deriving DecidableEq

structure KernelObjectHeader where
  objectId : ℕ
  creatorPid : ℕ
  handleRefs : ℕ
  mappingRefs : ℕ
  inFlightOpRefs : ℕ
  state : ObjectLifecycleState
  signals : BitVec 32
  deriving DecidableEq

namespace KernelObjectHeader

def empty : KernelObjectHeader :=
  { objectId := 0, creatorPid := 0, handleRefs := 0, mappingRefs := 0, inFlightOpRefs := 0,
    state := .free, signals := 0 }

def refCount (h : KernelObjectHeader) : ℕ := h.handleRefs + h.mappingRefs + h.inFlightOpRefs

end KernelObjectHeader

structure KernelObjectSlot where
  occupied : Bool
  objType : KernelObjectType
  generation : BitVec 16
  poolIndex : ℕ
  header : KernelObjectHeader
  deriving DecidableEq

def KernelObjectSlot.empty : KernelObjectSlot :=
  { occupied := false, objType := .free, generation := 1, poolIndex := 0, header := .empty }

/-! ### Channels -/

structure IpcMessage where
  tag : BitVec 64
  payloadLen : BitVec 16
  handlesCount : BitVec 16
  payload : Fin 48 → BitVec 8
  handles : Fin 4 → BitVec 32
  deriving DecidableEq

def IpcMessage.empty : IpcMessage :=
  { tag := 0, payloadLen := 0, handlesCount := 0, payload := fun _ => 0, handles := fun _ => 0 }

/-- A ring of `CHANNEL_RING_CAPACITY` messages. -/
structure ChannelRing where
  buffer : Fin 4 → IpcMessage
  head : Fin 4
  tail : Fin 4
  count : ℕ
  deriving DecidableEq

namespace ChannelRing

def empty : ChannelRing := { buffer := fun _ => .empty, head := 0, tail := 0, count := 0 }

variable (r : ChannelRing)

def isEmpty : Bool := r.count = 0

def isFull : Bool := r.count = 4

/-- `none` is the refusal of a full ring. -/
def push (msg : IpcMessage) : Option ChannelRing :=
  if r.isFull then none
  else some { buffer := update r.buffer r.tail msg, head := r.head, tail := r.tail + 1,
              count := r.count + 1 }

def pop : Option (IpcMessage × ChannelRing) :=
  if r.isEmpty then none
  else some (r.buffer r.head, { r with head := r.head + 1, count := r.count - 1 })

end ChannelRing

/-- The control state of an endpoint. A wait queue is the list of its threads in chain order. -/
structure ChannelEndpointData where
  isClosed : Bool
  peerClosed : Bool
  handleRefs : ℕ
  waitersRx : List TSlot
  waitersTx : List TSlot
  deriving DecidableEq

def ChannelEndpointData.empty : ChannelEndpointData :=
  { isClosed := false, peerClosed := false, handleRefs := 0, waitersRx := [], waitersTx := [] }

structure Channel where
  ring0to1 : ChannelRing
  ring1to0 : ChannelRing
  endpoint0 : ChannelEndpointData
  endpoint1 : ChannelEndpointData
  deriving DecidableEq

def Channel.empty : Channel :=
  { ring0to1 := .empty, ring1to0 := .empty, endpoint0 := .empty, endpoint1 := .empty }

namespace Channel

variable (ch : Channel) (endpoint : ℕ)

/-- The endpoint a handle with the number `endpoint` stands for. -/
def mine : ChannelEndpointData :=
  if endpoint = 0 then ch.endpoint0 else ch.endpoint1

def peer : ChannelEndpointData :=
  if endpoint = 0 then ch.endpoint1 else ch.endpoint0

def setEndpoints (mine peer : ChannelEndpointData) : Channel :=
  if endpoint = 0 then { ch with endpoint0 := mine, endpoint1 := peer }
  else { ch with endpoint1 := mine, endpoint0 := peer }

/-- The endpoint loses a handle: `handle_refs.saturating_sub(1)`. -/
def dropRef : Channel :=
  ch.setEndpoints endpoint
    { ch.mine endpoint with handleRefs := (ch.mine endpoint).handleRefs - 1 } (ch.peer endpoint)

/-- The endpoint is closed, and the peer told. -/
def close : Channel :=
  ch.setEndpoints endpoint { ch.mine endpoint with isClosed := true }
    { ch.peer endpoint with peerClosed := true }

/-- The channel with its four wait queues emptied. -/
def drain : Channel :=
  { ch with
    endpoint0 := { ch.endpoint0 with waitersRx := [], waitersTx := [] }
    endpoint1 := { ch.endpoint1 with waitersRx := [], waitersTx := [] } }

/-- The four wait queues of a channel are empty. -/
def idle : Bool :=
  ch.endpoint0.waitersRx.isEmpty && ch.endpoint0.waitersTx.isEmpty &&
    ch.endpoint1.waitersRx.isEmpty && ch.endpoint1.waitersTx.isEmpty

end Channel

structure ThreadIpcState where
  occupied : Bool
  objectIndex : ObjIdx
  deriving DecidableEq

/-! ### Shared memory -/

/-- The address of a physical frame. -/
abbrev PhysFrame := ℕ

structure ShmObject where
  pageCount : ℕ
  frames : Fin 16 → PhysFrame
  creatorPid : ℕ
  deriving DecidableEq

def ShmObject.empty : ShmObject := { pageCount := 0, frames := fun _ => 0, creatorPid := 0 }

/-- The frames of the pages below `page_count`. -/
def ShmObject.pages (shm : ShmObject) : List PhysFrame :=
  ((List.finRange 16).take shm.pageCount).map shm.frames

structure ShmMapping where
  occupied : Bool
  objectIndex : ObjIdx
  objectGeneration : BitVec 16
  rights : Rights
  processId : ℕ
  virtualBase : ℕ
  pageCount : ℕ
  deriving DecidableEq

def ShmMapping.empty : ShmMapping :=
  { occupied := false, objectIndex := 0, objectGeneration := 0, rights := 0, processId := 0,
    virtualBase := 0, pageCount := 0 }

inductive FrameState
  | free | allocated | reserved | unusable
  deriving DecidableEq

/-- The physical memory manager: the two-bit state of every frame and its counters. -/
structure Pmm where
  initialized : Bool
  trackedFrames : ℕ
  state : ℕ → FrameState
  freeFrames : ℕ
  allocatedFrames : ℕ

/-! ### Page tables -/

abbrev PageTableEntry := BitVec 64

abbrev PageTable := Fin 512 → PageTableEntry

/-- What the processor reports about its addresses. The widths are those that `discover` can return;
the mask of the physical addresses follows from them. -/
structure AddressSpaceGeometry where
  physicalBits : ℕ
  virtualBits : ℕ
  nxEnabled : Bool
  physicalBits_range : 32 ≤ physicalBits ∧ physicalBits ≤ 52
  virtualBits_range : 48 ≤ virtualBits ∧ virtualBits ≤ 57

lemma range36 : 32 ≤ 36 ∧ 36 ≤ 52 := by decide

lemma range48 : 48 ≤ 48 ∧ 48 ≤ 57 := by decide

/-! ### Threads and processes -/

inductive ThreadState
  | free | initializing | ready | running | blocked | zombie | reclaiming
  deriving DecidableEq

structure KernelThread where
  occupied : Bool
  processId : ℕ
  priority : ℕ
  state : ThreadState
  deriving DecidableEq

inductive ProcessState
  | creating | active | terminating | zombie | reclaiming | free
  deriving DecidableEq

/-- A process with the root of its address space. -/
structure ProcessSlot where
  occupied : Bool
  id : ℕ
  state : ProcessState
  addressSpace : PhysFrame
  deriving DecidableEq

/-- Why the kernel stopped. -/
inductive Halt
  | panic | hang
  deriving DecidableEq

/-- The computation has no loop that fails to end, and its result is in `Q`. -/
def Ends {α : Type} (Q : α → Prop) (x : Except Halt α) : Prop :=
  Lib.Run.Holds (· = .panic) Q x

/-- The tables. Two fields record the past, and the kernel does not read them: the flag `saturated` is
set when a saturating subtraction from a reference counter meets zero, and `shmFreed` holds every
frame that the reclamation of a shared-memory object gave back, with the page tables of that
moment. -/
structure Kernel where
  entry : Slot → HandleEntry
  count : PSlot → ℕ
  node : Slot → CapabilityNode
  nextCapabilityId : ℕ
  object : ObjIdx → KernelObjectSlot
  nextObjectId : ℕ
  channel : ℕ → Channel
  threadIpc : TSlot → ThreadIpcState
  shm : ℕ → ShmObject
  mapping : Fin 64 → ShmMapping
  pmm : Pmm
  geometry : AddressSpaceGeometry
  pageTable : PhysFrame → PageTable
  thread : TSlot → KernelThread
  process : PSlot → ProcessSlot
  saturated : Bool
  shmFreed : List (PhysFrame × (PhysFrame → PageTable))

def Kernel.setChannel (k : Kernel) (c : ℕ) (ch : Channel) : Kernel :=
  { k with channel := update k.channel c ch }

/-- The tables at boot, with the given memory, threads and processes. -/
def Kernel.boot (pmm : Pmm) (geometry : AddressSpaceGeometry) (pageTable : PhysFrame → PageTable)
    (thread : TSlot → KernelThread) (process : PSlot → ProcessSlot) : Kernel :=
  { entry := fun _ => .empty, count := fun _ => 0, node := fun _ => .empty, nextCapabilityId := 1,
    object := fun _ => .empty, nextObjectId := 1, channel := fun _ => .empty,
    threadIpc := fun _ => { occupied := false, objectIndex := 0 }, shm := fun _ => .empty,
    mapping := fun _ => .empty, pmm := pmm, geometry := geometry, pageTable := pageTable,
    thread := thread, process := process, saturated := false, shmFreed := [] }

end ProjectZero.Tables
