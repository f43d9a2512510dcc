import ProjectZero.Elf.Mmap
import ProjectZero.Mm.Spaces
import ProjectZero.Task.Process

/-! # Processes, threads and their memory

The machine is the kernel's tables with the rest of the process and thread descriptors, the roots in
`CR3` and `MASTER_KERNEL_PML4`, the stack arena and the companion memory maps. -/

namespace ProjectZero.Task.Descriptors

open Tables Mm.Pmm Mm.Vmm Mm.Spaces Elf.Mmap

/-! ### The machine -/

/-- What a process descriptor holds beyond its `ProcessSlot`. -/
structure ProcessInfo where
  isDetached : Bool
  zombieQueued : Bool
  exitCode : ℤ
  threadCount : ℕ
  parentPid : ℕ
  nextSibling : Option PSlot
  firstChild : Option PSlot
  completed : Bool

/-- What a thread descriptor holds beyond its `KernelThread`. -/
structure ThreadInfo where
  id : ℕ
  isDetached : Bool
  zombieQueued : Bool
  exitCode : ℤ
  savedRsp : ℕ
  stackTop : ℕ
  guardPage : ℕ
  stackFrames : Fin 4 → PhysFrame

/-- The tables of the kernel with the memory behind processes and threads. The counters of the
identifiers do not wrap, where the source has 64 bits. -/
structure Machine extends Kernel where
  cr3 : PhysFrame
  masterPml4 : PhysFrame
  nextProcessId : ℕ
  nextThreadId : ℕ
  processInfo : PSlot → ProcessInfo
  threadInfo : TSlot → ThreadInfo
  stackSlots : Fin 64 → Bool
  memoryMap : PSlot → ProcessMemoryMap

variable (σ : Machine)

def Machine.memory : Memory := { pmm := σ.pmm, table := σ.pageTable }

def Machine.setMemory (m : Memory) : Machine :=
  { σ with pmm := m.pmm, pageTable := m.table }

/-! ### Processes -/

inductive ProcessError
  | tableFull | processNotFound | vmmError (e : VmmError) | selfJoin | alreadyReclaimed
  | invalidHandle | invalidState
  deriving DecidableEq

/-- A handle: the identifier of the process, and its place in `PROCESS_TABLE`. -/
structure ProcessHandle where
  pid : ℕ
  process : PSlot
  deriving DecidableEq

def freeProcessSlot (k : Kernel) : Option PSlot :=
  (List.finRange 16).find? fun p => p ≠ 0 && !(k.process p).occupied

/-- The entry as `create_process` leaves it. -/
def scrubbedEntry (e : HandleEntry) : HandleEntry :=
  { objectIndex := 0, handleGeneration := bumpGeneration e.handleGeneration, objectGeneration := 0,
    rights := 0, endpoint := 0, occupied := false }

/-- The handle table and the capability nodes of the slot are scrubbed. -/
def scrubHandles (k : Kernel) (p : PSlot) : Kernel :=
  { k with
    entry := fun s => if s.1 = p then scrubbedEntry (k.entry s) else k.entry s
    count := update k.count p 0
    node := fun s => if s.1 = p then .empty else k.node s }

/-- The new process is the first child of the process `parentPid`, if there is one. -/
def linkChild (p : PSlot) (parentPid : ℕ) : PSlot → ProcessInfo :=
  match (List.finRange 16).find? fun q =>
      (σ.process q).occupied && (σ.process q).id = parentPid with
  | none => σ.processInfo
  | some q =>
    let info := update σ.processInfo p
      { σ.processInfo p with nextSibling := (σ.processInfo q).firstChild }
    update info q { info q with firstChild := some p }

/-- The descriptor of the new process in the slot `p`. -/
def enterProcess (p : PSlot) (parentPid : ℕ) (root : PhysFrame) : Machine :=
  let slot : ProcessSlot :=
    { occupied := true, id := σ.nextProcessId, state := .active, addressSpace := root }
  let info : ProcessInfo :=
    { isDetached := false, zombieQueued := false, exitCode := 0, threadCount := 0,
      parentPid := parentPid, nextSibling := none, firstChild := none, completed := false }
  let σ := { σ with
    process := update σ.process p slot
    processInfo := update σ.processInfo p info
    nextProcessId := σ.nextProcessId + 1 }
  { σ with toKernel := scrubHandles σ.toKernel p, processInfo := linkChild σ p parentPid }

/-! ### Kernel stacks -/

def stackArenaStart : ℕ := 0xFFFFFFFF90000000
def stackSlotSize : ℕ := 0x5000
def stackGuardSize : ℕ := 0x1000
def stackPageCount : ℕ := 4

variable (g : AddressSpaceGeometry) (root : PhysFrame) (start : VirtualAddress)

/-- One page of a stack is unmapped, and its frame is freed. -/
def releaseStackPage
    (m : Memory) (k : ℕ) : Memory :=
  match pageFromStartAddress g (start + k * pageSize) with
  | .error _ => m
  | .ok page =>
    match unmapPage g root page m with
    | (.error _, m) => m
    | (.ok frame, m) => { m with pmm := (freeFrame m.pmm frame).2 }

/-- `StackAllocation::destroy` of the stack above the guard page; only the slots that the arena has
are marked free. -/
def destroyStack (guardPage : VirtualAddress) : Machine :=
  let m := (List.range stackPageCount).foldl
    (releaseStackPage σ.geometry root (guardPage + stackGuardSize)) σ.memory
  let slot := (guardPage - stackArenaStart) / stackSlotSize
  { σ.setMemory m with stackSlots := fun s => if s.val = slot then false else σ.stackSlots s }

end ProjectZero.Task.Descriptors
