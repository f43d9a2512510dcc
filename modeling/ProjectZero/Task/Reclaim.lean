import ProjectZero.Task.Descriptors

/-! # Reclaiming a process

`reclaim_process_resources_locked` takes a dead process apart: the stacks and descriptors of its
threads, the pages its companion memory map records, and its page tables. The page table it unmaps
from is the one in `CR3` when it is called, whichever process that belongs to. -/

namespace ProjectZero.Task.Reclaim

open Tables Mm.Spaces Process Descriptors Elf.Mmap

/-! ### Threads -/

variable (σ : Machine)

/-- `destroy_thread_stack` in the page table `root`. -/
def destroyThreadStack (root : PhysFrame) (t : TSlot) : Machine :=
  if (σ.threadInfo t).guardPage ≠ 0 then
    let σ := destroyStack σ root (σ.threadInfo t).guardPage
    let info := { σ.threadInfo t with guardPage := 0, stackTop := 0 }
    { σ with threadInfo := update σ.threadInfo t info }
  else σ

def freeDescriptor (t : TSlot) : Machine :=
  { σ with
    thread := update σ.thread t { σ.thread t with occupied := false, state := .free }
    threadInfo := update σ.threadInfo t
      { σ.threadInfo t with id := 0, isDetached := false, zombieQueued := false } }

/-- The thread in the slot `t`, if it is one of the process. -/
def reclaimThread (pid : ℕ) (root : PhysFrame) (σ : Machine) (t : TSlot) : Machine :=
  if (σ.thread t).occupied && (σ.thread t).processId = pid then
    freeDescriptor (destroyThreadStack σ root t) t
  else σ

/-! ### The process -/

/-- The memory map of the process is released from the page table `root`. -/
def reclaimPages (pid : ℕ) (root : PhysFrame) : Machine :=
  match findProcess σ.toKernel pid with
  | none => σ
  | some s =>
    let r := reclaimProcessMemoryMapLocked σ.geometry root (σ.memoryMap s) σ.memory
    { σ.setMemory r.2 with memoryMap := update σ.memoryMap s r.1 }

/-- The first place that holds the process is not occupied any more. -/
def vacate (process : PSlot → ProcessSlot) (pid : ℕ) : PSlot → ProcessSlot :=
  match (List.finRange 16).find? fun q => (process q).occupied && (process q).id = pid with
  | none => process
  | some q => update process q { process q with occupied := false }

def reclaimProcessResourcesLocked (p : PSlot) : Except Halt Machine :=
  let pid := (σ.process p).id
  if pid = 0 ∨ (σ.processInfo p).threadCount ≠ 0 then .error .panic
  else do
    let apt := σ.cr3
    let σ := (List.finRange 16).foldl (reclaimThread pid apt) σ
    let σ := if σ.cr3 = (σ.process p).addressSpace then { σ with cr3 := σ.masterPml4 } else σ
    let σ := reclaimPages σ pid apt
    let (cr3, m) ← destroy σ.geometry σ.masterPml4 σ.cr3 (σ.process p).addressSpace σ.memory
    let σ := { σ.setMemory m with cr3 := cr3 }
    let process := update σ.process p
      { σ.process p with addressSpace := 0, state := .free }
    .ok { σ with process := vacate process pid }

end ProjectZero.Task.Reclaim
