import ProjectZero.Ipc.Channel
import ProjectZero.Mm.Vmm

/-! # Shared memory

`shm_create`, `shm_map`, `shm_unmap` and `shm_close`, called by the thread `t`. The page table a call
works on is the active one, the address space of the calling thread's process. -/

namespace ProjectZero.Ipc.Shm

open Tables Mm.Pmm Mm.Vmm Cap.Ops Object Ipc.Handle Ipc.Channel

variable (k : Kernel)

def memory : Memory := { pmm := k.pmm, table := k.pageTable }

def setMemory (m : Memory) : Kernel := { k with pmm := m.pmm, pageTable := m.table }

/-! ### Creation and close -/

def shmRights : Rights :=
  HandleRights.read ||| HandleRights.write ||| HandleRights.mapRo ||| HandleRights.mapRw |||
    HandleRights.transfer ||| HandleRights.duplicate ||| CapRights.shmMapRead |||
    CapRights.shmMapWrite ||| CapRights.shmUnmap ||| CapRights.duplicate ||| CapRights.transfer |||
    CapRights.revoke ||| CapRights.close ||| CapRights.inspect ||| CapRights.audit

/-- The frame is cleared through the direct map, as far as that reaches. -/
def clearFrame (m : Memory) (f : PhysFrame) : Memory :=
  if f < 0x40000000 then m.zero f else m

/-- `n` frames, cleared, or none at all. -/
def allocateFrames (m : Memory) : ℕ → List PhysFrame → Option (List PhysFrame) × Memory
  | 0, frames => (some frames, m)
  | n + 1, frames =>
    match allocFrame m.pmm with
    | (none, pmm) => (none, { m with pmm := freeFrames pmm frames })
    | (some f, pmm) => allocateFrames (clearFrame { m with pmm := pmm } f) n (frames ++ [f])

/-- The first free entry of `SHM_TABLE`. -/
def findShm : Option ℕ :=
  (List.range 64).find? fun c => (k.shm c).pageCount = 0 && poolFree k .shmObject c

/-- The frames go back, and the call fails. -/
def failFreeing {α : Type} (e : IpcError) (frames : List PhysFrame) (k : Kernel) : Outcome α :=
  fail e { k with pmm := freeFrames k.pmm frames }

/-- The handle of the new shared-memory object `i`, with the entry `c` of `SHM_TABLE`; what was made
is taken back on an error. -/
def shmHandle (p : PSlot) (i : ObjIdx) (c : ℕ) (frames : List PhysFrame) :
    Except Halt (Except IpcError Handle × Kernel) := do
  let (r, k) ← allocateHandleEntryLocked k p i shmRights 0
  match r with
  | .error e => do
    let k ← freeObjectSlotLocked k i
    failFreeing e frames { k with shm := update k.shm c .empty }
  | .ok h => done h k

/-- The object and the handle for the frames of a new shared-memory object. -/
def shmObject (p : PSlot) (pid pageCount : ℕ) (frames : List PhysFrame) :
    Except Halt (Except IpcError Handle × Kernel) :=
  match findShm k with
  | none => failFreeing .shmTableFull frames k
  | some c =>
    match allocateObjectSlotLocked k .shmObject c pid with
    | (.error e, k) => failFreeing e frames k
    | (.ok i, k) =>
      let shm : ShmObject :=
        { pageCount := pageCount, frames := fun n => frames.getD n 0, creatorPid := pid }
      shmHandle { k with shm := update k.shm c shm } p i c frames

lemma shmObject_cases (p : PSlot) (pid pageCount : ℕ) (frames : List PhysFrame) :
    (∃ e n, shmObject k p pid pageCount frames =
      failFreeing e frames { k with nextObjectId := n }) ∨
    ∃ i o n, NewObject k .shmObject i o ∧ shmObject k p pid pageCount frames = shmHandle { k with
        nextObjectId := n, object := update k.object i o
        shm := update k.shm o.poolIndex
          { pageCount := pageCount, frames := fun n => frames.getD n 0, creatorPid := pid } }
        p i o.poolIndex frames := by
  unfold shmObject
  split
  · exact .inl ⟨_, k.nextObjectId, rfl⟩
  rename_i c hc
  have hfind := List.find?_some hc
  simp only [Bool.and_eq_true] at hfind
  rcases allocateObjectSlot_cases k .shmObject c pid with
    ⟨e, n, he⟩ | ⟨i, o, n, hi, hocc, hot, rfl, hor, he⟩
  · exact .inl ⟨e, n, by rw [he]⟩
  · exact .inr ⟨i, o, n, ⟨hi, hocc, hot, hor, hfind.2⟩, by rw [he]⟩

def shmCreate (t : TSlot) (pageCount : ℕ) :
    Except Halt (Except IpcError Handle × Kernel) :=
  if pageCount = 0 ∨ 16 < pageCount then fail .badMessageSize k
  else
    match resolveCurrentProcessSlot k (k.thread t).processId with
    | .error e => fail e k
    | .ok p =>
      match allocateFrames (memory k) pageCount [] with
      | (none, m) => fail .pmmExhausted (setMemory k m)
      | (some frames, m) => shmObject (setMemory k m) p (k.thread t).processId pageCount frames

def shmClose (t : TSlot) (h : Handle) : Except Halt (Except IpcError Unit × Kernel) :=
  match resolveCurrentProcessSlot k (k.thread t).processId with
  | .error e => fail e k
  | .ok p => do
    let (r, k) ← closeHandleLocked k p h
    match r with
    | .error e => fail e k
    | .ok (i, _) => do
      let k ← checkAndReclaimShmLocked k i
      done () k

/-! ### Mapping -/

def mapRights (writable : Bool) : Rights :=
  if writable then HandleRights.mapRw ||| CapRights.shmMapWrite
  else HandleRights.mapRo ||| CapRights.shmMapRead

def mapFlags (writable : Bool) : BitVec 64 :=
  let flags := PageTableFlags.present ||| PageTableFlags.userAccessible ||| PageTableFlags.noExecute
  if writable then flags ||| PageTableFlags.writable else flags

/-- The address of the page `n` of a mapping. -/
def pageAddr (vaddr : VirtualAddress) (n : ℕ) : VirtualAddress := vaddr + n * pageSize

variable (g : AddressSpaceGeometry) (root : PhysFrame)

/-- The pages below `n` are unmapped again; the address of each of them was accepted before. -/
def unmapPrevious (vaddr : VirtualAddress) (n : ℕ)
    (m : Memory) : Except Halt Memory :=
  (List.range n).foldlM (fun m j =>
    match pageFromStartAddress g (pageAddr vaddr j) with
    | .error _ => .error .panic
    | .ok page => .ok (unmapPage g root page m).2) m

/-- The loop over the pages from `n` on. A page that cannot be mapped undoes the ones before it; an
address that is not a page's leaves the loop at once. -/
def mapPages (vaddr : VirtualAddress)
    (flags : BitVec 64) :
    List PhysFrame → ℕ → Memory → Except Halt (Except IpcError Unit × Memory)
  | [], _, m => .ok (.ok (), m)
  | f :: frames, n, m =>
    match pageFromStartAddress g (pageAddr vaddr n) with
    | .error _ => .ok (.error .invalidAddress, m)
    | .ok page => do
      let (r, m) ← mapPage g root page f flags .user m
      match r with
      | .error _ => do
        let m ← unmapPrevious g root vaddr n m
        .ok (.error .vmmError, m)
      | .ok () => mapPages vaddr flags frames (n + 1) m

/-- The mapping of `i` is entered in the slot `j` of `SHM_MAPPING_TABLE`. -/
def recordMapping (j : Fin 64) (i : ObjIdx) (rights : Rights)
    (pid : ℕ) (vaddr : VirtualAddress) (pageCount : ℕ) : Kernel :=
  let mapping : ShmMapping :=
    { occupied := true, objectIndex := i, objectGeneration := (k.object i).generation,
      rights := rights, processId := pid, virtualBase := vaddr, pageCount := pageCount }
  let header := (k.object i).header
  let o := { k.object i with header := { header with mappingRefs := header.mappingRefs + 1 } }
  { k with
    mapping := update k.mapping j mapping
    object := update k.object i o }

def shmMap (t : TSlot) (h : Handle) (vaddr : VirtualAddress) (writable : Bool) :
    Except Halt (Except IpcError Unit × Kernel) :=
  if vaddr % 4096 ≠ 0 ∨ 0x0000800000000000 ≤ vaddr then fail .invalidAddress k
  else
    match resolveCurrentProcessSlot k (k.thread t).processId with
    | .error e => fail e k
    | .ok p =>
      match validateHandleLocked k p h 0 with
      | .error e => fail e k
      | .ok (i, _, rights) =>
        if rights &&& mapRights writable = 0 then fail .permissionDenied k
        else if (k.object i).objType ≠ .shmObject then .error .panic
        else
          match (List.finRange 64).find? fun j => !(k.mapping j).occupied with
          | none => fail .mappingTableFull k
          | some j => do
            let shm := k.shm (k.object i).poolIndex
            let (r, m) ← mapPages k.geometry (k.process p).addressSpace vaddr (mapFlags writable)
              shm.pages 0 (memory k)
            match r with
            | .error e => fail e (setMemory k m)
            | .ok () => done () (recordMapping (setMemory k m) j i (mapRights writable)
                (k.thread t).processId vaddr shm.pageCount)

/-! ### Unmapping -/

/-- The pages of a mapping are unmapped, as far as they are mapped. -/
def unmapRange (vaddr : VirtualAddress)
    (pageCount : ℕ) (m : Memory) : Memory :=
  (List.range pageCount).foldl (fun m n =>
    match pageFromStartAddress g (pageAddr vaddr n) with
    | .error _ => m
    | .ok page => (unmapPage g root page m).2) m

/-- The mapping in the slot `j`, of the object `i`, is taken out of the page table `root` and of
`SHM_MAPPING_TABLE`. -/
def dropMapping (j : Fin 64) : Except Halt Kernel :=
  let mapping := k.mapping j
  let m := unmapRange k.geometry root mapping.virtualBase mapping.pageCount (memory k)
  let k := dropMappingRef { setMemory k m with
    mapping := update k.mapping j { mapping with occupied := false } } mapping.objectIndex
  checkAndReclaimShmLocked k mapping.objectIndex

def shmUnmap (t : TSlot) (h : Handle) (vaddr : VirtualAddress) :
    Except Halt (Except IpcError Unit × Kernel) :=
  match resolveCurrentProcessSlot k (k.thread t).processId with
  | .error e => fail e k
  | .ok p =>
    match (List.finRange 64).find? fun j => (k.mapping j).occupied &&
        (k.mapping j).processId = (k.thread t).processId && (k.mapping j).virtualBase = vaddr with
    | none => fail .invalidAddress k
    | some j =>
      let i := (k.mapping j).objectIndex
      if (k.object i).occupied = false ∨
          (k.object i).generation ≠ (k.mapping j).objectGeneration then fail .invalidHandle k
      else
        -- a handle that is not valid any more does not stop the call
        match validateHandleLocked k p h 0 with
        | .ok (i', _, _) =>
          if i' ≠ i then fail .permissionDenied k
          else do
            let k ← dropMapping k (k.process p).addressSpace j
            done () k
        | .error _ => do
          let k ← dropMapping k (k.process p).addressSpace j
          done () k

end ProjectZero.Ipc.Shm
