import ProjectZero.Mm.Pmm

/-! # Kernel objects: allocation, wake-up, reclamation

The slots of `KERNEL_OBJECT_TABLE`, the wake-up of threads that wait on a channel, and the two checks
that free an object with its pool entry when no reference is left. -/

namespace ProjectZero.Ipc.Object

open Lib.Run Tables Mm.Pmm

/-! ### Object slots -/

def allocateObjectId (k : Kernel) : Except IpcError ℕ × Kernel :=
  if k.nextObjectId = 2 ^ 64 - 1 then (.error .objectIdExhausted, k)
  else (.ok k.nextObjectId, { k with nextObjectId := k.nextObjectId + 1 })

def allocateObjectSlotLocked (k : Kernel) (objType : KernelObjectType)
    (poolIndex creatorPid : ℕ) : Except IpcError ObjIdx × Kernel :=
  match allocateObjectId k with
  | (.error e, k) => (.error e, k)
  | (.ok objectId, k) =>
    match (List.finRange 256).find? fun i => !(k.object i).occupied with
    | none => (.error .objectTableFull, k)
    | some i =>
      let header : KernelObjectHeader :=
        { objectId := objectId, creatorPid := creatorPid, handleRefs := 0, mappingRefs := 0,
          inFlightOpRefs := 0, state := .active, signals := 0 }
      let slot : KernelObjectSlot :=
        { occupied := true, objType := objType, generation := (k.object i).generation,
          poolIndex := poolIndex, header := header }
      (.ok i, { k with object := update k.object i slot })

/-- The slot after its object is freed. -/
def freed (o : KernelObjectSlot) : KernelObjectSlot :=
  { o with generation := bumpGeneration o.generation, occupied := false, objType := .free,
           header := .empty }

def freeObjectSlotLocked (k : Kernel) (i : ObjIdx) : Except Halt Kernel :=
  if (k.object i).occupied then
    .ok { k with object := update k.object i (freed (k.object i)) }
  else .error .panic

/-- `handle_refs.saturating_sub(1)` on the object `i`. -/
def dropHandleRef (k : Kernel) (i : ObjIdx) : Kernel :=
  { k with
    object := update k.object i
      { k.object i with
        header := { (k.object i).header with handleRefs := (k.object i).header.handleRefs - 1 } }
    saturated := k.saturated || decide ((k.object i).header.handleRefs = 0) }

/-- `mapping_refs.saturating_sub(1)` on the object `i`. -/
def dropMappingRef (k : Kernel) (i : ObjIdx) : Kernel :=
  { k with
    object := update k.object i
      { k.object i with
        header := { (k.object i).header with mappingRefs := (k.object i).header.mappingRefs - 1 } }
    saturated := k.saturated || decide ((k.object i).header.mappingRefs = 0) }

/-- `in_flight_op_refs.saturating_sub(1)` on the object `i`. -/
def dropInFlightOpRef (k : Kernel) (i : ObjIdx) : Kernel :=
  { k with
    object := update k.object i
      { k.object i with
        header := { (k.object i).header with
                    inFlightOpRefs := (k.object i).header.inFlightOpRefs - 1 } }
    saturated := k.saturated || decide ((k.object i).header.inFlightOpRefs = 0) }

/-! ### Wake-up -/

/-- The thread `t` enters the state `st`. -/
def setThreadState (k : Kernel) (t : TSlot) (st : ThreadState) : Kernel :=
  { k with thread := update k.thread t { k.thread t with state := st } }

lemma setThreadState_of_ne {k : Kernel} {t u : TSlot} {st : ThreadState} (h : u ≠ t) :
    (setThreadState k t st).thread u = k.thread u := update_of_ne h _ _

def wakeThreadLocked (k : Kernel) (t : TSlot) : Except Halt Kernel :=
  if (k.thread t).state = .blocked then .ok (setThreadState k t .ready) else .error .panic

/-- Pop and wake every waiter of the channel, the own endpoint's first. -/
def wakeAllWaiters (k : Kernel) (chIdx endpoint : ℕ) : Except Halt Kernel := do
  let my := (k.channel chIdx).mine endpoint
  let peer := (k.channel chIdx).peer endpoint
  let k ← (my.waitersRx ++ my.waitersTx ++ peer.waitersRx ++ peer.waitersTx).foldlM
    wakeThreadLocked k
  .ok (k.setChannel chIdx (k.channel chIdx).drain)

/-! ### Reclamation -/

def checkAndReclaimChannelLocked (k : Kernel) (i : ObjIdx) : Except Halt Kernel :=
  let o := k.object i
  if o.occupied = false ∨ o.objType ≠ .channel then .ok k
  else if o.header.refCount = 0 ∧ (k.channel o.poolIndex).idle then
    freeObjectSlotLocked (k.setChannel o.poolIndex .empty) i
  else .ok k

def checkAndReclaimShmLocked (k : Kernel) (i : ObjIdx) : Except Halt Kernel :=
  let o := k.object i
  if o.occupied = false ∨ o.objType ≠ .shmObject then .ok k
  else if o.header.refCount = 0 then
    let frames := (k.shm o.poolIndex).pages
    freeObjectSlotLocked { k with
      pmm := freeFrames k.pmm frames
      shm := update k.shm o.poolIndex .empty
      shmFreed := frames.map (·, k.pageTable) ++ k.shmFreed } i
  else .ok k

/-- The thread `t` is not in flight any more, and the object `i` loses a pin. -/
def dropPin (k : Kernel) (t : TSlot) (i : ObjIdx) : Kernel :=
  dropInFlightOpRef { k with
    threadIpc := update k.threadIpc t { k.threadIpc t with occupied := false } } i

def releaseInFlightPinLocked (k : Kernel) (t : TSlot) (i : ObjIdx) : Except Halt Kernel :=
  if (k.threadIpc t).occupied then checkAndReclaimChannelLocked (dropPin k t i) i else .ok k

/-! ### What these functions leave alone -/

/-- The handle tables and the derivation tree are the same. -/
structure SameHandles (k k' : Kernel) : Prop where
  entry : k'.entry = k.entry
  node : k'.node = k.node
  count : k'.count = k.count

lemma SameHandles.refl (k : Kernel) : SameHandles k k := ⟨rfl, rfl, rfl⟩

lemma SameHandles.trans {k₁ k₂ k₃ : Kernel} (h₁ : SameHandles k₁ k₂) (h₂ : SameHandles k₂ k₃) :
    SameHandles k₁ k₃ :=
  ⟨h₂.entry.trans h₁.entry, h₂.node.trans h₁.node, h₂.count.trans h₁.count⟩

section

variable (k : Kernel)

include k

lemma freeObjectSlot_same (i : ObjIdx) : Ends (SameHandles k) (freeObjectSlotLocked k i) := by
  unfold freeObjectSlotLocked
  split
  · exact ⟨rfl, rfl, rfl⟩
  · rfl

lemma wakeThread_same (t : TSlot) : Ends (SameHandles k) (wakeThreadLocked k t) := by
  unfold wakeThreadLocked
  split
  · exact ⟨rfl, rfl, rfl⟩
  · rfl

lemma wakeAllWaiters_same (chIdx endpoint : ℕ) :
    Ends (SameHandles k) (wakeAllWaiters k chIdx endpoint) := by
  refine .bind (P := SameHandles k) ?_ fun k' h => h.trans ⟨rfl, rfl, rfl⟩
  exact holds_foldlM (fun k' t h => (wakeThread_same k' t).mono fun _ => h.trans) _ (.refl k)

lemma reclaimChannel_same (i : ObjIdx) :
    Ends (SameHandles k) (checkAndReclaimChannelLocked k i) := by
  unfold checkAndReclaimChannelLocked
  simp only
  split
  · exact .refl k
  split
  · exact (freeObjectSlot_same _ i).mono fun _ h => ⟨h.entry, h.node, h.count⟩
  · exact .refl k

lemma reclaimShm_same (i : ObjIdx) : Ends (SameHandles k) (checkAndReclaimShmLocked k i) := by
  unfold checkAndReclaimShmLocked
  simp only
  split
  · exact .refl k
  split
  · exact (freeObjectSlot_same _ i).mono fun _ h => ⟨h.entry, h.node, h.count⟩
  · exact .refl k

/-! ### What the allocation of an object does -/

lemma allocateObjectSlot_cases (objType : KernelObjectType) (poolIndex creatorPid : ℕ) :
    (∃ e n, allocateObjectSlotLocked k objType poolIndex creatorPid =
      (.error e, { k with nextObjectId := n })) ∨
    ∃ i o n, (k.object i).occupied = false ∧ o.occupied ∧ o.objType = objType ∧
      o.poolIndex = poolIndex ∧ o.header.refCount = 0 ∧
      allocateObjectSlotLocked k objType poolIndex creatorPid =
        (.ok i, { k with nextObjectId := n, object := update k.object i o }) := by
  unfold allocateObjectSlotLocked allocateObjectId
  split
  next h =>
    split at h
    · cases h
      exact .inl ⟨_, k.nextObjectId, rfl⟩
    · cases h
  rename_i h
  split at h
  · cases h
  cases h
  split
  · exact .inl ⟨_, _, rfl⟩
  rename_i i hi
  have hfree := List.find?_some hi
  exact .inr ⟨i, _, _, by simpa using hfree, rfl, rfl, rfl, rfl, rfl⟩

end

end ProjectZero.Ipc.Object
