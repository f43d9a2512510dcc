import ProjectZero.Ipc.Footprint

/-! # Steps that leave the memory alone

Handles, channels, threads and pins have nothing to do with page tables and frames: the operations on
them leave the frame allocator, the page tables and the tables of shared memory as they are, and make
no shared-memory object. -/

namespace ProjectZero.Ipc.Still

open Tables Object Accounts Footprint

variable {A : Kind → Prop} {k k' k₁ k₂ k₃ : Kernel}

def IsShm (k : Kernel) (i : ObjIdx) : Prop :=
  (k.object i).occupied ∧ (k.object i).objType = .shmObject

/-- The tables that the memory of the processes depends on. -/
structure Books where
  geometry : AddressSpaceGeometry
  pmm : Pmm
  pageTable : PhysFrame → PageTable
  shm : ℕ → ShmObject
  mapping : Fin 64 → ShmMapping
  shmFreed : List (PhysFrame × (PhysFrame → PageTable))
  occupied : PSlot → Bool
  id : PSlot → ℕ
  root : PSlot → PhysFrame

def books (k : Kernel) : Books where
  geometry := k.geometry
  pmm := k.pmm
  pageTable := k.pageTable
  shm := k.shm
  mapping := k.mapping
  shmFreed := k.shmFreed
  occupied p := (k.process p).occupied
  id p := (k.process p).id
  root p := (k.process p).addressSpace

/-- The memory is left alone, and no shared-memory object is made. -/
structure Quiet (k k' : Kernel) : Prop where
  same : books k' = books k
  object : ∀ i, IsShm k' i → IsShm k i ∧ (k'.object i).poolIndex = (k.object i).poolIndex

lemma Quiet.refl (k : Kernel) : Quiet k k := ⟨rfl, fun _ h => ⟨h, rfl⟩⟩

lemma Quiet.trans (h : Quiet k₁ k₂) (h' : Quiet k₂ k₃) : Quiet k₁ k₃ where
  same := h'.same.trans h.same
  object i hi :=
    ⟨(h.object i (h'.object i hi).1).1, (h'.object i hi).2.trans (h.object i (h'.object i hi).1).2⟩

lemma Quiet.of_alike (hb : books k' = books k) (ha : Alike k.object k'.object) : Quiet k k' where
  same := hb
  object i hi := ⟨⟨(ha i).1.symm.trans hi.1, (ha i).2.1.symm.trans hi.2⟩, (ha i).2.2.2⟩

/-- One slot of the object table has a new content that is not shared memory. -/
lemma Quiet.of_update {i : ObjIdx} {o : KernelObjectSlot} (hb : books k' = books k)
    (ho : k'.object = update k.object i o)
    (hnot : ¬(o.occupied ∧ o.objType = .shmObject)) : Quiet k k' where
  same := hb
  object j hj := by
    unfold IsShm at hj ⊢
    rw [ho] at hj ⊢
    by_cases hji : j = i
    · subst hji
      rw [update_self] at hj
      exact absurd hj hnot
    rw [update_of_ne hji] at hj ⊢
    exact ⟨hj, rfl⟩

lemma books_of_spaces (h : SameSpaces k.process k'.process)
    (hr : k' = { k with thread := k'.thread, channel := k'.channel, process := k'.process }) :
    books k' = books k := by
  have hproc : ∀ p, (k'.process p).occupied = (k.process p).occupied ∧
      (k'.process p).id = (k.process p).id ∧
      (k'.process p).addressSpace = (k.process p).addressSpace := by
    intro p
    rw [h p]
    exact ⟨rfl, rfl, rfl⟩
  unfold books
  simp only [hproc]
  rw [hr]

lemma Quiet.of_change (hm : ¬A .memory) (hs : ¬A (.create .shmObject)) (h : Change A k k') :
    Quiet k k' := by
  cases h with
  | headers alike rest => exact .of_alike (by rw [rest]; rfl) alike
  | handles a edit rest => exact .of_alike (by rw [rest]; rfl) (by rw [rest]; exact .refl _)
  | dropRef | wake | close => exact .of_alike rfl (.refl _)
  | free | reclaim => exact .of_update rfl rfl (by simp [freed])
  | memory a alike rest => exact absurd a hm
  | channel a new n => exact .of_update rfl rfl (by simp [new.objType])
  | shm a new n s => exact absurd a hs
  | traffic a c thread flags => exact .of_alike rfl (.refl _)
  | threads a flags to1 to0 spaces rest =>
    exact .of_alike (books_of_spaces spaces rest) (by rw [rest]; exact .refl _)

lemma Quiet.of_moves (hm : ¬A .memory) (hs : ¬A (.create .shmObject)) (h : Moves A k k') :
    Quiet k k' := h.lift .refl .trans (.of_change hm hs)

end ProjectZero.Ipc.Still
