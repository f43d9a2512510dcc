import ProjectZero.Fs.Calls

/-! # Volumes by their structures

The inode table and the two bitmaps of a volume as functions of their own, how they change, and what
each function of `InodeManager` does in these terms when it is run on a volume. -/

namespace ProjectZero.Fs.Inspect

open Lib.Layout Fs.Types Store Inode Journal

variable {s : Volume} {d : DeviceId} {n m : BitVec 32} {b : ℕ}

/-! ### Block numbers -/

lemma isSlot_iff (n : BitVec 32) : IsSlot n ↔ ¬(n = 0 ∨ n.toNat ≥ maxInodes) := by
  simp [IsSlot, not_or]

lemma inData_iff (l : BitVec 32) :
    InData l ↔ ¬(l.toNat < dataBlockStart ∨ l.toNat ≥ maxVolumeBlocks) := by
  simp [InData, not_or]

lemma tableBlock_lt (h : IsSlot n) : tableBlock n < 21 := by
  have := h.2
  simp only [tableBlock, maxInodes, inodeTableStart, inodesPerBlock] at *
  omega

lemma le_tableBlock (n : BitVec 32) : 5 ≤ tableBlock n := Nat.le_add_right _ _

lemma eq_of_table (hb : tableBlock n = tableBlock m) (hs : tableSlot n = tableSlot m) : n = m := by
  have hs' : n.toNat % 16 = m.toNat % 16 := by
    have := congrArg Fin.val hs
    simpa [tableSlot, inodesPerBlock] using this
  simp only [tableBlock, inodeTableStart, inodesPerBlock] at hb
  apply BitVec.eq_of_toNat_eq
  omega

lemma bitIdx_inj {i j : ℕ} (hi : i < 32768) (hj : j < 32768) : bitIdx i = bitIdx j ↔ i = j := by
  simp [bitIdx, Fin.ext_iff, Nat.mod_eq_of_lt hi, Nat.mod_eq_of_lt hj]

/-! ### The inode table -/

def inodeAt (s : Volume) (d : DeviceId) (n : BitVec 32) : DiskInode :=
  s.get d .inodes (tableBlock n) (tableSlot n)

def setInode (s : Volume) (d : DeviceId) (n : BitVec 32) (i : DiskInode) : Volume :=
  s.put d (tableBlock n) ((format .inodes).symm
    (update (s.get d .inodes (tableBlock n)) (tableSlot n) i))

variable (i : DiskInode)

@[simp] lemma objects_setInode : (setInode s d n i).objects = s.objects := rfl

@[simp] lemma inodeAt_setInode_self : inodeAt (setInode s d n i) d n = i := by
  rw [inodeAt, setInode, Volume.get_put_self, update_self]

lemma inodeAt_setInode_of_ne (hm : m ≠ n) (i : DiskInode) :
    inodeAt (setInode s d n i) d m = inodeAt s d m := by
  rw [inodeAt, inodeAt, setInode]
  by_cases hb : tableBlock m = tableBlock n
  · have hs : tableSlot m ≠ tableSlot n := fun hs => hm (eq_of_table hb hs)
    rw [hb, Volume.get_put_self, update_of_ne hs]
  · rw [Volume.get_put_of_ne hb]

lemma inodeAt_setInode (m : BitVec 32) :
    inodeAt (setInode s d n i) d m = update (inodeAt s d) n i m := by
  by_cases hm : m = n
  · subst hm
    simp
  · rw [inodeAt_setInode_of_ne hm, update_of_ne hm]

lemma blocks_setInode_of_ne (hb : b ≠ tableBlock n) (i : DiskInode) :
    (setInode s d n i).blocks d b = s.blocks d b := Volume.blocks_put_of_ne hb _

lemma get_setInode_of_ne (hb : b ≠ tableBlock n) (i : DiskInode) (k : Kind) :
    (setInode s d n i).get d k b = s.get d k b := Volume.get_put_of_ne hb _ k

lemma inodeAt_put_of_ne (hb : tableBlock n ≠ b) (x : Block) :
    inodeAt (s.put d b x) d n = inodeAt s d n := by
  rw [inodeAt, Volume.get_put_of_ne hb, inodeAt]

/-! ### The bitmaps -/

def inodeBits (s : Volume) (d : DeviceId) : Fin 32768 → Bool := s.get d .bitmap inodeBitmapBlock

def blockBits (s : Volume) (d : DeviceId) : Fin 32768 → Bool := s.get d .bitmap blockBitmapBlock

def setInodeBits (s : Volume) (d : DeviceId) (v : Fin 32768 → Bool) : Volume :=
  s.put d inodeBitmapBlock ((format .bitmap).symm v)

def setBlockBits (s : Volume) (d : DeviceId) (v : Fin 32768 → Bool) : Volume :=
  s.put d blockBitmapBlock ((format .bitmap).symm v)

variable {v : Fin 32768 → Bool}

@[simp] lemma objects_setBlockBits : (setBlockBits s d v).objects = s.objects := rfl

@[simp] lemma inodeBits_setInodeBits : inodeBits (setInodeBits s d v) d = v :=
  Volume.get_put_self _ _ _

@[simp] lemma blockBits_setBlockBits : blockBits (setBlockBits s d v) d = v :=
  Volume.get_put_self _ _ _

@[simp] lemma inodeBits_setBlockBits : inodeBits (setBlockBits s d v) d = inodeBits s d :=
  Volume.get_put_of_ne (by decide) _ _

@[simp] lemma blockBits_setInodeBits : blockBits (setInodeBits s d v) d = blockBits s d :=
  Volume.get_put_of_ne (by decide) _ _

@[simp] lemma inodeBits_setInode : inodeBits (setInode s d n i) d = inodeBits s d :=
  get_setInode_of_ne (by have := le_tableBlock n; simp [inodeBitmapBlock]; omega) _ _

@[simp] lemma blockBits_setInode : blockBits (setInode s d n i) d = blockBits s d :=
  get_setInode_of_ne (by have := le_tableBlock n; simp [blockBitmapBlock]; omega) _ _

@[simp] lemma inodeAt_setInodeBits : inodeAt (setInodeBits s d v) d n = inodeAt s d n :=
  inodeAt_put_of_ne (by have := le_tableBlock n; simp [inodeBitmapBlock]; omega) _

@[simp] lemma inodeAt_setBlockBits : inodeAt (setBlockBits s d v) d n = inodeAt s d n :=
  inodeAt_put_of_ne (by have := le_tableBlock n; simp [blockBitmapBlock]; omega) _

lemma inodeBits_put_of_ne (hb : b ≠ inodeBitmapBlock) (x : Block) :
    inodeBits (s.put d b x) d = inodeBits s d := Volume.get_put_of_ne hb.symm _ _

lemma blockBits_put_of_ne (hb : b ≠ blockBitmapBlock) (x : Block) :
    blockBits (s.put d b x) d = blockBits s d := Volume.get_put_of_ne hb.symm _ _

lemma get_setBlockBits_of_ne (hb : b ≠ blockBitmapBlock) (k : Kind) :
    (setBlockBits s d v).get d k b = s.get d k b := Volume.get_put_of_ne hb _ _

/-! ### Inodes -/

def Readable : Prop := i.fileType = InodeType.free.toU16 ∨ i.isValidChecksum
  deriving Decidable

/-- What `read_inode` finds. -/
def foundInode (s : Volume) (d : DeviceId) (n : BitVec 32) : Except FsError DiskInode :=
  if IsSlot n then
    if Readable (inodeAt s d n) then .ok (inodeAt s d n) else .error .corruptMetadata
  else .error .invalidArgument

@[simp] lemma exec_readInode : exec volume (readInode d n) s = (some (foundInode s d n), s) := by
  unfold readInode foundInode
  by_cases h : IsSlot n
  · rw [if_neg ((isSlot_iff n).mp h), if_pos h, exec_bind_ok (exec_readBlock _ _ _)]
    by_cases hr : Readable (inodeAt s d n)
    · rw [if_pos hr, if_neg]
      · rfl
      rintro ⟨ht, hc⟩
      rcases hr with hr | hr
      · exact ht hr
      · exact hc hr
    rw [if_neg hr, if_pos]
    · rfl
    · exact ⟨fun ht => hr (.inl ht), fun hc => hr (.inr hc)⟩
  have h' := h
  rw [isSlot_iff, not_not] at h'
  rw [if_neg h, if_pos h']
  rfl

lemma foundInode_eq_ok {i : DiskInode} (h : foundInode s d n = .ok i) :
    IsSlot n ∧ Readable i ∧ inodeAt s d n = i := by
  unfold foundInode at h
  split at h
  · split at h
    · cases h
      exact ⟨‹_›, ‹_›, rfl⟩
    · cases h
  · cases h

lemma exec_writeInode (h : IsSlot n) (i : DiskInode) :
    exec volume (writeInode d n i) s = (some (.ok ()), setInode s d n i.recomputeChecksum) := by
  unfold writeInode
  rw [if_neg ((isSlot_iff n).mp h), exec_bind_ok (exec_readBlock _ _ _)]
  rfl

/-- The first inode that is free. -/
def freeInodeNum (s : Volume) (d : DeviceId) : Option ℕ :=
  (List.range' 2 (maxInodes - 2)).find? fun idx => !inodeBits s d (bitIdx idx)

variable {idx lba : ℕ}

lemma freeInodeNum_eq_some (h : freeInodeNum s d = some idx) :
    2 ≤ idx ∧ idx < 256 ∧ inodeBits s d (bitIdx idx) = false := by
  have hp := List.find?_some h
  have hm := List.mem_of_find?_eq_some h
  rw [List.mem_range'_1] at hm
  simp only [maxInodes] at hm
  exact ⟨hm.1, by omega, by simpa using hp⟩

/-- The inode that `alloc_inode` writes. -/
def newInode (t : InodeType) (pid : BitVec 64) : DiskInode :=
  { DiskInode.empty with fileType := t.toU16, creatorPid := pid, linksCount := 1 }

lemma isSlot_ofNat (h2 : 2 ≤ idx) (h : idx < 256) : IsSlot (BitVec.ofNat 32 idx) := by
  have hn : (BitVec.ofNat 32 idx).toNat = idx := by
    rw [BitVec.toNat_ofNat]
    omega
  refine ⟨fun h0 => ?_, by rw [hn]; exact h⟩
  rw [h0] at hn
  simp at hn
  omega

lemma exec_allocInode_none (h : freeInodeNum s d = none) (t : InodeType) (pid : BitVec 64) :
    exec volume (allocInode d t pid) s = (some (.error .noInode), s) := by
  unfold allocInode
  rw [exec_bind_ok (exec_readBlock _ _ _)]
  simp only [freeInodeNum, inodeBits] at h
  rw [h]
  rfl

lemma exec_allocInode_some (h : freeInodeNum s d = some idx) (t : InodeType) (pid : BitVec 64) :
    exec volume (allocInode d t pid) s =
      (some (.ok (BitVec.ofNat 32 idx)),
        setInode (setInodeBits s d (update (inodeBits s d) (bitIdx idx) true)) d
          (BitVec.ofNat 32 idx) (newInode t pid).recomputeChecksum) := by
  obtain ⟨h2, h256, -⟩ := freeInodeNum_eq_some h
  unfold allocInode
  rw [exec_bind_ok (exec_readBlock _ _ _)]
  simp only [freeInodeNum, inodeBits] at h
  rw [h]
  rw [exec_bind_ok (exec_writeBlock _ _ _ _), exec_bind_ok (exec_writeInode (isSlot_ofNat h2 h256) _)]
  rfl

lemma exec_freeInode (h : IsSlot n) :
    exec volume (freeInode d n) s =
      (some (.ok ()), setInode
        (setInodeBits s d (update (inodeBits s d) (bitIdx n.toNat) false)) d n
          DiskInode.empty.recomputeChecksum) := by
  unfold freeInode
  rw [if_neg ((isSlot_iff n).mp h), exec_bind_ok (exec_readBlock _ _ _),
    exec_bind_ok (exec_writeBlock _ _ _ _), exec_writeInode h]
  rfl

/-! ### Blocks -/

/-- The first block that is free. -/
def freeLba (s : Volume) (d : DeviceId) : Option ℕ :=
  (List.range' dataBlockStart (maxVolumeBlocks - dataBlockStart)).find?
    fun lba => !blockBits s d (bitIdx lba)

/-- The volume with a block taken. -/
def takeBlock (s : Volume) (d : DeviceId) (lba : ℕ) : Volume :=
  (setBlockBits s d (update (blockBits s d) (bitIdx lba) true)).put d lba zeroBlock

lemma freeLba_eq_some (h : freeLba s d = some lba) :
    22 ≤ lba ∧ lba < 32768 ∧ blockBits s d (bitIdx lba) = false := by
  have hp := List.find?_some h
  have hm := List.mem_of_find?_eq_some h
  rw [List.mem_range'_1] at hm
  simp only [dataBlockStart, maxVolumeBlocks] at hm
  exact ⟨hm.1, by omega, by simpa using hp⟩

lemma exec_allocBlock_none (h : freeLba s d = none) :
    exec volume (allocBlock d) s = (some (.error .noSpace), s) := by
  unfold allocBlock
  rw [exec_bind_ok (exec_readBlock _ _ _)]
  simp only [freeLba, blockBits] at h
  rw [h]
  rfl

lemma exec_allocBlock_some (h : freeLba s d = some lba) :
    exec volume (allocBlock d) s = (some (.ok (BitVec.ofNat 32 lba)), takeBlock s d lba) := by
  unfold allocBlock
  rw [exec_bind_ok (exec_readBlock _ _ _)]
  simp only [freeLba, blockBits] at h
  rw [h]
  rfl

variable {l : BitVec 32}

lemma exec_freeBlock (h : InData l) :
    exec volume (freeBlock d l) s =
      (some (.ok ()), setBlockBits s d (update (blockBits s d) (bitIdx l.toNat) false)) := by
  unfold freeBlock
  rw [if_neg ((inData_iff l).mp h), exec_bind_ok (exec_readBlock _ _ _)]
  rfl

lemma exec_freeBlock_of_not (h : ¬InData l) :
    exec volume (freeBlock d l) s = (some (.error .invalidArgument), s) := by
  rw [inData_iff, not_not] at h
  rw [freeBlock, if_pos h]
  rfl

end ProjectZero.Fs.Inspect
