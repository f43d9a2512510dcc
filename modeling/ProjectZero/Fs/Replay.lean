import ProjectZero.Fs.Inspect

/-! # Replaying a record

What `recover` does to a volume, for each record the journal block can hold. -/

namespace ProjectZero.Fs.Replay

open Lib.Program Fs.Types Store Inode Journal Inspect

variable {s : Volume} {d : DeviceId} {n : BitVec 32}

/-! ### Writing back what is there -/

lemma put_eq_self {b : ℕ} {x : Block} (h : s.blocks d b = x) : s.put d b x = s := by
  subst h
  simp [Volume.put]

@[simp] lemma setBlockBits_self : setBlockBits s d (blockBits s d) = s :=
  put_eq_self (Equiv.symm_apply_apply _ _).symm

@[simp] lemma setInodeBits_self : setInodeBits s d (inodeBits s d) = s :=
  put_eq_self (Equiv.symm_apply_apply _ _).symm

/-! ### Bitmaps -/

@[simp] lemma markAll_nil (value : Bool) (v : Fin 32768 → Bool) : markAll value [] v = v := rfl

lemma markAll_cons (value : Bool) (l : BitVec 32) (ls : List (BitVec 32)) (v : Fin 32768 → Bool) :
    markAll value (l :: ls) v =
      markAll value ls (if InData l then update v (bitIdx l.toNat) value else v) := rfl

lemma markAll_apply (value : Bool) (ls : List (BitVec 32)) (v : Fin 32768 → Bool)
    (i : Fin 32768) : markAll value ls v i =
      if ∃ l ∈ ls, InData l ∧ bitIdx l.toNat = i then value else v i := by
  induction ls generalizing v with
  | nil => simp
  | cons l ls ih =>
    rw [markAll_cons, ih]
    by_cases hls : ∃ l ∈ ls, InData l ∧ bitIdx l.toNat = i
    · rw [if_pos hls, if_pos]
      obtain ⟨l', hl', h⟩ := hls
      exact ⟨l', List.mem_cons_of_mem _ hl', h⟩
    rw [if_neg hls]
    by_cases hl : InData l ∧ bitIdx l.toNat = i
    · have hex : ∃ l' ∈ l :: ls, InData l' ∧ bitIdx l'.toNat = i := ⟨l, List.mem_cons_self, hl⟩
      rw [if_pos hex, if_pos hl.1, ← hl.2, update_self]
    have hne : ¬∃ l' ∈ l :: ls, InData l' ∧ bitIdx l'.toNat = i := by
      rintro ⟨l', hl', h⟩
      rcases List.mem_cons.mp hl' with rfl | hl'
      · exact hl h
      · exact hls ⟨l', hl', h⟩
    rw [if_neg hne]
    split
    next hd =>
      rw [update_of_ne]
      exact fun h => hl ⟨hd, h.symm⟩
    · rfl

lemma listed_zero (lbas : Fin 10 → BitVec 32) : listed 0 lbas = [] := by simp [listed]

/-! ### The steps of a replay -/

/-- The table with an image put into a slot. -/
def withImage (s : Volume) (d : DeviceId) (n : BitVec 32) (image : DiskInode) : Volume :=
  if IsSlot n then setInode s d n image else s

lemma slot_lt {s : BitVec 32} (h : s ≠ 0xFFFFFFFF ∧ s.toNat < 64) : s.toNat < 64 := h.2

/-- The root directory with an entry put into a slot. -/
def withEntry (s : Volume) (d : DeviceId) (slot : BitVec 32) (entry : DiskDirEntry) : Volume :=
  if h : slot ≠ 0xFFFFFFFF ∧ slot.toNat < 64 then
    s.put d rootDirBlock ((format .dir).symm
      (update (s.get d .dir rootDirBlock) ⟨slot.toNat, slot_lt h⟩ entry))
  else s

/-- The bitmap with the bits of the blocks set or cleared. -/
def withBits (s : Volume) (d : DeviceId) (allocated freed : List (BitVec 32)) : Volume :=
  setBlockBits s d (markAll false freed (markAll true allocated (blockBits s d)))

lemma exec_putImage (image : DiskInode) :
    exec volume (putImage d n image) s = (some (.ok ()), withImage s d n image) := by
  unfold putImage withImage
  by_cases h : IsSlot n
  · rw [if_pos h, if_pos h, exec_bind_ok (exec_readBlock _ _ _)]
    rfl
  rw [if_neg h, if_neg h]
  rfl

lemma exec_ignore {α : Type} {p : FsM α} {r : Except FsError α} {s' : Volume}
    (h : exec volume p s = (some r, s')) : exec volume (ignore p) s = (some (.ok ()), s') := by
  exact run_bind_of_some h

lemma exec_attempt {α : Type} {p : FsM α} {r : Except FsError α} {s' : Volume}
    (h : exec volume p s = (some r, s')) : exec volume (attempt p) s = (some (.ok r), s') := by
  exact run_bind_of_some h

lemma exec_putImageV2 (image : DiskInode) :
    exec volume (putImageV2 d n image) s =
      (some (.ok ()), withImage s d n image.recomputeChecksum) := by
  unfold putImageV2 withImage
  by_cases h : IsSlot n
  · rw [if_pos h, if_pos h, exec_ignore (exec_writeInode h image)]
  rw [if_neg h, if_neg h]
  rfl

lemma exec_putEntry (slot : BitVec 32) (entry : DiskDirEntry) :
    exec volume (putEntry d slot entry) s = (some (.ok ()), withEntry s d slot entry) := by
  unfold putEntry withEntry
  split
  · rw [exec_bind_ok (exec_readBlock _ _ _)]
    rfl
  · rfl

lemma exec_redoBitmap (allocated freed : List (BitVec 32)) :
    exec volume (redoBitmap d allocated freed) s =
      (some (.ok ()), withBits s d allocated freed) := by
  unfold redoBitmap
  rw [exec_bind_ok (exec_readBlock _ _ _)]
  rfl

/-! ### Whole replays -/

/-- The inode bitmap after a record of the first format is redone. -/
def withInodeBit (s : Volume) (d : DeviceId) (jrn : DiskJournalBlock) : Volume :=
  if IsSlot jrn.targetInodeNum then
    setInodeBits s d
      (if jrn.opType = JournalOpType.create.toU32 then
        update (inodeBits s d) (bitIdx jrn.targetInodeNum.toNat) true
      else if jrn.opType = JournalOpType.delete.toU32 then
        update (inodeBits s d) (bitIdx jrn.targetInodeNum.toNat) false
      else inodeBits s d)
  else s

variable (jrn : DiskJournalBlock)

def allocatedOf : List (BitVec 32) :=
  listed jrn.allocatedBlocksCount jrn.allocatedBlocks

def freedOf : List (BitVec 32) :=
  listed jrn.freedBlocksCount jrn.freedBlocks

/-- A record of the first format, redone. -/
def redone (s : Volume) (d : DeviceId) (jrn : DiskJournalBlock) : Volume :=
  withInodeBit (withBits (withEntry (withImage s d jrn.targetInodeNum jrn.newInodeImage) d
    jrn.dirEntrySlot jrn.dirEntryCopy) d (allocatedOf jrn) (freedOf jrn)) d jrn

lemma exec_rollforwardTransaction :
    exec volume (rollforwardTransaction d jrn) s = (some (.ok ()), redone s d jrn) := by
  unfold rollforwardTransaction redone withInodeBit
  rw [exec_bind_ok (exec_putImage _), exec_bind_ok (exec_putEntry _ _),
    exec_bind_ok (exec_redoBitmap _ _)]
  split
  · rw [exec_bind_ok (exec_readBlock _ _ _)]
    rfl
  · rfl

/-- A record of the second format, redone. -/
def redoneV2 (s : Volume) (d : DeviceId) (jrn : DiskJournalBlockV2) : Volume :=
  withBits (withImage (withImage s d jrn.srcTargetInodeNum jrn.srcNewInodeImage.recomputeChecksum) d
    jrn.dstTargetInodeNum jrn.dstNewInodeImage.recomputeChecksum) d
    (listed jrn.allocatedBlocksCount jrn.allocatedBlocks)
    (listed jrn.freedBlocksCount jrn.freedBlocks)

lemma exec_rollforwardV2 (jrn : DiskJournalBlockV2) :
    exec volume (rollforwardV2 d jrn) s = (some (.ok ()), redoneV2 s d jrn) := by
  unfold rollforwardV2 redoneV2
  rw [exec_bind_ok (exec_putImageV2 _), exec_bind_ok (exec_putImageV2 _), exec_redoBitmap]

/-! ### The end of a recovery -/

/-- The record that says that there is nothing to recover. -/
def cleared (seq : BitVec 64) : DiskJournalBlock :=
  { DiskJournalBlock.empty with sequence := seq }.recomputeChecksum

/-- The volume with a record in its journal. -/
def withJournal (s : Volume) (d : DeviceId) (jrn : DiskJournalBlock) : Volume :=
  s.put d journalBlock ((format .journal).symm jrn)

def withJournalV2 (s : Volume) (d : DeviceId) (jrn : DiskJournalBlockV2) : Volume :=
  s.put d journalBlock ((format .journalV2).symm jrn)

lemma exec_writeJournalBlock :
    exec volume (writeJournalBlock d jrn) s =
      (some (.ok ()), withJournal s d jrn.recomputeChecksum) := by
  unfold writeJournalBlock
  rw [exec_bind_ok (exec_writeBlock _ _ _ _)]
  rfl

lemma exec_writeJournalBlockV2 (jrn : DiskJournalBlockV2) :
    exec volume (writeJournalBlockV2 d jrn) s =
      (some (.ok ()), withJournalV2 s d jrn.recomputeChecksum) := by
  unfold writeJournalBlockV2
  rw [exec_bind_ok (exec_writeBlock _ _ _ _)]
  rfl

lemma exec_clear (seq : BitVec 64) :
    exec volume (clear d seq) s = (some (.ok ()), withJournal s d (cleared seq)) :=
  exec_writeJournalBlock _

lemma magic_eq (raw : Block) : (format .journalV2 raw).magic = (format .journal raw).magic := rfl

lemma exec_recoverV1_committed {jrn : DiskJournalBlock} (hm : jrn.magic = journalMagic)
    (hs : jrn.state = JournalState.committed.toU32) (hc : jrn.isValidChecksum) :
    exec volume (recoverV1 d jrn) s =
      (some (.ok ()), withJournal (redone s d jrn) d (cleared jrn.sequence)) := by
  unfold recoverV1
  rw [if_neg (by rw [hs]; decide), if_neg (by simp [hm, hc]), if_neg (by rw [hs]; decide),
    if_pos hs, exec_bind_ok (exec_rollforwardTransaction jrn), exec_bind_ok (exec_clear _)]
  rfl

lemma exec_recoverV2_committed {jrn : DiskJournalBlockV2}
    (hs : jrn.state = JournalState.committed.toU32) (hc : jrn.isValidChecksum) :
    exec volume (recoverV2 d jrn) s =
      (some (.ok ()), withJournal (redoneV2 s d jrn) d (cleared jrn.sequence)) := by
  unfold recoverV2
  rw [if_neg (by rw [hs]; decide), if_neg (by simp [hc]), if_neg (by rw [hs]; decide),
    if_pos hs, exec_bind_ok (exec_rollforwardV2 jrn), exec_bind_ok (exec_clear _)]
  rfl

lemma exec_recover_V1 {jrn : DiskJournalBlock} (h : s.get d .journal journalBlock = jrn)
    (hm : jrn.magic ≠ journalMagicV2) :
    exec volume (recover d) s = exec volume (recoverV1 d jrn) s := by
  unfold recover
  rw [exec_bind_ok (exec_readBlock _ _ _), if_neg]
  · rw [← h]
    rfl
  rw [magic_eq]
  exact fun h' => hm (h ▸ h')

lemma exec_recover_V2 {jrn : DiskJournalBlockV2} (h : s.get d .journalV2 journalBlock = jrn)
    (hm : jrn.magic = journalMagicV2) :
    exec volume (recover d) s = exec volume (recoverV2 d jrn) s := by
  unfold recover
  rw [exec_bind_ok (exec_readBlock _ _ _), if_pos]
  · rw [← h]
    rfl
  · exact (congrArg DiskJournalBlockV2.magic h).trans hm

end ProjectZero.Fs.Replay
