import ProjectZero.Fs.Runs

/-! # Remounting after a clean run

After operations that completed and a `sync_all_buffers`, recovery should find nothing to do. A write
clears the journal when it is done, but a rename leaves its committed record, and recovery installs the
two inode images of it again. `recover_after_run` says when that changes nothing. -/

namespace ProjectZero.Fs.Remount

open Fs.Types Store Inode Journal Calls Buf Transparent
open Inspect Replay Durable Soundness Operations Runs

variable {d : DeviceId} {s s' : Volume} {n : BitVec 32} {m : System Disks}

abbrev journalRecord (s : Volume) (d : DeviceId) : DiskJournalBlockV2 := s.get d .journalV2 journalBlock

/-! ### What recovery changes -/

lemma inodeAt_withImage (image : DiskInode) (hn : IsSlot n) (k : BitVec 32) :
    inodeAt (withImage s d k image) d n = if n = k then image else inodeAt s d n := by
  unfold withImage
  by_cases hk : n = k
  · subst hk
    rw [if_pos hn, if_pos rfl, inodeAt_setInode_self]
  rw [if_neg hk]
  split
  · exact inodeAt_setInode_of_ne hk _
  · rfl

lemma inodeAt_remounted (hm : (journalRecord s d).magic = journalMagicV2) (hn : IsSlot n) :
    inodeAt (remounted s d) d n =
      if n = (journalRecord s d).dstTargetInodeNum then
        (journalRecord s d).dstNewInodeImage.recomputeChecksum
      else if n = (journalRecord s d).srcTargetInodeNum then
        (journalRecord s d).srcNewInodeImage.recomputeChecksum else inodeAt s d n := by
  rw [remounted, if_pos hm, withJournal, inodeAt_put (.inl (by decide)) _ hn, withImages,
    inodeAt_withImage _ hn, inodeAt_withImage _ hn]

lemma blocks_withImage {b : ℕ} (hb : b < inodeTableStart ∨ rootDirBlock ≤ b) (k : BitVec 32)
    (image : DiskInode) : (withImage s d k image).blocks d b = s.blocks d b := by
  unfold withImage
  split
  next hk =>
    refine blocks_setInode_of_ne ?_ _
    have h1 := le_tableBlock k
    have h2 := tableBlock_lt hk
    simp only [inodeTableStart, rootDirBlock] at hb
    omega
  · rfl

lemma blocks_remounted {b : ℕ} (hb : b < inodeTableStart ∨ rootDirBlock ≤ b)
    (hj : b ≠ journalBlock) : (remounted s d).blocks d b = s.blocks d b := by
  unfold remounted
  split
  · rw [withJournal, Volume.blocks_put_of_ne hj, withImages, blocks_withImage hb,
      blocks_withImage hb]
  · rfl

/-- The inodes, the bitmaps and the blocks of directories and files are the same. -/
structure Unchanged (d : DeviceId) (s s' : Volume) : Prop where
  inodes : ∀ n, IsSlot n → inodeAt s' d n = inodeAt s d n
  inodeBits : inodeBits s' d = inodeBits s d
  blockBits : blockBits s' d = blockBits s d
  blocks : ∀ b, rootDirBlock ≤ b → s'.blocks d b = s.blocks d b

/-- The journal is free, or its record has the images that the inode table has. -/
def Settled (d : DeviceId) (s : Volume) : Prop :=
  (journalRecord s d).magic = journalMagicV2 →
    (IsSlot (journalRecord s d).dstTargetInodeNum →
      inodeAt s d (journalRecord s d).dstTargetInodeNum =
        (journalRecord s d).dstNewInodeImage.recomputeChecksum) ∧
    (IsSlot (journalRecord s d).srcTargetInodeNum →
      (journalRecord s d).srcTargetInodeNum ≠ (journalRecord s d).dstTargetInodeNum →
      inodeAt s d (journalRecord s d).srcTargetInodeNum =
        (journalRecord s d).srcNewInodeImage.recomputeChecksum)

lemma unchanged_of_inodes (h : ∀ n, IsSlot n → inodeAt (remounted s d) d n = inodeAt s d n) :
    Unchanged d s (remounted s d) where
  inodes := h
  inodeBits := by
    simp only [Inspect.inodeBits, Volume.get, blocks_remounted (b := inodeBitmapBlock)
      (.inl (by decide)) (by decide)]
  blockBits := by
    simp only [Inspect.blockBits, Volume.get, blocks_remounted (b := blockBitmapBlock)
      (.inl (by decide)) (by decide)]
  blocks b hb := blocks_remounted (.inr hb) (by simp only [rootDirBlock, journalBlock] at *; omega)

lemma unchanged_iff : Unchanged d s (remounted s d) ↔ Settled d s := by
  constructor
  · intro h hm
    constructor
    · intro hn
      have hsame := h.inodes _ hn
      rwa [inodeAt_remounted hm hn, if_pos rfl, eq_comm] at hsame
    intro hn hne
    have hsame := h.inodes _ hn
    rwa [inodeAt_remounted hm hn, if_neg hne, if_pos rfl, eq_comm] at hsame
  intro h
  by_cases hm : (journalRecord s d).magic = journalMagicV2
  · refine unchanged_of_inodes fun n hn => ?_
    obtain ⟨hdst, hsrc⟩ := h hm
    rw [inodeAt_remounted hm hn]
    split
    next hd =>
      subst hd
      exact (hdst hn).symm
    rename_i hd
    split
    next hs =>
      subst hs
      exact (hsrc hn hd).symm
    · rfl
  rw [remounted, if_neg hm]
  exact ⟨fun _ _ => rfl, rfl, rfl, fun _ _ => rfl⟩

/-! ### On the machine -/

def NoRemount (op : FsOp) (_ : Volume) : Prop := op ≠ .remount

lemma ptrSafe_of_noRemount (op : FsOp) (s : Volume) (h : NoRemount op s) : PtrSafe d op s := by
  cases op with
  | remount => exact absurd rfl h
  | _ => trivial

lemma unchanged_congr {t : Volume} (h : t.blocks d = s.blocks d) :
    Unchanged d t s' ↔ Unchanged d s s' := by
  constructor <;> rintro ⟨h1, h2, h3, h4⟩ <;>
    exact ⟨by simpa only [inodeAt, Volume.get, h] using h1,
      by simpa only [Inspect.inodeBits, Volume.get, h] using h2,
      by simpa only [Inspect.blockBits, Volume.get, h] using h3, by simpa only [h] using h4⟩

lemma settled_congr {t : Volume} (h : t.blocks d = s.blocks d) : Settled d t ↔ Settled d s := by
  simp only [Settled, journalRecord, inodeAt, Volume.get, h]

lemma recover_restarted {m₁ : System Disks} (hm : Coherent m) (hs : Sound d (shown m))
    (hsync : exec (machine disks) (syncAllBuffers d) m = (some (.ok ()), m₁)) :
    ∃ m₂, exec (machine disks) (recover d) (restarted m₁) = (some (.ok ()), m₂) ∧
      (Unchanged d (shown m) (shown m₂) ↔ Settled d (shown m)) := by
  obtain ⟨vol, hv⟩ := hm
  rw [shown_eq hv] at hs ⊢
  obtain ⟨vol1, hrun, hv1⟩ := volume_of_machine hv hsync
  rw [exec_syncAllBuffers] at hrun
  cases hrun
  -- the device has the blocks that the cache showed
  obtain ⟨volR, hvolR⟩ : ∃ v : Volume, v = ⟨m₁.machine.dev.blocks, fun _ => .empty⟩ := ⟨_, rfl⟩
  have hvR : SystemShows (restarted m₁) volR := hvolR ▸ restarted_shows m₁
  have hblocks : volR.blocks d = vol.blocks d := by
    rw [hvolR, ← (synced_of_syncAll hv hsync).blocks_eq hv1]
  have hidle : Idle (volR.blocks d journalBlock) := by
    rw [hblocks]
    exact hs.idle
  obtain ⟨m₂, hm2, hv2⟩ := machine_of_volume hvR (exec_recover_idle hidle)
  refine ⟨m₂, hm2, ?_⟩
  rw [shown_eq hv2, ← unchanged_congr hblocks, ← settled_congr hblocks]
  exact unchanged_iff

/-- **Remounting after a clean run.** After any run without a remount and a `sync_all_buffers`,
recovery on the restarted machine succeeds, and it leaves all inodes, the bitmaps and the blocks of
directories and files as the run left them just when the journal is free or has the images of the
inode table. -/
theorem recover_after_run {m₁ : System Disks} (h : Reached d NoRemount m)
    (hsync : exec (machine disks) (syncAllBuffers d) m = (some (.ok ()), m₁)) :
    ∃ m₂, exec (machine disks) (recover d) (restarted m₁) = (some (.ok ()), m₂) ∧
      (Unchanged d (shown m) (shown m₂) ↔ Settled d (shown m)) := by
  obtain ⟨hm, hs⟩ := reached_sound ptrSafe_of_noRemount h
  exact recover_restarted hm hs hsync

lemma exists_synced (hm : Coherent m) (d : DeviceId) :
    ∃ m₁, exec (machine disks) (syncAllBuffers d) m = (some (.ok ()), m₁) := by
  obtain ⟨vol, hv⟩ := hm
  obtain ⟨m₁, h1, -⟩ := machine_of_volume hv (exec_syncAllBuffers d)
  exact ⟨m₁, h1⟩

/-- **A sync is durable**: after any run, it succeeds and a restart shows the blocks it found. -/
theorem synced_durable (h : Reached d (fun _ _ => True) m) :
    ∃ m₁, exec (machine disks) (syncAllBuffers d) m = (some (.ok ()), m₁) ∧
      (shown (restarted m₁)).blocks d = (shown m).blocks d := by
  have hm : Coherent m := by
    refine h.invariant (fun _ h => (start_sound h).1) fun _ _ h hr => ?_
    obtain ⟨_, _, -, hr⟩ := hr
    exact coherent_of_exec h hr
  obtain ⟨m₁, hsync⟩ := exists_synced hm d
  obtain ⟨vol, hv⟩ := hm
  obtain ⟨vol1, hrun, hv1⟩ := volume_of_machine hv hsync
  rw [exec_syncAllBuffers] at hrun
  cases hrun
  refine ⟨m₁, hsync, ?_⟩
  rw [shown_eq hv, shown_eq (restarted_shows m₁)]
  exact (synced_of_syncAll hv hsync).blocks_eq hv1

theorem synced_durable_written : ∃ m, Reached .mem (fun _ _ => True) m ∧
    ∃ m₁, exec (machine disks) (syncAllBuffers .mem) m = (some (.ok ()), m₁) ∧
      (shown (restarted m₁)).blocks .mem = (shown m).blocks .mem := by
  obtain ⟨m, -, hm, -⟩ := reached_of_operated (d := .mem) (C := fun _ _ => True)
    [.fileOpen 1 [102] 7 1, .fileWrite 0 [1, 2, 3]] (fun _ _ _ => trivial) (Q := fun _ => true)
    (by decide +kernel)
  exact ⟨m, hm, synced_durable hm⟩

lemma settled_of_free (hm : (journalRecord s d).magic ≠ journalMagicV2) : Settled d s :=
  fun h => absurd h hm

/-- A file is written and the journal is free again. -/
theorem recover_after_write : ∃ m m₁ m₂, Reached .mem NoRemount m ∧
    exec (machine disks) (syncAllBuffers .mem) m = (some (.ok ()), m₁) ∧
    exec (machine disks) (recover .mem) (restarted m₁) = (some (.ok ()), m₂) ∧
    Unchanged .mem (shown m) (shown m₂) := by
  obtain ⟨m, t, hm, hv, hq⟩ := reached_of_operated (d := .mem) (C := NoRemount)
    [.fileOpen 1 [102] 7 1, .fileWrite 0 [1, 2, 3]] (by simp [NoRemount])
    (Q := fun t => ((t.cells .mem journalBlock).read .journal).magic = journalMagic)
    (by decide +kernel)
  obtain ⟨m₁, hm1⟩ := exists_synced ⟨_, hv⟩ .mem
  obtain ⟨m₂, hm2, hiff⟩ := recover_after_run hm hm1
  refine ⟨m, m₁, m₂, hm, hm1, hm2, hiff.mpr (settled_of_free ?_)⟩
  rw [shown_eq hv, journalRecord, Volume.get, magic_eq, ← Volume.get, get_toVolume, of_decide_eq_true hq]
  decide

/-- A file stays open while it is renamed: its inode is marked for removal, and the record says that
it is empty. -/
def renameOpenOps : List FsOp := [.fileOpen 1 [102] 7 1, .fileRename 1 [102] 1 [103] 0]

/-- **The inode of an open file is wiped** by the recovery after its rename. -/
theorem open_file_wiped : ∃ m m₁ m₂, Reached .mem NoRemount m ∧
    exec (machine disks) (syncAllBuffers .mem) m = (some (.ok ()), m₁) ∧
    exec (machine disks) (recover .mem) (restarted m₁) = (some (.ok ()), m₂) ∧
    ¬Unchanged .mem (shown m) (shown m₂) := by
  obtain ⟨m, t, hm, hv, hq⟩ := reached_of_operated (d := .mem) (C := NoRemount)
    renameOpenOps (by simp [NoRemount, renameOpenOps])
    (Q := fun t =>
      ((t.cells .mem journalBlock).read .journalV2).magic = journalMagicV2 ∧
      ((t.cells .mem journalBlock).read .journalV2).srcTargetInodeNum = 2 ∧
      ((t.cells .mem journalBlock).read .journalV2).dstTargetInodeNum = 0 ∧
      ((t.cells .mem journalBlock).read .journalV2).srcNewInodeImage.fileType = 0 ∧
      ((t.cells .mem (tableBlock 2)).read .inodes (tableSlot 2)).fileType = 1)
    (by decide +kernel)
  obtain ⟨hmagic, hsrc, hdst, hnew, hnow⟩ := of_decide_eq_true hq
  obtain ⟨hcoh, hs⟩ := reached_sound ptrSafe_of_noRemount hm
  obtain ⟨m₁, hm1⟩ := exists_synced hcoh .mem
  obtain ⟨m₂, hm2, hiff⟩ := recover_restarted hcoh hs hm1
  refine ⟨m, m₁, m₂, hm, hm1, hm2, fun hsame => ?_⟩
  have hset := hiff.mp hsame
  rw [shown_eq hv, Settled, journalRecord, get_toVolume] at hset
  have hinode := (hset hmagic).2 (by rw [hsrc]; decide) (by rw [hsrc, hdst]; decide)
  rw [hsrc, inodeAt_toVolume] at hinode
  rw [hinode] at hnow
  have hzero : (0 : BitVec 16) = 1 := hnew.symm.trans hnow
  cases hzero

end ProjectZero.Fs.Remount
