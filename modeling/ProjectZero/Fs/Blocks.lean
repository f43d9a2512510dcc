import ProjectZero.Fs.Remount

/-! # No block is shared and no block is lost

Two properties of every state of a run. The blocks of the allocated inodes are pairwise distinct and
are marked as taken (`exclusive_of_reached`), as long as no recovery changes a pointer; the record of a
rename stays in the journal and can bring back the pointers of an inode that was freed since
(`stale_image_shares`). Every data block that is marked as taken belongs to an allocated inode
(`leakless_of_reached`), as long as no operation fails after it has taken a block and no write replaces
an indirect block. -/

namespace ProjectZero.Fs.Blocks

open Lib.Layout Fs.Types Store Inode Journal File Calls Buf Transparent Inspect Replay Owners Soundness
open Chunk Operations Typed Runs Remount

variable {d : DeviceId} {s : Volume} {m : System Disks}

/-- No block is shared and no referenced block is free, as far as the allocated inodes go. -/
structure Exclusive (d : DeviceId) (s : Volume) : Prop where
  distinct : ∀ {n p k q l}, Allocated s d n → Allocated s d k →
    ref s d (inodeAt s d) n p = some l → ref s d (inodeAt s d) k q = some l → n = k ∧ p = q
  region : ∀ {n p l}, Allocated s d n → ref s d (inodeAt s d) n p = some l →
    InData l ∨ l = BitVec.ofNat 32 rootDirBlock
  taken : ∀ {n p l}, Allocated s d n → ref s d (inodeAt s d) n p = some l → Taken s d l

/-- Every data block that is marked as taken belongs to an allocated inode. -/
def Leakless (d : DeviceId) (s : Volume) : Prop :=
  ∀ l, InData l → Taken s d l → ∃ n p, Allocated s d n ∧ ref s d (inodeAt s d) n p = some l

/-! ### No block is shared -/

/-- **No block is shared** in any state of a run whose recoveries keep the pointers. -/
theorem exclusive_of_reached (h : Reached d (PtrSafe d) m) : Exclusive d (shown m) := by
  have hs := (reached_sound (fun _ _ => id) h).2
  exact ⟨fun _ _ hr hr' => hs.owned.unshared hr hr',
    fun _ hr => (hs.owned.region hr).imp_right fun hroot => hroot.1, fun _ hr => hs.owned.taken hr⟩

lemma ptrSafe_of_free (hm : (journalRecord s d).magic ≠ journalMagicV2) : PtrSafe d .remount s := by
  rw [PtrSafe, remounted, if_neg hm]
  exact fun _ _ => .refl _

section

variable (h : Idle (s.blocks d journalBlock))
  (hsb : (s.get d .superblock superblockBlock).1.isValid = true)

include h hsb

lemma exec_mountVolume :
    ∃ sb x, exec volume (mountVolume d) s =
      (some (.ok sb), (remounted s d).put d superblockBlock x) := by
  unfold mountVolume
  rw [exec_bind_ok (exec_readBlock _ _ _)]
  dsimp only
  rw [if_neg (not_not.mpr hsb), exec_bind_ok (exec_recover_idle h),
    exec_bind_ok (exec_writeBlock _ _ _ _), exec_bind_ok (exec_syncAllBuffers _)]
  exact ⟨_, _, rfl⟩

lemma exec_remount :
    ∃ x, exec volume (FsOp.remount.prog d) s =
      (some (.ok ()), (remounted s d).put d superblockBlock x) := by
  obtain ⟨sb, x, hrun⟩ := exec_mountVolume h hsb
  exact ⟨x, exec_bind_ok hrun⟩

end

lemma exists_remounted {C : FsOp → Volume → Prop} (hm : Reached d C m) {vol : Volume}
    (hv : SystemShows m vol) (hC : C .remount vol) (hi : Idle (vol.blocks d journalBlock))
    (hsb : (vol.get d .superblock superblockBlock).1.isValid) :
    ∃ m', Reached d C m' ∧
      (∀ n, IsSlot n → inodeAt (shown m') d n = inodeAt (remounted vol d) d n) ∧
      inodeBits (shown m') d = inodeBits vol d := by
  obtain ⟨x, hrun⟩ := exec_remount hi hsb
  obtain ⟨m', hm', hv'⟩ := machine_of_volume hv hrun
  refine ⟨m', hm.next ⟨.remount, _, by rwa [shown_eq hv], hm'⟩, fun n hn => ?_, ?_⟩
  · rw [shown_eq hv', inodeAt_put (.inl (by decide)) x hn]
  rw [shown_eq hv', inodeBits_put_of_ne (by decide)]
  simp only [inodeBits, Volume.get, blocks_remounted (b := inodeBitmapBlock) (.inl (by decide))
    (by decide)]

/-- A file with a block, and a remount that finds the journal free. -/
theorem exclusive_of_reached_write : ∃ m, Reached .mem (PtrSafe .mem) m ∧
    Allocated (shown m) .mem 2 ∧ (inodeAt (shown m) .mem 2).directBlocks 0 = 22 ∧
    Exclusive .mem (shown m) := by
  obtain ⟨m, t, hm, hv, hq⟩ := reached_of_operated (d := .mem) (C := PtrSafe .mem)
    [.fileOpen 1 [102] 7 1, .fileWrite 0 [1, 2, 3]] (by simp [PtrSafe])
    (Q := fun t =>
      ((t.cells .mem journalBlock).read .journal).magic = journalMagic ∧
      ((t.cells .mem superblockBlock).read .superblock).1.isValid = true ∧
      (t.cells .mem inodeBitmapBlock).read .bitmap (bitIdx 2) = true ∧
      ((t.cells .mem (tableBlock 2)).read .inodes (tableSlot 2)).directBlocks 0 = 22)
    (by decide +kernel)
  obtain ⟨hmagic, hsb, hbit, hptr⟩ := of_decide_eq_true hq
  have hfree : (journalRecord t.toVolume .mem).magic ≠ journalMagicV2 := by
    rw [journalRecord, Volume.get, magic_eq, ← Volume.get, get_toVolume, hmagic]
    decide
  have hidle := (reached_sound (fun _ _ => id) hm).2.idle
  rw [shown_eq hv] at hidle
  rw [← get_toVolume] at hsb
  obtain ⟨m', hm', htable, hbits⟩ := exists_remounted hm hv (ptrSafe_of_free hfree) hidle hsb
  refine ⟨m', hm', ?_, ?_, exclusive_of_reached hm'⟩
  · rw [Allocated, hbits, inodeBits_toVolume]
    exact hbit
  rw [htable 2 (by decide), remounted, if_neg hfree, inodeAt_toVolume]
  exact hptr

/-- A file is renamed over another one and removed; a new file takes its inode, and a new directory its
block. The record of the rename is still in the journal. -/
def staleOps : List FsOp :=
  [.fileOpen 1 [102] 7 1, .fileWrite 0 [1, 2, 3], .fileOpen 1 [103] 7 1, .fileClose 0,
    .fileRename 1 [102] 1 [103] 0, .fileUnlink 1 [103], .fileOpen 1 [101] 7 1, .dirCreate 1 [100] 1]

/-- **A stale image shares a block.** The recovery gives the new file the pointers of the old one, and
the inodes 2 and 4 both have the block 22. -/
theorem stale_image_shares : ∃ m, Reached .mem (fun _ _ => True) m ∧ ¬Exclusive .mem (shown m) := by
  obtain ⟨m, t, hm, hv, hq⟩ := reached_of_operated (d := .mem) (C := NoRemount) staleOps
    (by simp [staleOps, NoRemount])
    (Q := fun t =>
      ((t.cells .mem journalBlock).read .journalV2).magic = journalMagicV2 ∧
      ((t.cells .mem journalBlock).read .journalV2).srcTargetInodeNum = 2 ∧
      ((t.cells .mem journalBlock).read .journalV2).dstTargetInodeNum = 3 ∧
      ((t.cells .mem journalBlock).read .journalV2).srcNewInodeImage.directBlocks 0 = 22 ∧
      ((t.cells .mem superblockBlock).read .superblock).1.isValid = true ∧
      (t.cells .mem inodeBitmapBlock).read .bitmap (bitIdx 2) = true ∧
      (t.cells .mem inodeBitmapBlock).read .bitmap (bitIdx 4) = true ∧
      ((t.cells .mem (tableBlock 4)).read .inodes (tableSlot 4)).directBlocks 0 = 22)
    (by decide +kernel)
  obtain ⟨hmagic, hsrc, hdst, himage, hsb, hbit2, hbit4, hptr⟩ := of_decide_eq_true hq
  have hidle := (reached_sound ptrSafe_of_noRemount hm).2.idle
  rw [shown_eq hv] at hidle
  rw [← get_toVolume] at hmagic hsrc hdst himage hsb
  obtain ⟨m', hm', htable, hbits⟩ := exists_remounted (C := fun _ _ => True)
    (reached_mono (fun _ _ _ => trivial) hm) hv trivial hidle hsb
  refine ⟨m', hm', fun hex => ?_⟩
  have h2 : (inodeAt (shown m') .mem 2).directBlocks 0 = 22 := by
    rw [htable 2 (by decide), inodeAt_remounted hmagic (by decide), journalRecord, hsrc, hdst,
      if_neg (by decide), if_pos rfl]
    exact himage
  have h4 : (inodeAt (shown m') .mem 4).directBlocks 0 = 22 := by
    rw [htable 4 (by decide), inodeAt_remounted hmagic (by decide), journalRecord, hsrc, hdst,
      if_neg (by decide), if_neg (by decide), inodeAt_toVolume]
    exact hptr
  have ha : ∀ n, inodeBits t.toVolume .mem (bitIdx n.toNat) = true → Allocated (shown m') .mem n :=
    fun n hn => by rwa [Allocated, hbits]
  rw [← inodeBits_toVolume] at hbit2 hbit4
  have hsame := hex.distinct (p := .direct 0) (q := .direct 0) (ha 2 hbit2) (ha 4 hbit4)
    (ref_eq_some.mpr ⟨by decide, h2, by decide⟩) (ref_eq_some.mpr ⟨by decide, h4, by decide⟩)
  exact absurd hsame.1 (by decide)

/-! ### No block is lost -/

def Careful (d : DeviceId) (op : FsOp) (s : Volume) : Prop := PtrSafe d op s ∧ LossFree d op s

/-- **No block is lost** in any state of a run whose operations are careful. -/
lemma leakless_of_reached (h : Reached d (Careful d) m) : Leakless d (shown m) :=
  fun l hl ht => (reached_tight (fun _ _ => id) h).2.2.used l hl ht

end ProjectZero.Fs.Blocks
