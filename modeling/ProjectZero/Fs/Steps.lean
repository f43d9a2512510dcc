import ProjectZero.Fs.Chunk
import ProjectZero.Fs.Lookup

/-! # Operations on a sound volume

The longer functions are cut into named parts, and every operation keeps a volume sound. -/

namespace ProjectZero.Fs.Steps

open Lib.Layout Lib.Program Fs.Types Store Inode Journal Dir File Calls Inspect
open Replay Owners Truncate Fs.Mapping Soundness Lookup

variable {α : Type} {d : DeviceId} {c : Prop} {s s' s₀ : Volume} {n dir target : BitVec 32}
  {name : List Byte} {i j : DiskInode} {b : ℕ} {slot : Fin 64}

/-! ### The parts of the functions -/

lemma ite_bind {α β : Type} (c : Prop) [Decidable c] (p q : FsM α) (f : α → FsM β) :
    (if c then p else q) >>= f = if c then p >>= f else q >>= f := by
  split <;> rfl

variable (d)

def removable (target : BitVec 32) (ty : InodeType) : FsM Bool :=
  if ty = .directory then isDirEmpty d target else pure true

lemma removable_bind {α : Type} (target : BitVec 32) (ty : InodeType) (f : Bool → FsM α) :
    removable d target ty >>= f =
      if ty = .directory then isDirEmpty d target >>= f else pure true >>= f :=
  ite_bind _ _ _ f

variable (dir)

/-- An entry is cleared and the generation of the directory raised. -/
def takeEntry (slot : Fin 64) : FsM DiskDirEntry := do
  let block ← entriesBlock d dir
  let entries ← readBlock d .dir block
  writeBlock d .dir block (update entries slot .empty)
  bumpDir d dir
  pure (entries slot)

/-- An inode loses a link, and is deleted with the last one unless it is open. -/
def dropTarget (target : BitVec 32) : FsM Unit := do
  let inode := dropLink (← readInode d target)
  if inode.linksCount = 0 then do
    if ← hasOpenReferences d target then writeInode d target (markPending inode)
    else do
      let _ ← truncated d inode 0
      ignore (freeInode d target)
  else writeInode d target inode

lemma unlink_eq (name : List Byte) :
    unlink d dir name = (do
      let (target, ty, slot) ← lookup d dir name
      let empty ← removable d target ty
      if empty = false then throw .notEmpty
      else do
        let entry ← takeEntry d dir slot
        dropTarget d target
        pure (target, slot, entry)) := by
  unfold unlink removable takeEntry dropTarget
  congr 1
  funext ⟨target, ty, slot⟩
  simp only [bind_assoc, pure_bind, ite_bind]

/-- An entry is written. -/
def putSlot (slot : Fin 64) (e : DiskDirEntry) : FsM Unit := do
  let block ← entriesBlock d dir
  let entries ← readBlock d .dir block
  writeBlock d .dir block (update entries slot e)

/-- The inode of a replaced target, before its blocks are given back. -/
def replaced (old : DiskInode) (isOpen : Bool) : DiskInode :=
  if (dropLink old).linksCount = 0 ∧ isOpen then markPending (dropLink old) else dropLink old

/-- The end of a replaced target. -/
def settleTarget (target : BitVec 32) (inode : DiskInode) : FsM DiskInode :=
  if inode.linksCount = 0 ∧ inode.flags &&& inodeFlagPendingDelete = 0 then do
    let (_, left) ← truncated d inode 0
    ignore (freeInode d target)
    pure left
  else do
    writeInode d target inode
    pure inode

def bumpOther (srcDir dstDir : BitVec 32) : FsM Unit :=
  if srcDir ≠ dstDir then bumpDir d dstDir else pure ()

variable (srcDir : BitVec 32)

/-- The record of a rename that replaces its destination. -/
def replaceRecord (srcSlot : Fin 64) (srcTarget dstDir : BitVec 32)
    (dstSlot : Fin 64) (dstTarget : BitVec 32) (src oldDst newDst : DiskInode) :
    DiskJournalBlockV2 :=
  { renameRecord srcDir srcSlot srcTarget dstDir dstSlot with
    dstTargetInodeNum := dstTarget
    srcOldInodeImage := src
    srcNewInodeImage := src
    dstOldInodeImage := oldDst
    dstNewInodeImage := newDst }

/-- The record of a rename to a new name. -/
def moveRecord (srcSlot : Fin 64) (srcTarget dstDir : BitVec 32)
    (dstSlot : Fin 64) (entry : DiskDirEntry) : DiskJournalBlockV2 :=
  { renameRecord srcDir srcSlot srcTarget dstDir dstSlot with dstDirEntryCopy := entry }

lemma renameOver_eq (srcDir srcTarget : BitVec 32) (srcType : InodeType)
    (srcSlot : Fin 64) (dstDir : BitVec 32) (dstName : List Byte) (dstTarget : BitVec 32)
    (dstSlot : Fin 64) :
    renameOver d srcDir srcTarget srcType srcSlot dstDir dstName dstTarget dstSlot = (do
      let oldSrc ← readInode d srcTarget
      let oldDst ← readInode d dstTarget
      let isOpen ← hasOpenReferences d dstTarget
      bumpDir d srcDir
      bumpOther d srcDir dstDir
      putSlot d srcDir srcSlot .empty
      putSlot d dstDir dstSlot (newEntry srcTarget srcType dstName)
      let newDst ← settleTarget d dstTarget (replaced oldDst isOpen)
      ignore (writeJournalBlockV2 d
        (replaceRecord srcDir srcSlot srcTarget dstDir dstSlot dstTarget oldSrc oldDst
          newDst))) := by
  unfold renameOver bumpOther putSlot settleTarget
  simp only [bind_assoc, pure_bind, ite_bind]
  rfl

/-- A file that is opened with `O_TRUNC` is cut to nothing. -/
def cutOnOpen (n flags : BitVec 32) : FsM Unit :=
  if flags &&& oTrunc ≠ 0 then do
    match ← attempt (readInode d n) with
    | .error _ => pure ()
    | .ok inode => do
      let (_, left) ← truncated d inode 0
      ignore (writeInode d n left)
  else pure ()

/-- A file that is not found is created. -/
def createFile (name : List Byte) (pid : BitVec 64) :
    FsM (BitVec 32) := do
  let n ← allocInode d .regular pid
  match ← attempt (Dir.insert d dir name n .regular) with
  | .ok _ => pure n
  | .error e => do
    ignore (freeInode d n)
    throw e

/-- The inode that is opened. -/
def openTarget (name : List Byte) (flags : BitVec 32)
    (pid : BitVec 64) : FsM (BitVec 32) := do
  match ← attempt (lookup d dir name) with
  | .ok (n, _, _) => do
    cutOnOpen d n flags
    pure n
  | .error .notFound =>
    if flags &&& oCreate ≠ 0 then createFile d dir name pid else throw .notFound
  | .error e => throw e

lemma fileOpen_eq (name : List Byte) (flags : BitVec 32)
    (pid : BitVec 64) : Calls.fileOpen d dir name flags pid = (do
      let n ← openTarget d dir name flags pid
      let inode ← readInode d n
      allocStorageObject d n inode.generation flags inode.sizeBytes) := by
  unfold Calls.fileOpen openTarget cutOnOpen createFile
  rw [bind_assoc]
  congr 1
  funext r
  match r with
  | .ok (n, _, _) =>
    simp only [bind_assoc, pure_bind, ite_bind]
    split
    · congr 1
      funext r
      cases r <;> simp only [bind_assoc, pure_bind]
    · rfl
  | .error e =>
    cases e
    case notFound =>
      simp only [bind_assoc, ite_bind]
      split
      · congr 1
        funext n
        congr 1
        funext r
        cases r with
        | ok _ => rfl
        | error e => exact (bind_assoc _ _ _).symm
      · rfl
    all_goals rfl

variable {dir}

/-! ### Deleting and cutting -/

/-- The operation keeps the volume as sound as it was at `s₀`. -/
abbrev Kept (c : Prop) (s₀ : Volume) (p : FsM α) (s : Volume) : Prop :=
  EPost volume p s (fun _ s' => Keeps d c s₀ s') fun _ s' => Keeps d c s₀ s'

variable {d}

lemma Kept.after {p : FsM α} (h : Keeps d c s₀ s) (hp : Kept d c s p s) : Kept d c s₀ p s :=
  hp.mono (fun _ _ => h.trans) fun _ _ => h.trans

lemma mem_lbasOf_iff {l : BitVec 32} (hn : IsSlot n) (hi : SamePtrs i (inodeAt s d n))
    (hd : InData l) : l ∈ lbasOf s d i ↔ refsOf s d (inodeAt s d) n l := by
  have h0 := ne_zero_of_inData hd
  rw [mem_lbasOf h0, refsOf]
  refine exists_congr fun p => ?_
  rw [ref_eq_some, lbaAt_congr hi fun _ => rfl]
  exact ⟨fun h => ⟨hn, h, h0⟩, fun h => h.2.1⟩

lemma noPtrs_recomputeChecksum (h : NoPtrs i) : NoPtrs i.recomputeChecksum :=
  h.of_samePtrs (samePtrs_recomputeChecksum i)

lemma noPtrs_empty : NoPtrs DiskInode.empty := ⟨fun _ => rfl, rfl⟩

/-- **A truncation**, after which the inode is deleted or written back. It fails for the root
directory only, before it has done anything. -/
lemma truncated_keeps (h : Sound d s) (hn : IsSlot n) (hi : SamePtrs i (inodeAt s d n)) :
    ∃ r j s', exec volume (truncated d i 0) s = (some (.ok (r, j)), s') ∧
      Keeps d c s (withInode s' d n false DiskInode.empty.recomputeChecksum) ∧
      Keeps d c s (setInode s' d n j.recomputeChecksum) := by
  have hmem : ∀ {l}, InData l → (l ∈ lbasOf s d i ↔ refsOf s d (inodeAt s d) n l) :=
    mem_lbasOf_iff hn hi
  have href : ∀ {p}, lbaAt s d i p ≠ 0 → ref s d (inodeAt s d) n p = some (lbaAt s d i p) := by
    intro p h0
    rw [ref_eq_some, ← lbaAt_congr hi fun _ => rfl]
    exact ⟨hn, rfl, h0⟩
  by_cases hdrop : ∀ p, Droppable (lbaAt s d i p)
  · obtain ⟨j, hrun, hj⟩ := exec_truncated_ok hdrop
    refine ⟨_, j, _, hrun, ?_, ?_⟩
    · exact keeps_release h hn false (fun l hl hd => (hmem hd).mp hl)
        (noPtrs_recomputeChecksum noPtrs_empty) fun _ _ _ l hd hr => (hmem hd).mpr hr
    exact keeps_cut h hn (fun l hl hd => (hmem hd).mp hl) (noPtrs_recomputeChecksum hj.noPtrs)
      fun l hd hr => (hmem hd).mpr hr
  -- a block that is no data block is that of the root directory
  rw [not_forall] at hdrop
  obtain ⟨p, hp⟩ := hdrop
  rw [Droppable, Classical.not_imp] at hp
  obtain ⟨h0, hnd⟩ := hp
  rcases h.owned.region (href h0) with hd | ⟨hl, hroot, rfl⟩
  · exact absurd hd hnd
  have hrun := exec_truncated_error (s := s) (d := d) (i := i) h0 hnd
  refine ⟨_, i, s, hrun, ?_, keeps_setInode h hn ((samePtrs_recomputeChecksum i).trans hi)⟩
  refine keeps_withInode h hn false (noPtrs_recomputeChecksum noPtrs_empty) ?_
  rintro - ht - l hd ⟨q, hq⟩
  subst hroot
  exact ht.plain hq hd

lemma exec_freeInode_withInode (hn : IsSlot n) :
    exec volume (freeInode d n) s =
      (some (.ok ()), withInode s d n false DiskInode.empty.recomputeChecksum) := exec_freeInode hn

lemma delete_keeps (h : Sound d s) (hn : IsSlot n) (hi : SamePtrs i (inodeAt s d n)) :
    Kept d c s (do
      let _ ← truncated d i 0
      ignore (freeInode d n)) s := by
  obtain ⟨r, j, s', hrun, hk, -⟩ := truncated_keeps (c := c) h hn hi
  exact epost_bind hrun (Post.of_run (exec_ignore (exec_freeInode_withInode hn)) hk)

/-! ### Directories -/

lemma samePtrs_bumpGeneration (i : DiskInode) : SamePtrs i.bumpGeneration i := by
  unfold DiskInode.bumpGeneration
  split <;> exact ⟨rfl, rfl⟩

lemma fileType_bumpGeneration (i : DiskInode) : i.bumpGeneration.fileType = i.fileType := by
  unfold DiskInode.bumpGeneration
  split <;> rfl

lemma keeps_slot (h : DirAt s d dir i b) (hs : Sound d s) (e : DiskDirEntry) :
    Keeps d c s (withSlot s d b slot e) :=
  keeps_put hs (h.notPtrs hs.owned).1 (h.notPtrs hs.owned).2 _

lemma dirAt_withSlot (h : DirAt s d dir i b) {b' : ℕ} (hb : rootDirBlock ≤ b')
    (slot : Fin 64) (e : DiskDirEntry) : DirAt (withSlot s d b' slot e) d dir i b :=
  ⟨h.slot, (inodeAt_put (.inr hb) _ h.slot).trans h.inode, h.readable, h.isDir, h.block⟩

lemma readable_recomputeChecksum (i : DiskInode) : Readable i.recomputeChecksum :=
  .inr (DiskInode.isValidChecksum_recomputeChecksum i)

lemma dirAt_setInode (h : DirAt s d dir i b) (hj : SamePtrs j (inodeAt s d n))
    (ht : j.fileType = (inodeAt s d n).fileType) :
    ∃ i', DirAt (setInode s d n j.recomputeChecksum) d dir i' b := by
  by_cases hn : dir = n
  · subst hn
    rw [h.inode] at hj ht
    refine ⟨j.recomputeChecksum, h.slot, inodeAt_setInode_self _, readable_recomputeChecksum j,
      ht.trans h.isDir, ?_⟩
    have hp : j.recomputeChecksum.directBlocks 0 = i.directBlocks 0 := congrFun hj.1 0
    rw [hp]
    exact h.block
  · exact ⟨i, h.slot, (inodeAt_setInode_of_ne hn _).trans h.inode, h.readable, h.isDir, h.block⟩

lemma dirAt_bump (h : DirAt s d dir i b) (hf : foundInode s d n = .ok j) :
    ∃ i', DirAt (setInode s d n j.bumpGeneration.recomputeChecksum) d dir i' b := by
  obtain ⟨-, -, hj⟩ := foundInode_eq_ok hf
  subst hj
  exact dirAt_setInode h (samePtrs_bumpGeneration _) (fileType_bumpGeneration _)

lemma keeps_bump (hs : Sound d s) (hf : foundInode s d n = .ok j) :
    Keeps d c s (setInode s d n j.bumpGeneration.recomputeChecksum) := by
  obtain ⟨hn, -, hj⟩ := foundInode_eq_ok hf
  subst hj
  exact keeps_setInode hs hn ((samePtrs_recomputeChecksum _).trans (samePtrs_bumpGeneration _))

lemma keeps_entry (h : DirAt s d dir i b) (hs : Sound d s) (slot : Fin 64) (e : DiskDirEntry) :
    Keeps d c s (setInode (withSlot s d b slot e) d dir i.bumpGeneration.recomputeChecksum) := by
  have hk : Keeps d c s (withSlot s d b slot e) := keeps_slot h hs e
  have h' := dirAt_withSlot h (h.notPtrs hs.owned).1 slot e
  exact hk.trans (keeps_bump hk.sound h'.foundInode_eq)

lemma takeEntry_keeps (h : DirAt s d dir i b) (hs : Sound d s) (slot : Fin 64) :
    Kept d c s (takeEntry d dir slot) s := by
  have h' := dirAt_withSlot h (h.notPtrs hs.owned).1 slot .empty
  exact epost_bind (exec_entriesBlock h) (epost_bind (exec_readBlock _ _ _)
    (epost_bind (exec_writeBlock _ _ _ _) (epost_bind (exec_bumpDir h'.foundInode_eq)
      (EPost.pure (keeps_entry h hs slot .empty)))))

lemma removable_keeps (hs : Sound d s) (ty : InodeType) :
    EPost volume (removable d target ty) s (fun _ s' => Keeps d c s s') fun _ s' => s' = s := by
  refine .ite (fun _ => isDirEmpty_spec.mono ?_ fun _ _ h => h.1) fun _ => .pure rfl
  rintro _ _ rfl
  exact .refl hs

lemma samePtrs_dropLink (i : DiskInode) : SamePtrs (dropLink i) i := ⟨rfl, rfl⟩

lemma samePtrs_markPending (i : DiskInode) : SamePtrs (markPending i) i := ⟨rfl, rfl⟩

lemma writeInode_keeps (hs : Sound d s) (hn : IsSlot n) (hi : SamePtrs i (inodeAt s d n)) :
    Kept d c s (writeInode d n i) s :=
  Post.of_run (exec_writeInode hn i)
    (keeps_setInode hs hn ((samePtrs_recomputeChecksum i).trans hi))

lemma dropTarget_keeps (hs : Sound d s) : Kept d c s (dropTarget d target) s := by
  cases hf : foundInode s d target with
  | error e =>
    exact .of_run (exec_bind_error (by rw [exec_readInode, hf])) (.refl hs)
  | ok i =>
    obtain ⟨hn, -, rfl⟩ := foundInode_eq_ok hf
    refine epost_bind (by rw [exec_readInode, hf]) (EPost.ite (fun _ => ?_) fun _ => ?_)
    · refine epost_bind exec_hasOpenReferences (EPost.ite (fun _ => ?_) fun _ => ?_)
      · exact writeInode_keeps hs hn ((samePtrs_markPending _).trans (samePtrs_dropLink _))
      · exact delete_keeps hs hn (samePtrs_dropLink _)
    · exact writeInode_keeps hs hn (samePtrs_dropLink _)

lemma unlink_keeps (hs : Sound d s) : Kept d c s (unlink d dir name) s := by
  rw [unlink_eq]
  cases hl : lookedUp s d dir name with
  | error e => exact .of_run (exec_bind_error (by rw [exec_lookup, hl])) (.refl hs)
  | ok x =>
    obtain ⟨target, ty, slot⟩ := x
    obtain ⟨i, b, hdir, -⟩ := lookedUp_eq_ok hl
    refine epost_bind (by rw [exec_lookup, hl]) ((removable_keeps hs ty).bind ?_)
    rintro empty _ rfl
    refine .ite (fun _ => .throw (.refl hs)) fun _ => ?_
    refine (takeEntry_keeps hdir hs slot).bind fun _ s' hk => ?_
    exact (Kept.after hk (dropTarget_keeps hk.sound)).bind fun _ _ hk' => .pure hk'

/-! ### Renaming -/

lemma putSlot_keeps (slot : Fin 64) (h : DirAt s d dir i b) (hs : Sound d s) (e : DiskDirEntry) :
    exec volume (putSlot d dir slot e) s = (some (.ok ()), withSlot s d b slot e) ∧
      Keeps d c s (withSlot s d b slot e) := by
  refine ⟨?_, keeps_slot h hs e⟩
  unfold putSlot
  rw [exec_bind_ok (exec_entriesBlock h), exec_bind_ok (exec_readBlock _ _ _)]
  rfl

lemma samePtrs_replaced (i : DiskInode) (isOpen : Bool) : SamePtrs (replaced i isOpen) i := by
  unfold replaced
  split <;> exact ⟨rfl, rfl⟩

lemma settleTarget_keeps (hs : Sound d s) (hn : IsSlot n) (hi : SamePtrs i (inodeAt s d n)) :
    Kept d c s (settleTarget d n i) s := by
  refine .ite (fun _ => ?_) fun _ => ?_
  · obtain ⟨r, j, s', hrun, hk, -⟩ := truncated_keeps (c := c) hs hn hi
    exact epost_bind hrun (epost_bind (exec_ignore (exec_freeInode_withInode hn)) (EPost.pure hk))
  · exact (writeInode_keeps hs hn hi).bind fun _ _ hk => .pure hk

lemma renameRecord_keeps (hs : Sound d s) {jrn : DiskJournalBlockV2}
    (hm : jrn.magic = journalMagicV2) (hst : jrn.state = JournalState.committed.toU32)
    (ha : jrn.allocatedBlocksCount = 0) (hf : jrn.freedBlocksCount = 0) :
    Kept d c s (ignore (writeJournalBlockV2 d jrn)) s := by
  refine .of_run (exec_ignore (exec_writeJournalBlockV2 jrn)) (keeps_journal hs ?_)
  exact idle_committed hm hst (DiskJournalBlockV2.isValidChecksum_recomputeChecksum jrn) ha hf

def PtrsKept (d : DeviceId) (s s' : Volume) : Prop :=
  ∀ m, IsSlot m → SamePtrs (inodeAt s' d m) (inodeAt s d m)

lemma PtrsKept.trans {s'' : Volume} (h : PtrsKept d s s') (h' : PtrsKept d s' s'') :
    PtrsKept d s s'' := fun m hm => (h' m hm).trans (h m hm)

lemma ptrsKept_withSlot (hb : rootDirBlock ≤ b) (slot : Fin 64) (e : DiskDirEntry) :
    PtrsKept d s (withSlot s d b slot e) := fun m hm => by
  rw [withSlot, inodeAt_put (.inr hb) _ hm]
  exact .refl _

lemma ptrsKept_setInode (hi : SamePtrs i (inodeAt s d n)) : PtrsKept d s (setInode s d n i) := by
  intro m _
  by_cases hm : m = n
  · subst hm
    rwa [inodeAt_setInode_self]
  rw [inodeAt_setInode_of_ne hm]
  exact .refl _

lemma ptrsKept_bump (hf : foundInode s d n = .ok j) :
    PtrsKept d s (setInode s d n j.bumpGeneration.recomputeChecksum) := by
  obtain ⟨-, -, rfl⟩ := foundInode_eq_ok hf
  exact ptrsKept_setInode ((samePtrs_recomputeChecksum _).trans (samePtrs_bumpGeneration _))

/-- What is known of the volume while the entries of two directories are changed. -/
structure Between (d : DeviceId) (c : Prop) (s₀ : Volume) (dir : BitVec 32) (b : ℕ)
    (dir' : BitVec 32) (b' : ℕ) (s : Volume) : Prop where
  keeps : Keeps d c s₀ s
  ptrs : PtrsKept d s₀ s
  first : ∃ i, DirAt s d dir i b
  second : ∃ i, DirAt s d dir' i b'

section Between

variable {dir' : BitVec 32} {b' : ℕ}

section

variable (h : Between d c s₀ dir b dir' b' s)

include h

lemma Between.bump (hf : foundInode s d n = .ok j) :
    Between d c s₀ dir b dir' b' (setInode s d n j.bumpGeneration.recomputeChecksum) := by
  obtain ⟨_, h1⟩ := h.first
  obtain ⟨_, h2⟩ := h.second
  exact ⟨h.keeps.trans (keeps_bump h.keeps.sound hf), h.ptrs.trans (ptrsKept_bump hf),
    dirAt_bump h1 hf, dirAt_bump h2 hf⟩

lemma Between.putFirst (slot : Fin 64) (e : DiskDirEntry) :
    exec volume (putSlot d dir slot e) s = (some (.ok ()), withSlot s d b slot e) ∧
      Between d c s₀ dir b dir' b' (withSlot s d b slot e) := by
  obtain ⟨_, h1⟩ := h.first
  obtain ⟨_, h2⟩ := h.second
  obtain ⟨hrun, hk⟩ := putSlot_keeps (c := c) slot h1 h.keeps.sound e
  have hb := (h1.notPtrs h.keeps.sound.owned).1
  exact ⟨hrun, h.keeps.trans hk, h.ptrs.trans (ptrsKept_withSlot hb slot e),
    ⟨_, dirAt_withSlot h1 hb slot e⟩, _, dirAt_withSlot h2 hb slot e⟩

lemma Between.swap : Between d c s₀ dir' b' dir b s :=
  ⟨h.keeps, h.ptrs, h.second, h.first⟩

end

end Between

lemma renameOver_keeps (hs : Sound d s) {srcDir dstDir srcTarget dstTarget : BitVec 32}
    {is id : DiskInode} {bs bd : ℕ} (hsrc : DirAt s d srcDir is bs) (hdst : DirAt s d dstDir id bd)
    (srcType : InodeType) (srcSlot dstSlot : Fin 64) (dstName : List Byte) :
    Kept d c s
      (renameOver d srcDir srcTarget srcType srcSlot dstDir dstName dstTarget dstSlot) s := by
  rw [renameOver_eq]
  cases hfs : foundInode s d srcTarget with
  | error e => exact .of_run (exec_bind_error (by rw [exec_readInode, hfs])) (.refl hs)
  | ok oldSrc =>
    refine epost_bind (by rw [exec_readInode, hfs]) ?_
    cases hfd : foundInode s d dstTarget with
    | error e => exact .of_run (exec_bind_error (by rw [exec_readInode, hfd])) (.refl hs)
    | ok oldDst =>
      obtain ⟨hn, -, rfl⟩ := foundInode_eq_ok hfd
      refine epost_bind (by rw [exec_readInode, hfd]) (epost_bind exec_hasOpenReferences ?_)
      have h0 : Between d c s srcDir bs dstDir bd s :=
        ⟨.refl hs, fun _ _ => .refl _, ⟨_, hsrc⟩, _, hdst⟩
      refine epost_bind (exec_bumpDir hsrc.foundInode_eq) ?_
      have h1 := h0.bump hsrc.foundInode_eq
      have hother : EPost volume (bumpOther d srcDir dstDir)
          (setInode s d srcDir is.bumpGeneration.recomputeChecksum) (fun _ s' => Keeps d c s s')
          fun _ s' => Between d c s srcDir bs dstDir bd s' := by
        refine .ite (fun _ => ?_) fun _ => .pure h1
        obtain ⟨_, hd⟩ := h1.second
        exact .of_run (exec_bumpDir hd.foundInode_eq) (h1.bump hd.foundInode_eq)
      refine hother.bind fun _ s2 h2 => ?_
      obtain ⟨hrun3, h3⟩ := h2.putFirst srcSlot .empty
      obtain ⟨hrun4, h4⟩ := h3.swap.putFirst dstSlot (newEntry srcTarget srcType dstName)
      refine epost_bind hrun3 (epost_bind hrun4 ?_)
      have hi := (samePtrs_replaced (inodeAt s d dstTarget) (decide (∃ i,
        (s.objects i).occupied ∧ (s.objects i).deviceId = d ∧
          (s.objects i).inodeNum = dstTarget))).trans (h4.ptrs dstTarget hn).symm
      refine (Kept.after h4.keeps (settleTarget_keeps h4.keeps.sound hn hi)).bind
        fun newDst s5 h5 => ?_
      exact Kept.after h5 (renameRecord_keeps h5.sound rfl rfl rfl rfl)

lemma insert_keeps (hs : Sound d s) (ty : InodeType) :
    EPost volume (Dir.insert d dir name target ty) s (fun _ s' => s' = s) fun _ s' =>
      Keeps d c s s' := by
  refine (insert_spec target ty).mono (fun _ _ => id) ?_
  rintro ⟨slot, e⟩ _ ⟨i, b, hdir, -, -, -, rfl⟩
  exact keeps_entry hdir hs slot e

lemma rename_keeps (hs : Sound d s) {srcDir dstDir : BitVec 32} {srcName dstName : List Byte}
    {flags : BitVec 32} : Kept d c s (rename d srcDir srcName dstDir dstName flags) s := by
  unfold rename
  cases hv : validateFilename srcName with
  | error e => exact .of_run (exec_bind_error (exec_result _)) (.refl hs)
  | ok _ =>
    refine epost_bind (exec_result _) ?_
    cases hv' : validateFilename dstName with
    | error e => exact .of_run (exec_bind_error (exec_result _)) (.refl hs)
    | ok _ =>
      refine epost_bind (exec_result _) ?_
      cases hl : lookedUp s d srcDir srcName with
      | error e => exact .of_run (exec_bind_error (by rw [exec_lookup, hl])) (.refl hs)
      | ok x =>
        obtain ⟨srcTarget, srcType, srcSlot⟩ := x
        obtain ⟨is, bs, hsrc, -⟩ := lookedUp_eq_ok hl
        refine epost_bind (by rw [exec_lookup, hl]) (epost_bind (exec_attempt exec_lookup) ?_)
        cases hl' : lookedUp s d dstDir dstName with
        | error e =>
          refine .bind ((insert_keeps (c := c) hs srcType).mono ?_ fun _ _ => id) ?_
          · rintro _ _ rfl
            exact .refl hs
          rintro ⟨dstSlot, entry⟩ s1 h1
          refine (Kept.after h1 (unlink_keeps h1.sound)).bind fun _ s2 h2 => ?_
          have hmagic : (moveRecord srcDir srcSlot srcTarget dstDir dstSlot entry).magic =
            journalMagicV2 := rfl
          exact Kept.after h2 (renameRecord_keeps h2.sound hmagic rfl rfl rfl)
        | ok x =>
          obtain ⟨dstTarget, dstType, dstSlot⟩ := x
          obtain ⟨id, bd, hdst, -⟩ := lookedUp_eq_ok hl'
          refine .ite (fun _ => .throw (.refl hs)) fun _ => ?_
          refine .ite (fun _ => .throw (.refl hs)) fun _ => ?_
          dsimp only
          rw [← removable_bind]
          refine (removable_keeps hs dstType).bind ?_
          rintro empty _ rfl
          refine .ite (fun _ => .throw (.refl hs)) fun _ => ?_
          exact renameOver_keeps hs hsrc hdst srcType srcSlot dstSlot dstName

end ProjectZero.Fs.Steps
