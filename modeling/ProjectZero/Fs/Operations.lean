import ProjectZero.Fs.Steps

/-! # System calls on a sound volume

What the operations of a run do to a sound volume: opening and creating files and directories,
reading, writing, closing, and the recovery when a volume is mounted. -/

namespace ProjectZero.Fs.Operations

open Lib.Layout Lib.Program Fs.Types Store Inode Journal Dir File Calls Inspect
open Replay Owners Fs.Mapping Soundness Chunk Lookup Steps

variable {d : DeviceId} {c : Prop} {s : Volume} {g : Table} {n dir : BitVec 32}
  {name : List Byte} {pid : BitVec 64} {flags : BitVec 32}

/-! ### Opening files -/

/-- An inode that was just allocated. -/
structure New (d : DeviceId) (s : Volume) (n : BitVec 32) (ty : InodeType) (pid : BitVec 64) :
    Prop where
  slot : IsSlot n
  ne_root : n ≠ rootDirInode
  allocated : Allocated s d n
  inode : inodeAt s d n = (newInode ty pid).recomputeChecksum

lemma noPtrs_newInode (ty : InodeType) (pid : BitVec 64) :
    NoPtrs (newInode ty pid).recomputeChecksum := ⟨fun _ => rfl, rfl⟩

lemma New.noPtrs {ty : InodeType} (h : New d s n ty pid) : NoPtrs (inodeAt s d n) := by
  rw [h.inode]
  exact noPtrs_newInode ty pid

lemma New.foundInode_eq {ty : InodeType} (h : New d s n ty pid) :
    foundInode s d n = .ok (inodeAt s d n) := by
  rw [foundInode, if_pos h.slot, if_pos]
  rw [h.inode]
  exact readable_recomputeChecksum _

section

variable (hs : Sound d s)

include hs

lemma allocInode_keeps (ty : InodeType) (pid : BitVec 64) :
    EPost volume (allocInode d ty pid) s (fun _ s' => s' = s) fun n s' =>
      Keeps d c s s' ∧ New d s' n ty pid ∧ blockBits s' d = blockBits s d := by
  cases hf : freeInodeNum s d with
  | none => exact .of_run (exec_allocInode_none hf ty pid) rfl
  | some idx =>
    obtain ⟨h2, h256, hbit⟩ := freeInodeNum_eq_some hf
    have hn := isSlot_ofNat h2 h256
    have hidx : (BitVec.ofNat 32 idx).toNat = idx := toNat_ofNat_lba (by omega)
    have hrun := exec_allocInode_some hf ty pid
    have hst : setInode (setInodeBits s d (update (inodeBits s d) (bitIdx idx) true)) d
        (BitVec.ofNat 32 idx) (newInode ty pid).recomputeChecksum =
        withInode s d (BitVec.ofNat 32 idx) true (newInode ty pid).recomputeChecksum := by
      rw [withInode, hidx]
    rw [hst] at hrun
    refine .of_run hrun ⟨?_, ⟨hn, ?_, ?_, ?_⟩, ?_⟩
    · refine keeps_withInode hs hn true (noPtrs_newInode ty pid) ?_
      intro _ _ ha
      rw [Allocated, hidx, hbit] at ha
      cases ha
    · intro h
      have := congrArg BitVec.toNat h
      rw [hidx] at this
      simp [rootDirInode] at this
      omega
    · rw [Allocated, withInode, inodeBits_setInode, inodeBits_setInodeBits, update_self]
    · rw [inodeAt_withInode, update_self]
    · rw [withInode, blockBits_setInode, blockBits_setInodeBits]

lemma keeps_discard (hn : IsSlot n) (hp : NoPtrs (inodeAt s d n)) :
    Keeps d c s (withInode s d n false DiskInode.empty.recomputeChecksum) := by
  refine keeps_withInode hs hn false (noPtrs_recomputeChecksum noPtrs_empty) ?_
  rintro - - - l - ⟨p, hp'⟩
  rw [hp.ref_eq] at hp'
  cases hp'

lemma createFile_keeps : Kept d c s (createFile d dir name pid) s := by
  refine .bind ((allocInode_keeps (c := c) hs .regular pid).mono ?_ fun _ _ => id) ?_
  · rintro _ _ rfl
    exact .refl hs
  rintro n s1 ⟨h1, hnew, -⟩
  refine (epost_attempt (insert_keeps (c := c) h1.sound .regular)).bind ?_
  rintro (e | x) s2 h2
  · -- the entry was not written
    cases h2
    refine epost_bind (exec_ignore (exec_freeInode_withInode hnew.slot)) (EPost.throw ?_)
    exact h1.trans (keeps_discard h1.sound hnew.slot hnew.noPtrs)
  · exact .pure (h1.trans h2)

lemma cutOnOpen_keeps : Kept d c s (cutOnOpen d n flags) s := by
  refine .ite (fun _ => ?_) fun _ => .pure (.refl hs)
  refine epost_bind (exec_attempt exec_readInode) ?_
  cases hf : foundInode s d n with
  | error e => exact .pure (.refl hs)
  | ok i =>
    obtain ⟨hn, -, rfl⟩ := foundInode_eq_ok hf
    obtain ⟨r, j, s', hrun, -, hk⟩ := truncated_keeps (c := c) hs hn (.refl (inodeAt s d n))
    exact epost_bind hrun (Post.of_run (exec_ignore (exec_writeInode hn j)) hk)

lemma openTarget_keeps : Kept d c s (openTarget d dir name flags pid) s := by
  refine epost_bind (exec_attempt exec_lookup) ?_
  match lookedUp s d dir name with
  | .ok (n, _, _) => exact (cutOnOpen_keeps hs).bind fun _ _ h => .pure h
  | .error e =>
    cases e
    case notFound => exact .ite (fun _ => createFile_keeps hs) fun _ => .throw (.refl hs)
    all_goals exact .throw (.refl hs)

lemma keeps_objects {t : Objects} (ht : ∀ i, (t i).occupied → (t i).deviceId = d) :
    Keeps d c s { s with objects := t } := keepsAt_objects hs ht

lemma keeps_object (i : ObjectIdx) {o : StorageObject} (ho : o.occupied → o.deviceId = d) :
    Keeps d c s { s with objects := update s.objects i o } :=
  keeps_objects hs (Lib.Update.update_all (P := fun _ (o : StorageObject) => o.occupied →
    o.deviceId = d) ho fun k _ => hs.here k)

lemma allocStorageObject_keeps (n generation openFlags : BitVec 32) (size : BitVec 64) :
    Kept d c s (allocStorageObject d n generation openFlags size) s := by
  refine epost_bind exec_objects ?_
  split
  · exact .throw (.refl hs)
  · exact epost_bind (exec_setObjects _) (EPost.pure (keeps_object hs _ fun _ => rfl))

lemma fileOpen_keeps : Kept d c s (Calls.fileOpen d dir name flags pid) s := by
  rw [fileOpen_eq]
  refine (openTarget_keeps hs).bind fun n s1 h1 => ?_
  cases hf : foundInode s1 d n with
  | error e => exact .of_run (exec_bind_error (by rw [exec_readInode, hf])) h1
  | ok i =>
    exact epost_bind (by rw [exec_readInode, hf])
      (Kept.after h1 (allocStorageObject_keeps h1.sound n _ flags _))

/-! ### Making directories -/

lemma attach_keeps {ty : InodeType} (hnew : New d s n ty pid) :
    EPost volume (bmapAlloc d ⟨inodeAt s d n, [], []⟩ 0) s (fun _ s' => s' = s) fun r s' =>
      KeepsAt d c s (inodeAt s d) s' (update (inodeAt s d) n r.2.inode) ∧
        ForData d s' (update (inodeAt s d) n r.2.inode) r.1 ∧ LowSame d s s' ∧
        blockBits s' d ≠ blockBits s d := by
  refine (bmapAlloc_maps _ 0).mono ?_ ?_
  · rintro _ _ (rfl | ⟨h18, -⟩)
    · rfl
    · omega
  rintro ⟨l, tx⟩ s1 hmaps
  have hmoved := hmaps.moved hs.owned hnew.slot (.refl _)
  have howned := hmoved.owned_new (n := n) hs.owned (.refl _)
  have hlow := Moved.lowSame hmoved
  refine ⟨⟨⟨howned, ?_, by rw [hmoved.objects]; exact hs.here⟩, fun _ ht => ?_⟩,
    Moved.forData_here hmoved howned hnew.slot, hlow, ?_⟩
  · rw [hlow _ (by decide) (by decide)]
    exact hs.idle
  · refine Moved.tight hmoved hs.owned hnew.slot hnew.ne_root hnew.allocated (.refl _) ?_ ht
    -- a direct block is added without a copy of the indirect block
    generalize hidx : 0 = idx at hmaps
    cases hmaps with
    | kept h h0 => rfl
    | direct h h0 hk => rfl
    | first slot h0 hk hk' => omega
    | copy slot h0 hk hk' => omega
  intro hbits
  have hl : l ≠ 0 := hmoved.ne_zero
  rcases hmoved.old_or_fresh with ⟨hold, -⟩ | ⟨hf, -⟩
  · rw [hnew.noPtrs.lbaAt_eq] at hold
    exact hl hold.symm
  refine hf.2 ?_
  rw [Taken, ← hbits]
  exact (hmoved.taken (.inl hf.1)).mpr (.inr (.inl rfl))

/-- **`create_dir`** keeps the volume sound; it loses a block if it fails after the new directory has
got its block. -/
lemma createDir_keeps :
    EPost volume (createDir d dir name pid) s
      (fun _ s' => Keeps d c s s' ∨ Keeps d False s s' ∧ blockBits s' d ≠ blockBits s d)
      fun _ s' => Keeps d c s s' := by
  unfold createDir
  cases hv : validateFilename name with
  | error e => exact .of_run (exec_bind_error (exec_result _)) (.inl (.refl hs))
  | ok _ =>
    refine epost_bind (exec_result _) ?_
    refine .bind ((allocInode_keeps (c := c) hs .directory pid).mono ?_ fun _ _ => id) ?_
    · rintro _ _ rfl
      exact .inl (.refl hs)
    rintro n s1 ⟨h1, hnew, hbits1⟩
    refine epost_bind (by rw [exec_readInode, hnew.foundInode_eq]) ?_
    refine (epost_attempt (attach_keeps (c := c) h1.sound hnew)).bind ?_
    rintro (e | ⟨l, tx⟩) s2 h2
    · cases h2
      refine epost_bind (exec_ignore (exec_freeInode_withInode hnew.slot)) (EPost.throw (.inl ?_))
      exact h1.trans (keeps_discard h1.sound hnew.slot hnew.noPtrs)
    obtain ⟨h2, hdata, hlow, hbits2⟩ := h2
    refine epost_bind (exec_writeBlock _ _ _ _) (epost_bind (exec_writeInode hnew.slot _) ?_)
    -- the block is written and the inode gets its pointer
    obtain ⟨s4, hs4⟩ : ∃ s4, s4 = setInode (s2.put d l.toNat ((format .raw).symm zeroBlock)) d n
      { tx.inode with linksCount := 1, generation := 1 }.recomputeChecksum := ⟨_, rfl⟩
    rw [← hs4]
    have hge := hdata.le
    have hk3 := h2.trans (keepsAt_put (c := c) h2.sound (b := l.toNat)
      (fun h => by rw [h] at hge; exact absurd hge (by decide))
      (fun h => by rw [h] at hge; exact absurd hge (by decide))
      (fun h => by rw [h] at hge; exact absurd hge (by decide)) hdata.notPtrs
      ((format .raw).symm zeroBlock))
    have htable : ∀ m, IsSlot m → SamePtrs
        (update (inodeAt (s2.put d l.toNat ((format .raw).symm zeroBlock)) d) n tx.inode m)
        (update (inodeAt s1 d) n tx.inode m) := by
      intro m hm
      by_cases hmn : m = n
      · subst hmn
        rw [update_self, update_self]
        exact .refl _
      rw [update_of_ne hmn, update_of_ne hmn, inodeAt_put (.inr hge) _ hm, hlow.inodeAt_eq hm]
      exact .refl _
    have hk3' := hk3.table htable
    have h4 : Keeps d c s s4 := by
      rw [hs4]
      exact h1.trans (hk3'.trans (keepsAt_install hk3'.sound hnew.slot ⟨rfl, rfl⟩))
    have hbits4 : blockBits s4 d ≠ blockBits s d := by
      rw [hs4, blockBits_setInode, blockBits_put_of_ne, ← hbits1]
      · exact hbits2
      intro h
      rw [h] at hge
      exact absurd hge (by decide)
    refine (epost_attempt (insert_keeps (c := c) h4.sound .directory)).bind ?_
    rintro (e | ⟨slot, entry⟩) s5 h5
    · -- the inode is freed, its block is not
      cases h5
      refine epost_bind (exec_ignore (exec_freeInode_withInode hnew.slot))
        (EPost.throw (.inr ⟨?_, ?_⟩))
      · have hk : Keeps d False s s4 := ⟨h4.sound, False.elim⟩
        exact hk.trans (keeps_withInode h4.sound hnew.slot false
          (noPtrs_recomputeChecksum noPtrs_empty) False.elim)
      · rwa [withInode, blockBits_setInode, blockBits_setInodeBits]
    · exact .pure (h4.trans h5)

end

/-- A call of `create_dir` that fails has taken no block. -/
def DirThrifty (d : DeviceId) (parent : BitVec 32) (name : List Byte) (pid : BitVec 64)
    (s : Volume) : Prop :=
  ∀ e s', exec volume (createDir d parent name pid) s = (some (.error e), s') →
    blockBits s' d = blockBits s d

lemma dirCreate_keeps (hs : Sound d s) (hc : c → DirThrifty d dir name pid s) :
    Kept d c s (Calls.dirCreate d dir name pid) s := by
  refine .bind (EPost.mono ((createDir_keeps (c := c) hs).and EPost.self) ?_ fun _ _ => id) ?_
  · rintro e s' ⟨hk | ⟨hk, hbits⟩, hrun⟩
    · exact hk
    · exact ⟨hk.sound, fun hc' => absurd (hc hc' e s' hrun) hbits⟩
  rintro ⟨n, slot, entry⟩ s1 ⟨h1, -⟩
  exact Kept.after h1 (allocStorageObject_keeps h1.sound n _ _ _)

/-! ### Reading and writing -/

lemma modifyObject_keeps (hs : Sound d s) (i : ObjectIdx) (f : StorageObject → StorageObject)
    (hf : (f (s.objects i)).occupied → (f (s.objects i)).deviceId = d) :
    exec volume (modifyObject i f) s =
        (some (.ok ()), { s with objects := update s.objects i (f (s.objects i)) }) ∧
      Keeps d c s { s with objects := update s.objects i (f (s.objects i)) } :=
  ⟨rfl, keeps_object hs i hf⟩

lemma bmap_silent (i : DiskInode) (idx : ℕ) :
    EPost volume (bmap d i idx) s (fun _ s' => s' = s) fun _ s' => s' = s := by
  unfold bmap
  split
  · exact .pure rfl
  split
  · exact .ite (fun _ => .pure rfl) fun _ =>
      epost_bind (exec_readBlock _ _ _) (EPost.pure rfl)
  · exact .throw rfl

lemma readSpans_silent (i : DiskInode) : ∀ (ps : List (ℕ × ℕ)) {s : Volume},
    EPost volume (readSpans d i ps) s (fun _ s' => s' = s) fun _ s' => s' = s
  | [], _ => .pure rfl
  | (pos, k) :: ps, s => by
    refine (bmap_silent i _).bind ?_
    rintro r s rfl
    have hrest : ∀ piece : List Byte, EPost volume (do
        let rest ← readSpans d i ps
        pure (piece ++ rest)) s (fun _ s' => s' = s) fun _ s' => s' = s := fun piece =>
      (readSpans_silent i ps).bind fun _ _ h => .pure h
    cases r with
    | none => exact hrest _
    | some l => exact epost_bind (exec_readBlock _ _ _) (hrest _)

lemma read_keeps (hs : Sound d s) (i : ObjectIdx) (len : ℕ) : Kept d c s (File.read i len) s := by
  refine .ite (fun _ => .pure (.refl hs)) fun _ => epost_bind exec_objects ?_
  refine .ite (fun _ => .throw (.refl hs)) fun hocc => ?_
  have hdev := hs.here i (by simpa using hocc)
  refine .bind (epost_addChecked _ _) ?_
  rintro inFlightOps s ⟨-, rfl⟩
  obtain ⟨hrun1, h1⟩ := modifyObject_keeps (c := c) hs i (fun o => { o with inFlightOps })
    fun _ => hdev
  refine epost_bind hrun1 ?_
  obtain ⟨s1, hs1⟩ : ∃ s1 : Volume, s1 = { s with
    objects := update s.objects i ({ s.objects i with inFlightOps }) } := ⟨_, rfl⟩
  rw [← hs1] at h1 ⊢
  have hdev1 : (s1.objects i).deviceId = d := by
    rw [hs1]
    simpa using hdev
  refine .ite (fun _ => ?_) fun _ => ?_
  · obtain ⟨hrun2, h2⟩ := modifyObject_keeps (c := c) h1.sound i
      (fun o => { o with inFlightOps := pred o.inFlightOps }) fun _ => hdev1
    exact epost_bind hrun2 (EPost.pure (h1.trans h2))
  cases hf : foundInode s1 (s.objects i).deviceId (s.objects i).inodeNum with
  | error e => exact .of_run (exec_bind_error (by rw [exec_readInode, hf])) h1
  | ok inode =>
    refine epost_bind (by rw [exec_readInode, hf]) ?_
    refine .bind ((readSpans_silent inode _).mono ?_ fun _ _ => id) ?_
    · rintro _ _ rfl
      exact h1
    rintro bytes s1 rfl
    refine .bind (epost_addChecked _ _) ?_
    rintro cursorOffset s1 ⟨-, rfl⟩
    obtain ⟨hrun2, h2⟩ := modifyObject_keeps (c := c) h1.sound i
      (fun o => { o with cursorOffset, inFlightOps := pred o.inFlightOps }) fun _ => hdev1
    exact epost_bind hrun2 (EPost.pure (h1.trans h2))

/-- No chunk of a write loses a block. -/
def WriteThrifty (d : DeviceId) (n : BitVec 32) (cursor : BitVec 64) :
    List (List Byte) → ℕ → Volume → Prop
  | [], _, _ => True
  | chunk :: l, total, s =>
    Thrifty d n (cursor + BitVec.ofNat 64 total) chunk s ∧
      ∀ w s', exec volume (writeChunkTx d n (cursor + BitVec.ofNat 64 total) chunk) s =
        (some (.ok w), s') → WriteThrifty d n cursor l (total + w) s'

lemma writeChunks_keeps (cursor : BitVec 64) : ∀ (l : List (List Byte)) (total : ℕ) {s : Volume},
    Sound d s → (c → WriteThrifty d n cursor l total s) →
    EPost volume (writeChunks d n cursor l total) s (fun _ _ => False) fun _ s' => Keeps d c s s'
  | [], _, _, hs, _ => .pure (.refl hs)
  | chunk :: l, total, s, hs, hc => by
    refine (epost_addChecked _ _).bind ?_
    rintro pos s ⟨rfl, rfl⟩
    refine (epost_attempt (EPost.and (writeChunkTx_keeps (c := c) hs fun hc' => (hc hc').1)
      EPost.self)).bind ?_
    rintro (e | w) s1 ⟨h1, hrun⟩
    · exact .pure h1
    refine (writeChunks_keeps cursor l (total + w) h1.sound fun hc' =>
      (hc hc').2 w s1 hrun).mono (fun _ _ => id) fun _ _ => h1.trans

/-- The volume when the first chunk of a write begins: the operation is counted in the open file. -/
def writing (s : Volume) (i : ObjectIdx) : Volume :=
  { s with
    objects := update s.objects i
      ({ s.objects i with inFlightOps := (s.objects i).inFlightOps + 1 }) }

lemma write_keeps (hs : Sound d s) (i : ObjectIdx) (data : List Byte)
    (hc : c → WriteThrifty d (s.objects i).inodeNum (s.objects i).cursorOffset (chunks data) 0
      (writing s i)) : Kept d c s (File.write i data) s := by
  refine .ite (fun _ => .pure (.refl hs)) fun _ => epost_bind exec_objects ?_
  refine .ite (fun _ => .throw (.refl hs)) fun hocc => ?_
  refine .ite (fun _ => .throw (.refl hs)) fun _ => ?_
  have hdev := hs.here i (by simpa using hocc)
  refine .bind (epost_addChecked _ _) ?_
  rintro inFlightOps s ⟨rfl, rfl⟩
  obtain ⟨hrun1, h1⟩ : exec volume (modifyObject i fun o =>
        { o with inFlightOps := (s.objects i).inFlightOps + 1 }) s = (some (.ok ()), writing s i) ∧
      Keeps d c s (writing s i) := modifyObject_keeps hs i _ fun _ => hdev
  refine epost_bind hrun1 ?_
  rw [hdev]
  refine .bind ((writeChunks_keeps _ _ 0 h1.sound hc).mono (fun _ _ => False.elim) fun _ _ => id) ?_
  rintro ⟨total, err⟩ s2 h2
  refine .bind (epost_addChecked _ _) ?_
  rintro cursorOffset s2 ⟨-, rfl⟩
  obtain ⟨hrun3, h3⟩ := modifyObject_keeps (c := c) h2.sound i (fun o =>
    { o with
      cursorOffset
      cachedSize := if o.cachedSize.toNat < cursorOffset.toNat then cursorOffset else o.cachedSize
      inFlightOps := pred o.inFlightOps }) fun hocc => h2.sound.here i hocc
  refine epost_bind hrun3 ?_
  have hk := h1.trans (h2.trans h3)
  cases err with
  | none => exact .pure hk
  | some e => exact .ite (fun _ => .pure hk) fun _ => .throw hk

/-! ### Closing -/

lemma freeStorageObject_keeps (hs : Sound d s) (i : ObjectIdx) :
    Kept d c s (freeStorageObject i) s := by
  refine epost_bind exec_objects (EPost.ite (fun hocc => ?_) fun _ => .pure (.refl hs))
  have hdev := hs.here i hocc
  obtain ⟨hrun1, h1⟩ := modifyObject_keeps (c := c) hs i (fun _ => .empty) nofun
  refine epost_bind hrun1 ?_
  obtain ⟨s1, hs1⟩ : ∃ s1 : Volume, s1 = { s with
    objects := update s.objects i StorageObject.empty } := ⟨_, rfl⟩
  rw [← hs1] at h1 ⊢
  rw [hdev]
  refine epost_bind exec_hasOpenReferences (EPost.ite (fun _ => .pure h1) fun _ => ?_)
  refine epost_bind (exec_attempt exec_readInode) ?_
  cases hf : foundInode s1 d (s.objects i).inodeNum with
  | error e => exact .pure h1
  | ok inode =>
    obtain ⟨hn, -, rfl⟩ := foundInode_eq_ok hf
    refine .ite (fun _ => ?_) fun _ => .pure h1
    exact Kept.after h1 (delete_keeps h1.sound hn (.refl _))

/-! ### Mounting -/

/-- The inodes of a rename are written back. -/
def withImages (s : Volume) (d : DeviceId) (jrn : DiskJournalBlockV2) : Volume :=
  withImage (withImage s d jrn.srcTargetInodeNum jrn.srcNewInodeImage.recomputeChecksum) d
    jrn.dstTargetInodeNum jrn.dstNewInodeImage.recomputeChecksum

/-- The volume that a recovery leaves, if the journal is idle. -/
def remounted (s : Volume) (d : DeviceId) : Volume :=
  if (s.get d .journalV2 journalBlock).magic = journalMagicV2 then
    withJournal (withImages s d (s.get d .journalV2 journalBlock)) d
      (cleared (s.get d .journalV2 journalBlock).sequence)
  else s

lemma redoneV2_of_empty {jrn : DiskJournalBlockV2} (ha : jrn.allocatedBlocksCount = 0)
    (hf : jrn.freedBlocksCount = 0) : redoneV2 s d jrn = withImages s d jrn := by
  rw [redoneV2, ha, hf, listed_zero, listed_zero, withBits, markAll_nil, markAll_nil,
    setBlockBits_self]
  rfl

/-- **Recovery with an idle journal.** -/
lemma exec_recover_idle (h : Idle (s.blocks d journalBlock)) :
    exec volume (recover d) s = (some (.ok ()), remounted s d) := by
  rcases h with ⟨hm, hst⟩ | ⟨hm, hst, hv, ha, hf⟩
  · have hm' : (s.get d .journalV2 journalBlock).magic ≠ journalMagicV2 := hm
    have hst' : (s.get d .journal journalBlock).state = JournalState.free.toU32 := hst
    rw [remounted, if_neg hm', exec_recover_V1 rfl hm, recoverV1, if_pos hst']
    rfl
  have hm' : (s.get d .journalV2 journalBlock).magic = journalMagicV2 := hm
  have hredo : redoneV2 s d (s.get d .journalV2 journalBlock) = _ := redoneV2_of_empty ha hf
  have hrun : exec volume (recoverV2 d (s.get d .journalV2 journalBlock)) s = _ :=
    exec_recoverV2_committed hst hv
  rw [hredo] at hrun
  rw [remounted, if_pos hm', exec_recover_V2 rfl hm]
  exact hrun

lemma keeps_withImage (hs : SoundAt d s g) (n : BitVec 32) (i : DiskInode) :
    KeepsAt d c s g (withImage s d n i) g := by
  unfold withImage
  split
  · exact keepsAt_setInode hs ‹_› i
  · exact .refl hs

/-- **Recovery** keeps a volume sound if it leaves the pointers of all inodes as they are. -/
lemma keeps_remounted (hs : Sound d s) (hp : PtrsKept d s (remounted s d)) :
    Keeps d c s (remounted s d) := by
  revert hp
  unfold remounted
  split
  · intro hp
    have h1 := keeps_withImage (c := c) hs (s.get d .journalV2 journalBlock).srcTargetInodeNum
      (s.get d .journalV2 journalBlock).srcNewInodeImage.recomputeChecksum
    have h2 := h1.trans (keeps_withImage (c := c) h1.sound
      (s.get d .journalV2 journalBlock).dstTargetInodeNum
      (s.get d .journalV2 journalBlock).dstNewInodeImage.recomputeChecksum)
    exact (h2.trans (keepsAt_journal h2.sound (idle_cleared _))).table hp
  · exact fun _ => .refl hs

lemma mountVolume_keeps (hs : Sound d s) (hp : PtrsKept d s (remounted s d)) :
    Kept d c s (mountVolume d) s := by
  refine epost_bind (exec_readBlock _ _ _) ?_
  refine .ite (fun _ => .throw (.refl hs)) fun _ => ?_
  have h1 := keeps_remounted (c := c) hs hp
  refine epost_bind (exec_recover_idle hs.idle) (epost_bind (exec_writeBlock _ _ _ _)
    (epost_bind (exec_syncAllBuffers _) (EPost.pure ?_)))
  exact h1.trans (keeps_superblock h1.sound _)

end ProjectZero.Fs.Operations
