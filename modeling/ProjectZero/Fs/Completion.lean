import ProjectZero.Fs.Durable
import ProjectZero.Fs.Replay
import ProjectZero.Fs.Typed

/-! # Two ways to complete a write

A write that has its `Committed` record is completed by `write_chunk_tx` itself, or after a crash by
`recover`. Both install the same inode. The second also clears the bits of the blocks on the record's
list of freed blocks, which the first leaves set (`completion_agrees`). -/

namespace ProjectZero.Fs.Completion

open Lib.Layout Lib.Program Fs.Types Store Inode Journal File Buf Transparent
open Durable Inspect Replay Typed Calls

variable {s s' : System Disks} {vol vol' : Volume} {d : DeviceId} {n : BitVec 32} {tx : Tx}

/-! ### The record of a write -/

/-- The lists of the transaction fit into the record. -/
def Fits (tx : Tx) : Prop := tx.allocated.length ≤ 10 ∧ tx.freed.length ≤ 10

lemma length_record {l : List (BitVec 32)} (h : l.length ≤ 10) (lba : BitVec 32) :
    (record l lba).length ≤ 10 := by
  unfold record
  split
  · rw [List.length_append, List.length_singleton]
    omega
  · exact h

lemma bmapAlloc_fits (h : Fits tx) (idx : ℕ) :
    EPost volume (bmapAlloc d tx idx) vol (fun _ _ => True) fun r _ => Fits r.2 := by
  unfold bmapAlloc
  split
  · refine .ite (fun _ => .pure h) fun _ => ?_
    refine EPost.trivial.bind fun _ _ _ => EPost.trivial.bind fun _ _ _ => .pure ?_
    exact ⟨length_record h.1 _, h.2⟩
  split
  · refine EPost.trivial.bind fun l _ _ => ?_
    refine .ite (fun _ => ?_) fun _ => ?_
    · refine EPost.trivial.bind fun _ _ _ => EPost.trivial.bind fun _ _ _ =>
        EPost.trivial.bind fun _ _ _ => .pure ?_
      exact ⟨length_record (length_record h.1 _) _, h.2⟩
    refine EPost.trivial.bind fun _ _ _ => EPost.trivial.bind fun _ _ _ =>
      EPost.trivial.bind fun _ _ _ => EPost.trivial.bind fun _ _ _ => .pure ?_
    exact ⟨length_record (length_record h.1 _) _, length_record h.2 _⟩
  · exact .throw trivial

lemma mapSpans_fits : ∀ (l : List (ℕ × ℕ)) {tx : Tx} (lbas : List (BitVec 32)) {vol : Volume},
    Fits tx → EPost volume (mapSpans d l tx lbas) vol (fun _ _ => True) fun r _ => Fits r.1
  | [], _, _, _, h => .pure h
  | (pos, _) :: l, tx, lbas, vol, h => by
    refine .ite (fun _ => ?_) fun _ => .halt
    exact (bmapAlloc_fits h _).bind fun r _ hr => mapSpans_fits l _ hr

lemma listed_padded {l : List (BitVec 32)} (h : l.length ≤ 10) :
    listed (BitVec.ofNat 32 l.length) (padded l) = l := by
  have hn : (BitVec.ofNat 32 l.length).toNat = l.length := by
    rw [BitVec.toNat_ofNat]
    omega
  unfold listed
  rw [hn, min_eq_left h]
  apply List.ext_getElem
  · simp [h]
  intro i h1 h2
  rw [List.getElem_take, List.getElem_ofFn]
  exact (List.getElem_eq_getD _).symm

/-- The record that commits a write. -/
def commitRecord (n : BitVec 32) (old : DiskInode) (tx : Tx) : DiskJournalBlock :=
  { writeRecord n old tx with state := JournalState.committed.toU32 }.recomputeChecksum

/-- What is known when a write has been committed. -/
structure Committed (vol : Volume) (d : DeviceId) (n : BitVec 32) (tx : Tx) : Prop where
  slot : IsSlot n
  fits : Fits tx
  sealed : tx.inode.recomputeChecksum = tx.inode
  journal : ∃ old, vol.get d .journal journalBlock = commitRecord n old tx

lemma recomputeChecksum_idem (i : DiskInode) :
    i.recomputeChecksum.recomputeChecksum = i.recomputeChecksum := by
  have h : i.recomputeChecksum.crc = i.crc := by
    rw [DiskInode.crc, DiskInode.recomputeChecksum, DiskInode.headOf_checksum, DiskInode.crc]
  rw [DiskInode.recomputeChecksum, h, DiskInode.recomputeChecksum]

variable {chunk : List Byte}

lemma commitChunk_committed {pos : BitVec 64}
    (h : exec volume (commitChunk d n pos chunk) vol = (some (.ok tx), vol')) :
    Committed vol' d n tx := by
  obtain ⟨old, v1, hold, h⟩ := exists_of_exec_bind h
  obtain ⟨⟨tx', lbas⟩, v2, hmap, h⟩ := exists_of_exec_bind h
  obtain ⟨_, v3, -, h⟩ := exists_of_exec_bind h
  obtain ⟨_, v4, -, h⟩ := exists_of_exec_bind h
  obtain ⟨_, v5, -, h⟩ := exists_of_exec_bind h
  rw [exec_bind_ok (exec_writeJournalBlock _)] at h
  rw [exec_pure] at h
  cases h
  rw [exec_readInode] at hold
  have hslot := (foundInode_eq_ok (Option.some.inj (congrArg Prod.fst hold))).1
  obtain ⟨⟨tx0, lbas0⟩, v6, hspans, hmap⟩ := exists_of_exec_bind hmap
  obtain ⟨endPos, v7, -, hmap⟩ := exists_of_exec_bind hmap
  cases hmap
  have hfits : Fits tx0 := mapSpans_fits _ [] ⟨by simp, by simp⟩ _ _ hspans
  exact ⟨hslot, hfits, recomputeChecksum_idem _, old, Volume.get_put_self _ _ _⟩

/-! ### The two completions of a volume -/

/-- The volume that `write_chunk_tx` leaves. -/
def finished (vol : Volume) (d : DeviceId) (n : BitVec 32) (tx : Tx) : Volume :=
  withJournal (setInode vol d n tx.inode) d (cleared 2)

/-- The volume that `recover` leaves. -/
def recovered (vol : Volume) (d : DeviceId) (n : BitVec 32) (tx : Tx) : Volume :=
  withJournal (withBits (setInode vol d n tx.inode) d tx.allocated tx.freed) d (cleared 1)

lemma exec_finishChunk (h : Committed vol d n tx) :
    exec volume (finishChunk d n tx.inode) vol = (some (.ok ()), finished vol d n tx) := by
  unfold finishChunk
  rw [exec_bind_ok (exec_writeInode h.slot _), exec_bind_ok (exec_syncAllBuffers _), exec_clear,
    h.sealed]
  rfl

/-- Redoing the record of a write installs the inode and changes the bitmap. -/
lemma redone_commitRecord (hslot : IsSlot n) (hfits : Fits tx) (old : DiskInode) :
    redone vol d (commitRecord n old tx) =
      withBits (setInode vol d n tx.inode) d tx.allocated tx.freed := by
  have ha : allocatedOf (commitRecord n old tx) = tx.allocated := listed_padded hfits.1
  have hf : freedOf (commitRecord n old tx) = tx.freed := listed_padded hfits.2
  have himage : withImage vol d (commitRecord n old tx).targetInodeNum
      (commitRecord n old tx).newInodeImage = setInode vol d n tx.inode := if_pos hslot
  have hentry : ∀ v, withEntry v d (commitRecord n old tx).dirEntrySlot
      (commitRecord n old tx).dirEntryCopy = v := fun v => dif_neg fun h => h.1 rfl
  have hbit : ∀ v, withInodeBit v d (commitRecord n old tx) = v := by
    intro v
    have ht : IsSlot (commitRecord n old tx).targetInodeNum := hslot
    have ho : (commitRecord n old tx).opType = JournalOpType.write.toU32 := rfl
    rw [withInodeBit, if_pos ht, ho, if_neg (by decide), if_neg (by decide), setInodeBits_self]
  rw [redone, hbit, himage, hentry, ha, hf]

lemma exec_recover_committed (h : Committed vol d n tx) :
    exec volume (recover d) vol = (some (.ok ()), recovered vol d n tx) := by
  obtain ⟨old, hj⟩ := h.journal
  have hm : (commitRecord n old tx).magic = journalMagic := rfl
  have hc : (commitRecord n old tx).isValidChecksum :=
    DiskJournalBlock.isValidChecksum_recomputeChecksum _
  rw [exec_recover_V1 hj (by rw [hm]; decide), exec_recoverV1_committed hm rfl hc,
    redone_commitRecord h.slot h.fits]
  rfl

/-! ### When they agree -/

/-- The inode tables are the same, byte for byte. -/
def SameTable (vol vol' : Volume) (d : DeviceId) : Prop :=
  ∀ b, inodeTableStart ≤ b → b < inodeTableStart + inodeTableBlocks →
    vol.blocks d b = vol'.blocks d b

/-- The bitmap has nothing left to change for the transaction: its freed blocks are free already, and
its other blocks are taken. -/
def Reconciled (vol : Volume) (d : DeviceId) (tx : Tx) : Prop :=
  (∀ l ∈ tx.freed, InData l → blockBits vol d (bitIdx l.toNat) = false) ∧
    ∀ l ∈ tx.allocated, l ∉ tx.freed → InData l → blockBits vol d (bitIdx l.toNat)

lemma bitIdx_lba_inj {l l' : BitVec 32} (h : InData l) (h' : InData l')
    (he : bitIdx l.toNat = bitIdx l'.toNat) : l = l' :=
  BitVec.eq_of_toNat_eq ((bitIdx_inj h.2 h'.2).mp he)

/-- Setting and clearing the bits of the lists changes nothing just when the lists are reconciled. -/
lemma markAll_eq_self_iff {bits : Fin 32768 → Bool} {allocated freed : List (BitVec 32)} :
    markAll false freed (markAll true allocated bits) = bits ↔
      (∀ l ∈ freed, InData l → bits (bitIdx l.toNat) = false) ∧
        ∀ l ∈ allocated, l ∉ freed → InData l → bits (bitIdx l.toNat) := by
  constructor
  · intro h
    refine ⟨fun l hl hd => ?_, fun l hl hnf hd => ?_⟩
    · have hi := congrFun h (bitIdx l.toNat)
      rw [markAll_apply, if_pos ⟨l, hl, hd, rfl⟩] at hi
      exact hi.symm
    have hi := congrFun h (bitIdx l.toNat)
    rw [markAll_apply, if_neg, markAll_apply, if_pos ⟨l, hl, hd, rfl⟩] at hi
    · exact hi.symm
    rintro ⟨l', hl', hd', he⟩
    exact hnf (bitIdx_lba_inj hd' hd he ▸ hl')
  rintro ⟨hf, ha⟩
  funext i
  rw [markAll_apply]
  split
  next h =>
    obtain ⟨l, hl, hd, rfl⟩ := h
    exact (hf l hl hd).symm
  rename_i hnf
  rw [markAll_apply]
  split
  next h =>
    obtain ⟨l, hl, hd, rfl⟩ := h
    exact (ha l hl (fun hl' => hnf ⟨l, hl', hd, rfl⟩) hd).symm
  · rfl

lemma blockBits_withJournal (vol : Volume) (jrn : DiskJournalBlock) :
    blockBits (withJournal vol d jrn) d = blockBits vol d := blockBits_put_of_ne (by decide) _

lemma sameTable_completions (vol : Volume) (d : DeviceId) (n : BitVec 32) (tx : Tx) :
    SameTable (finished vol d n tx) (recovered vol d n tx) d := by
  intro b hb _
  simp only [inodeTableStart] at hb
  have h2 : b ≠ journalBlock := by
    simp only [journalBlock]
    omega
  have h4 : b ≠ blockBitmapBlock := by
    simp only [blockBitmapBlock]
    omega
  rw [finished, recovered, withJournal, withJournal, Volume.blocks_put_of_ne h2,
    Volume.blocks_put_of_ne h2, withBits, setBlockBits, Volume.blocks_put_of_ne h4]

lemma blockBits_completions :
    blockBits (finished vol d n tx) d = blockBits (recovered vol d n tx) d ↔
      Reconciled vol d tx := by
  rw [finished, recovered, blockBits_withJournal, blockBits_withJournal, withBits,
    blockBits_setBlockBits, blockBits_setInode, eq_comm, markAll_eq_self_iff]
  rfl

/-! ### On the machine -/

lemma Committed.congr (h : Committed vol d n tx) (hb : vol'.blocks d = vol.blocks d) :
    Committed vol' d n tx := by
  obtain ⟨old, hj⟩ := h.journal
  exact ⟨h.slot, h.fits, h.sealed, old, by rw [Volume.get, hb]; exact hj⟩

lemma finished_congr (hb : vol'.blocks d = vol.blocks d) (n : BitVec 32) (tx : Tx) :
    (finished vol' d n tx).blocks d = (finished vol d n tx).blocks d := by
  simp only [finished, withJournal, setInode, Volume.blocks_put, Volume.get, hb]

variable {jrn : DiskJournalBlock}

lemma synced_of_writeJournal (hs : Coherent s) (h : Synced s d) {r : Option (Except FsError Unit)}
    (hr : exec (machine disks) (writeJournalBlock d jrn) s = (r, s')) : Synced s' d := by
  obtain ⟨vol, hv⟩ := hs
  exact synced_of_writeSync hv h hr

lemma commitChunk_synced (hs : Coherent s) {pos : BitVec 64}
    (h : exec (machine disks) (commitChunk d n pos chunk) s = (some (.ok tx), s')) :
    Synced s' d := by
  obtain ⟨old, t1, h1, h⟩ := exists_of_exec_bind h
  obtain ⟨⟨tx', lbas⟩, t2, h2, h⟩ := exists_of_exec_bind h
  obtain ⟨_, t3, h3, h⟩ := exists_of_exec_bind h
  obtain ⟨_, t4, h4, h⟩ := exists_of_exec_bind h
  obtain ⟨_, t5, h5, h⟩ := exists_of_exec_bind h
  obtain ⟨_, t6, h6, h⟩ := exists_of_exec_bind h
  cases h
  have hc4 := coherent_of_exec (coherent_of_exec (coherent_of_exec (coherent_of_exec hs h1) h2) h3) h4
  obtain ⟨vol, hv⟩ := hc4
  exact synced_of_writeJournal (coherent_of_exec ⟨vol, hv⟩ h5) (synced_of_syncAll hv h5) h6

lemma finishChunk_synced (hs : Coherent s) {i : DiskInode}
    (h : exec (machine disks) (finishChunk d n i) s = (some (.ok ()), s')) : Synced s' d := by
  obtain ⟨_, t1, h1, h⟩ := exists_of_exec_bind h
  obtain ⟨_, t2, h2, h⟩ := exists_of_exec_bind h
  obtain ⟨vol, hv⟩ := coherent_of_exec hs h1
  exact synced_of_writeJournal (coherent_of_exec ⟨vol, hv⟩ h2) (synced_of_syncAll hv h2) h

lemma recoverV1_synced (hs : Coherent s) (hf : jrn.state ≠ JournalState.free.toU32)
    (h : exec (machine disks) (recoverV1 d jrn) s = (some (.ok ()), s')) : Synced s' d := by
  have hend : ∀ p : FsM Unit,
      exec (machine disks) (do p; clear d jrn.sequence; syncAllBuffers d) s =
        (some (.ok ()), s') → Synced s' d := by
    intro p h
    obtain ⟨_, t1, h1, h⟩ := exists_of_exec_bind h
    obtain ⟨_, t2, h2, h⟩ := exists_of_exec_bind h
    obtain ⟨vol, hv⟩ := coherent_of_exec (coherent_of_exec hs h1) h2
    exact synced_of_syncAll hv h
  unfold recoverV1 at h
  rw [if_neg hf] at h
  split at h
  · cases h
  iterate 2
    split at h
    · exact hend _ h
  · cases h

lemma recover_synced (hs : SystemShows s vol)
    (hj : vol.get d .journal journalBlock = jrn) (hm : jrn.magic ≠ journalMagicV2)
    (hf : jrn.state ≠ JournalState.free.toU32)
    (h : exec (machine disks) (recover d) s = (some (.ok ()), s')) : Synced s' d := by
  obtain ⟨raw, t1, h1, h⟩ := exists_of_exec_bind h
  have hr := exec_machine (readBlock d .raw journalBlock) hs
  rw [h1, exec_readBlock] at hr
  have hjrn : format .journal raw = jrn := by
    rw [← hj, Except.ok.inj (Option.some.inj hr.1)]
    rfl
  rw [if_neg (by rw [magic_eq, hjrn]; exact hm), hjrn] at h
  exact recoverV1_synced ⟨_, hr.2⟩ hf h

variable {startPos : BitVec 64} {s₃ : System Disks}

lemma completions (hs : Coherent s)
    (hc : exec (machine disks) (commitChunk d n startPos chunk) s = (some (.ok tx), s₃)) :
    ∃ sN sR, exec (machine disks) (finishChunk d n tx.inode) s₃ = (some (.ok ()), sN) ∧
      exec (machine disks) (recover d) (restarted s₃) = (some (.ok ()), sR) ∧
      SameTable (onDisk sN) (onDisk sR) d ∧
      (blockBits (onDisk sN) d = blockBits (onDisk sR) d ↔ Reconciled (onDisk s₃) d tx) := by
  obtain ⟨vol, hv⟩ := hs
  obtain ⟨vol3, hrun, hv3⟩ := volume_of_machine hv hc
  have hcom := commitChunk_committed hrun
  -- at the commit point the device holds what the cache shows
  have hdisk := (commitChunk_synced ⟨vol, hv⟩ hc).blocks_eq hv3
  obtain ⟨volR, hvolR⟩ : ∃ v : Volume, v = ⟨s₃.machine.dev.blocks, fun _ => .empty⟩ := ⟨_, rfl⟩
  have hvR : SystemShows (restarted s₃) volR := hvolR ▸ restarted_shows s₃
  have hdiskR : volR.blocks d = vol3.blocks d := by rw [hvolR, ← hdisk]
  have hcomR : Committed volR d n tx := hcom.congr hdiskR
  obtain ⟨sN, hN, hvN⟩ := machine_of_volume hv3 (exec_finishChunk hcom)
  obtain ⟨sR, hR, hvR'⟩ := machine_of_volume hvR (exec_recover_committed hcomR)
  refine ⟨sN, sR, hN, hR, ?_⟩
  have hNd := (finishChunk_synced ⟨vol3, hv3⟩ hN).blocks_eq hvN
  rw [← finished_congr hdiskR] at hNd
  obtain ⟨old, hj⟩ := hcomR.journal
  have hmagic : (commitRecord n old tx).magic = journalMagic := rfl
  have hstate : (commitRecord n old tx).state = JournalState.committed.toU32 := rfl
  have hRd := (recover_synced hvR hj (by rw [hmagic]; decide) (by rw [hstate]; decide)
    hR).blocks_eq hvR'
  have htable : SameTable (onDisk sN) (onDisk sR) d := fun b h1 h2 => by
    simp only [onDisk, hNd, hRd]
    exact sameTable_completions volR d n tx b h1 h2
  have hbits : blockBits (onDisk s₃) d = blockBits volR d := by rw [hvolR]; rfl
  refine ⟨htable, ?_⟩
  rw [Reconciled, hbits, ← Reconciled, ← blockBits_completions (n := n)]
  simp only [blockBits, Volume.get, onDisk, hNd, hRd]

/-- **The two completions of a committed write.** Whatever the machine and the write, `write_chunk_tx`
and a recovery after a crash at the commit point leave the same inode table and the same block bitmap
on the device just when the lists of the record are reconciled with the bitmap at the commit point: no
freed block is still marked, and every other allocated block is. -/
theorem completion_agrees (hs : Coherent s)
    (hc : exec (machine disks) (commitChunk d n startPos chunk) s = (some (.ok tx), s₃)) :
    ∃ sN sR, exec (machine disks) (finishChunk d n tx.inode) s₃ = (some (.ok ()), sN) ∧
      exec (machine disks) (recover d) (restarted s₃) = (some (.ok ()), sR) ∧
      (SameTable (onDisk sN) (onDisk sR) d ∧
          blockBits (onDisk sN) d = blockBits (onDisk sR) d ↔
        Reconciled (onDisk s₃) d tx) := by
  obtain ⟨sN, sR, hN, hR, htable, hbits⟩ := completions hs hc
  exact ⟨sN, sR, hN, hR, by rw [and_iff_right htable, hbits]⟩

/-! ### Two writes -/

/-- A new volume with an empty file, inode 2. -/
def newFile : FsM Unit := do
  formatVolume .mem 64 []
  let _ ← allocInode .mem .regular 1

/-- A new volume with a file that has one block in the indirect range. -/
def indirectFile : FsM Unit := do
  newFile
  let _ ← writeChunkTx .mem 2 73728 [1]

lemma machine_of_typed {α : Type} {p : FsM α} {Q : α → TypedVolume → Bool}
    (h : endsWell (exec typed p .blank) Q) :
    ∃ a s t, exec (machine disks) p blankSystem = (some (.ok a), s) ∧
      SystemShows s t.toVolume ∧ Q a t := by
  obtain ⟨a, t, hrun, hq⟩ := exists_of_endsWell h
  obtain ⟨s, hs, hv⟩ := machine_of_volume blankSystem_shows (volume_of_typed hrun)
  exact ⟨a, s, t, hs, hv, hq⟩

lemma blockBits_commit {t : TypedVolume} (hs : Coherent s)
    (hc : exec (machine disks) (commitChunk d n startPos chunk) s = (some (.ok tx), s₃))
    (ht : SystemShows s₃ t.toVolume) :
    blockBits (onDisk s₃) d = (t.cells d blockBitmapBlock).read .bitmap := by
  have hdisk := (commitChunk_synced hs hc).blocks_eq ht
  rw [Cell.read_eq, blockBits, Volume.get]
  have hb : (onDisk s₃).blocks d blockBitmapBlock = (t.cells d blockBitmapBlock).bytes :=
    congrFun hdisk blockBitmapBlock
  rw [hb]

/-- A write to a new file allocates the block 22, and both completions agree. -/
theorem completion_agrees_newFile : ∃ s s₃ tx,
    exec (machine disks) newFile blankSystem = (some (.ok ()), s) ∧
      exec (machine disks) (commitChunk .mem 2 0 [1]) s = (some (.ok tx), s₃) ∧
      ∃ sN sR, exec (machine disks) (finishChunk .mem 2 tx.inode) s₃ = (some (.ok ()), sN) ∧
        exec (machine disks) (recover .mem) (restarted s₃) = (some (.ok ()), sR) ∧
        SameTable (onDisk sN) (onDisk sR) .mem ∧
        blockBits (onDisk sN) .mem = blockBits (onDisk sR) .mem := by
  obtain ⟨tx, s₃, t, hrun, ht, hq⟩ := machine_of_typed (p := do newFile; commitChunk .mem 2 0 [1])
    (Q := fun tx t => tx.freed = [] ∧ tx.allocated = [22] ∧
      (t.cells .mem blockBitmapBlock).read .bitmap (bitIdx 22) = true) (by decide +kernel)
  obtain ⟨_, s, hs, hc⟩ := exists_of_exec_bind hrun
  have hcoh : Coherent s := coherent_of_exec ⟨_, blankSystem_shows⟩ hs
  obtain ⟨hf, ha, hb⟩ := of_decide_eq_true hq
  obtain ⟨sN, sR, hN, hR, hiff⟩ := completion_agrees hcoh hc
  refine ⟨s, s₃, tx, hs, hc, sN, sR, hN, hR, hiff.mpr ⟨?_, ?_⟩⟩
  · rw [hf]
    simp
  rw [ha, blockBits_commit hcoh hc ht]
  intro l hl _ _
  rw [List.mem_singleton.mp hl]
  exact hb

/-- **A second write to a block in the indirect range** replaces the indirect block 23. The normal
completion leaves the old one marked as taken, a recovery frees it. -/
theorem indirect_overwrite_differs : ∃ s s₃ sN sR tx,
    exec (machine disks) indirectFile blankSystem = (some (.ok ()), s) ∧
      exec (machine disks) (commitChunk .mem 2 73728 [2]) s = (some (.ok tx), s₃) ∧
      exec (machine disks) (finishChunk .mem 2 tx.inode) s₃ = (some (.ok ()), sN) ∧
      exec (machine disks) (recover .mem) (restarted s₃) = (some (.ok ()), sR) ∧
      blockBits (onDisk sN) .mem ≠ blockBits (onDisk sR) .mem := by
  obtain ⟨tx, s₃, t, hrun, ht, hq⟩ := machine_of_typed
    (p := do indirectFile; commitChunk .mem 2 73728 [2])
    (Q := fun tx t => tx.freed = [23] ∧
      (t.cells .mem blockBitmapBlock).read .bitmap (bitIdx 23) = true) (by decide +kernel)
  obtain ⟨_, s, hs, hc⟩ := exists_of_exec_bind hrun
  have hcoh : Coherent s := coherent_of_exec ⟨_, blankSystem_shows⟩ hs
  obtain ⟨hf, hb⟩ := of_decide_eq_true hq
  obtain ⟨sN, sR, hN, hR, -, hiff⟩ := completions hcoh hc
  refine ⟨s, s₃, sN, sR, tx, hs, hc, hN, hR, fun h => ?_⟩
  have hbit := (hiff.mp h).1 23 (by rw [hf]; exact List.mem_singleton_self _) (by decide)
  rw [blockBits_commit hcoh hc ht] at hbit
  rw [show (23 : BitVec 32).toNat = 23 from rfl, hb] at hbit
  cases hbit

end ProjectZero.Fs.Completion
