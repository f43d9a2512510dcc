import ProjectZero.Fs.Replay

/-! # Recovery from any journal block

The journal block is read as it is found. Whatever it holds, `recover` returns and writes nothing but
metadata (`recover_confined_iff`), with one exception: the roll-back of a creation does not check the
number of the inode before it indexes the bitmap (`rollback_out_of_range`). -/

namespace ProjectZero.Fs.Recovery

open Lib.Program Fs.Types Store Inode Journal Inspect Replay

variable {α β : Type} {d : DeviceId} {b : ℕ} {n : BitVec 32} {s s' s'' : Volume}

/-- The journal, the two bitmaps, the inode table and the root directory. -/
def Metadata (b : ℕ) : Prop := journalBlock ≤ b ∧ b < dataBlockStart
  deriving Decidable

def SameData (d : DeviceId) (s s' : Volume) : Prop :=
  ∀ d' b, ¬(d' = d ∧ Metadata b) → s'.blocks d' b = s.blocks d' b

/-- The function returns, with a result or an error, and writes metadata only. -/
def ConfinedAt (d : DeviceId) (p : FsM α) (s : Volume) : Prop :=
  ∃ r s', exec volume p s = (some r, s') ∧ SameData d s s'

def Confined (d : DeviceId) (p : FsM α) : Prop := ∀ s, ConfinedAt d p s

lemma confined_result (r : Except FsError α) : Confined d (result r) :=
  fun s => ⟨r, s, rfl, fun _ _ _ => rfl⟩

lemma confined_read (k : Kind) (b : ℕ) : Confined d (readBlock d k b) :=
  fun s => ⟨_, s, rfl, fun _ _ _ => rfl⟩

lemma confined_write (k : Kind) (hb : Metadata b) (v : View k) :
    Confined d (writeBlock d k b v) := by
  refine fun s => ⟨_, _, rfl, fun d' c hc => ?_⟩
  by_cases hd : d' = d
  · subst hd
    have hcb : c ≠ b := fun h => hc ⟨rfl, h ▸ hb⟩
    exact Volume.blocks_put_of_ne hcb _
  · exact congrFun (update_of_ne hd _ _) c

lemma Confined.bind {p : FsM α} {f : α → FsM β} (hp : Confined d p) (hf : ∀ a, Confined d (f a)) :
    Confined d (p >>= f) := by
  intro s
  obtain ⟨r, s1, hr, h1⟩ := hp s
  cases r with
  | error e => exact ⟨_, s1, exec_bind_error hr, h1⟩
  | ok a =>
    obtain ⟨r, s2, hr2, h2⟩ := hf a s1
    exact ⟨r, s2, (exec_bind_ok hr).trans hr2, fun d' c hc => (h2 d' c hc).trans (h1 d' c hc)⟩

lemma Confined.ite {c : Prop} [Decidable c] {p q : FsM α} (hp : c → Confined d p)
    (hq : ¬c → Confined d q) : Confined d (if c then p else q) := by
  split
  · exact hp ‹_›
  · exact hq ‹_›

lemma confined_pure (a : α) : Confined d (pure a : FsM α) := confined_result (.ok a)

lemma confined_throw (e : FsError) : Confined d (throw e : FsM α) := confined_result (.error e)

lemma metadata_tableBlock (h : IsSlot n) : Metadata (tableBlock n) := by
  have h1 := le_tableBlock n
  have h2 := tableBlock_lt h
  simp only [Metadata, journalBlock, dataBlockStart]
  omega

/-! ### The steps of a replay -/

lemma confined_putImage (n : BitVec 32) (image : DiskInode) : Confined d (putImage d n image) :=
  .ite (fun h => (confined_read _ _).bind fun _ => confined_write _ (metadata_tableBlock h) _)
    fun _ => confined_pure _

lemma confined_undoAllocations (count : BitVec 32) (lbas : Fin 10 → BitVec 32) :
    Confined d (undoAllocations d count lbas) :=
  .ite (fun _ => (confined_read _ _).bind fun _ => confined_write _ (by decide) _)
    fun _ => confined_pure _

lemma confined_redoBitmap (allocated freed : List (BitVec 32)) :
    Confined d (redoBitmap d allocated freed) :=
  (confined_read _ _).bind fun _ => confined_write _ (by decide) _

lemma confined_putEntry (slot : BitVec 32) (entry : DiskDirEntry) :
    Confined d (putEntry d slot entry) := by
  unfold putEntry
  split
  · exact (confined_read _ _).bind fun _ => confined_write _ (by decide) _
  · exact confined_pure _

lemma confined_writeInode (n : BitVec 32) (i : DiskInode) : Confined d (writeInode d n i) :=
  .ite (fun _ => confined_throw _) fun h => (confined_read _ _).bind fun _ =>
    confined_write _ (metadata_tableBlock ((isSlot_iff n).mpr h)) _

lemma confined_putImageV2 (n : BitVec 32) (image : DiskInode) :
    Confined d (putImageV2 d n image) := by
  refine .ite (fun _ s => ?_) fun _ => confined_pure _
  obtain ⟨r, s', hr, h⟩ := confined_writeInode (d := d) n image s
  exact ⟨_, s', exec_ignore hr, h⟩

lemma confined_clear (seq : BitVec 64) : Confined d (clear d seq) :=
  (confined_write _ (by decide) _).bind fun _ s => ⟨_, s, rfl, fun _ _ _ => rfl⟩

variable (jrn : DiskJournalBlock)

lemma confined_rollforwardTransaction : Confined d (rollforwardTransaction d jrn) :=
  (confined_putImage _ _).bind fun _ => (confined_putEntry _ _).bind fun _ =>
    (confined_redoBitmap _ _).bind fun _ =>
      .ite (fun _ => (confined_read _ _).bind fun _ => confined_write _ (by decide) _)
        fun _ => confined_pure _

/-- The roll-back indexes the inode bitmap past its end. -/
def OutOfRange : Prop :=
  jrn.opType = JournalOpType.create.toU32 ∧ blockSize ≤ jrn.targetInodeNum.toNat / 8

lemma confined_rollbackTransaction {jrn : DiskJournalBlock} (h : ¬OutOfRange jrn) :
    Confined d (rollbackTransaction d jrn) := by
  refine (confined_putImage _ _).bind fun _ => (confined_undoAllocations _ _).bind fun _ =>
    .ite (fun hc => (confined_read _ _).bind fun _ => .ite (fun _ => ?_) fun hlt => ?_)
      fun _ => confined_pure _
  · exact confined_write _ (by decide) _
  · exact absurd ⟨hc.1, Nat.le_of_not_lt hlt⟩ h

lemma Confined.finish {p : FsM Unit} (hp : Confined d p) (seq : BitVec 64) :
    Confined d (do p; clear d seq; syncAllBuffers d) :=
  hp.bind fun _ => (confined_clear seq).bind fun _ s => ⟨_, s, rfl, fun _ _ _ => rfl⟩

lemma confined_recoverV2 (jrn : DiskJournalBlockV2) : Confined d (recoverV2 d jrn) := by
  refine .ite (fun _ => confined_pure _) fun _ => .ite (fun _ => confined_throw _) fun _ =>
    .ite (fun _ => ?_) fun _ => .ite (fun _ => ?_) fun _ => confined_throw _
  · exact .finish ((confined_putImageV2 _ _).bind fun _ => (confined_putImageV2 _ _).bind fun _ =>
      confined_undoAllocations _ _) _
  exact .finish ((confined_putImageV2 _ _).bind fun _ => (confined_putImageV2 _ _).bind fun _ =>
    confined_redoBitmap _ _) _

/-- A record of the first format that is rolled back past the end of the inode bitmap. -/
def Breaks : Prop :=
  jrn.magic = journalMagic ∧ jrn.isValidChecksum ∧
    jrn.state = JournalState.intent.toU32 ∧ OutOfRange jrn

lemma confined_recoverV1 {jrn : DiskJournalBlock} (h : ¬Breaks jrn) :
    Confined d (recoverV1 d jrn) := by
  refine .ite (fun _ => confined_pure _) fun _ => .ite (fun _ => confined_throw _) fun hc =>
    .ite (fun hs => ?_) fun _ => .ite (fun _ => ?_) fun _ => confined_throw _
  · simp only [not_or, not_not] at hc
    exact .finish (confined_rollbackTransaction fun ho => h ⟨hc.1, hc.2, hs, ho⟩) _
  · exact .finish (confined_rollforwardTransaction _) _

lemma exec_undoAllocations (count : BitVec 32) (lbas : Fin 10 → BitVec 32) :
    ∃ s', exec volume (undoAllocations d count lbas) s = (some (.ok ()), s') := by
  unfold undoAllocations
  split
  · exact ⟨_, rfl⟩
  · exact ⟨_, rfl⟩

/-- The index past the end stops the kernel. -/
lemma Breaks.not_confinedAt {jrn : DiskJournalBlock} (h : Breaks jrn) :
    ¬ConfinedAt d (recoverV1 d jrn) s := by
  obtain ⟨hm, hc, hs, ho, hn⟩ := h
  have h0 : jrn.targetInodeNum ≠ 0 := by
    rintro h0
    rw [h0] at hn
    exact absurd hn (by decide)
  obtain ⟨s1, hs1⟩ := exec_undoAllocations (s := withImage s d jrn.targetInodeNum jrn.oldInodeImage)
    (d := d) jrn.allocatedBlocksCount jrn.allocatedBlocks
  have hrun : exec volume (rollbackTransaction d jrn) s = (none, s1) := by
    unfold rollbackTransaction
    rw [exec_bind_ok (exec_putImage _), exec_bind_ok hs1, if_pos ⟨ho, h0⟩,
      exec_bind_ok (exec_readBlock _ _ _), if_neg (Nat.not_lt.mpr hn)]
    rfl
  rintro ⟨r, s', hr, -⟩
  unfold recoverV1 at hr
  rw [if_neg (by rw [hs]; decide), if_neg (by simp [hm, hc]), if_pos hs] at hr
  obtain ⟨r, s', hr', -⟩ := exists_of_run_bind hr
  exact absurd (hrun.symm.trans hr') (by simp)

/-- **Recovery is total and confined** on a volume exactly if the journal block does not hold the
record of a creation, to be undone, with an inode number of 32768 or more. -/
theorem recover_confined_iff (s : Volume) (d : DeviceId) :
    ConfinedAt d (recover d) s ↔ ¬Breaks (s.get d .journal journalBlock) := by
  by_cases hm : (s.get d .journal journalBlock).magic = journalMagicV2
  · have hV1 : ¬Breaks (s.get d .journal journalBlock) := fun h =>
      absurd (h.1.symm.trans hm) (by decide)
    refine iff_of_true ?_ hV1
    rw [ConfinedAt, exec_recover_V2 rfl ((magic_eq _).trans hm)]
    exact confined_recoverV2 _ s
  rw [ConfinedAt, exec_recover_V1 rfl hm]
  exact ⟨fun h hb => hb.not_confinedAt h, fun hb => confined_recoverV1 hb s⟩

/-- The record of the creation of inode 32768, not yet committed. -/
def strayRecord : DiskJournalBlock :=
  { DiskJournalBlock.empty with
    opType := JournalOpType.create.toU32
    state := JournalState.intent.toU32
    targetInodeNum := 32768 }.recomputeChecksum

/-- **An index out of range** in the recovery from a record with a valid checksum. -/
theorem rollback_out_of_range : ∃ s, ¬ConfinedAt .mem (recover .mem) s := by
  refine ⟨withJournal ⟨fun _ _ => zeroBlock, fun _ => .empty⟩ .mem strayRecord, fun h => ?_⟩
  have hj : (withJournal ⟨fun _ _ => zeroBlock, fun _ => .empty⟩ .mem strayRecord).get .mem .journal
      journalBlock = strayRecord := Volume.get_put_self _ _ _
  have hb : Breaks strayRecord :=
    ⟨rfl, DiskJournalBlock.isValidChecksum_recomputeChecksum _, rfl, rfl, by decide⟩
  rw [ConfinedAt, exec_recover_V1 hj (by decide)] at h
  exact hb.not_confinedAt h

end ProjectZero.Fs.Recovery
