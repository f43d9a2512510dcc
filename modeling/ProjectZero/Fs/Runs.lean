import ProjectZero.Lib.Run
import ProjectZero.Fs.Operations
import ProjectZero.Fs.Durable
import ProjectZero.Fs.Typed

/-! # Runs of the filesystem

A run starts with `format_volume` on a system without open files and goes on with operations that
return, over the block cache and devices that do not fail. A formatted volume is sound and tight
(`formatVolume_sound`), and what the operations keep holds in every state of a run. -/

namespace ProjectZero.Fs.Runs

open Lib.Layout Lib.Program Lib.Run Fs.Types Store Inode Journal File Calls Buf Transparent Inspect
open Durable Owners Soundness Steps Operations Typed

variable {d : DeviceId} {c : Prop} {s s' : Volume} {n : BitVec 32}

/-! ### The formatted volume -/

def zeroed (s : Volume) (d : DeviceId) (bs : List ℕ) : Volume :=
  bs.foldl (fun s b => s.put d b zeroBlock) s

lemma exec_zero : ∀ (bs : List ℕ) {s : Volume},
    exec volume (bs.forM fun b => writeBlock d .raw b zeroBlock) s =
      (some (.ok ⟨⟩), zeroed s d bs)
  | [], _ => rfl
  | b :: bs, _ => (exec_bind_ok (exec_writeBlock d .raw b zeroBlock)).trans (exec_zero bs)

lemma objects_zeroed : ∀ (bs : List ℕ) {s : Volume}, (zeroed s d bs).objects = s.objects
  | [], _ => rfl
  | _ :: bs, _ => objects_zeroed bs

lemma blocks_zeroed : ∀ (bs : List ℕ) {s : Volume} (b : ℕ),
    (zeroed s d bs).blocks d b = if b ∈ bs then zeroBlock else s.blocks d b
  | [], _, _ => by simp [zeroed]
  | a :: bs, s, b => by
    have ih := blocks_zeroed bs (s := s.put d a zeroBlock) b
    rw [show zeroed s d (a :: bs) = zeroed (s.put d a zeroBlock) d bs from rfl, ih]
    by_cases hb : b ∈ bs
    · simp [hb]
    by_cases hab : b = a
    · subst hab
      simp [hb]
    · simp [hb, hab, Volume.blocks_put_of_ne hab]

lemma noPtrs_zero (slot : Fin 16) : NoPtrs (format .inodes zeroBlock slot) := by
  have h : format .inodes zeroBlock slot = DiskInode.encoding fun _ => 0 :=
    congrFun (array_zero 16 DiskInode.encoding) slot
  rw [h, DiskInode.encoding, Equiv.trans_apply, pair_zero, pair_zero, pair_zero, pair_zero,
    pair_zero, pair_zero, array_zero, u32_zero]
  exact ⟨fun _ => rfl, rfl⟩

/-- What `format_volume` leaves. -/
structure Formatted (d : DeviceId) (s : Volume) : Prop where
  journal : s.blocks d journalBlock = (format .journal).symm .empty
  bits : blockBits s d = fun i => decide (i.val < dataBlockStart)
  root : SamePtrs (inodeAt s d rootDirInode) newRootInode
  others : ∀ n, IsSlot n → n ≠ rootDirInode → NoPtrs (inodeAt s d n)

lemma mem_table (hn : IsSlot n) : tableBlock n ∈ List.range' inodeTableStart inodeTableBlocks := by
  have h1 := le_tableBlock n
  have h2 := tableBlock_lt hn
  rw [List.mem_range'_1]
  simp only [inodeTableStart, inodeTableBlocks]
  omega

/-- The volume that `format_volume` builds, with the blocks that do not matter left open. -/
def built (s : Volume) (d : DeviceId) (boot super inodeBitmap rootEntries : Block)
    (root : DiskInode) : Volume :=
  (setInode (zeroed (setBlockBits ((((s.put d 0 boot).put d superblockBlock super).put d journalBlock
      ((format .journal).symm .empty)).put d inodeBitmapBlock inodeBitmap) d
      fun i => decide (i.val < dataBlockStart)) d (List.range' inodeTableStart inodeTableBlocks)) d
    rootDirInode root).put d rootDirBlock rootEntries

variable {boot super inodeBitmap rootEntries : Block} {root : DiskInode}

lemma objects_built : (built s d boot super inodeBitmap rootEntries root).objects = s.objects := by
  rw [built, Volume.objects_put, objects_setInode, objects_zeroed, objects_setBlockBits]
  rfl

lemma built_formatted (hroot : SamePtrs root newRootInode) :
    Formatted d (built s d boot super inodeBitmap rootEntries root) := by
  unfold built
  generalize hs5 : setBlockBits _ d (fun i => decide (i.val < dataBlockStart)) = s5
  -- the administrative blocks are written before the table and the root directory
  have hlow : ∀ b, b < inodeTableStart →
      ((setInode (zeroed s5 d (List.range' inodeTableStart inodeTableBlocks)) d rootDirInode
        root).put d rootDirBlock rootEntries).blocks d b = s5.blocks d b := by
    intro b hb
    have hb' : b ≠ rootDirBlock := by
      simp only [inodeTableStart, rootDirBlock] at hb ⊢
      omega
    have hnot : b ∉ List.range' inodeTableStart inodeTableBlocks := fun hmem => by
      have := (List.mem_range'_1.mp hmem).1
      omega
    rw [Volume.blocks_put_of_ne hb', blocks_setInode_of_ne (tableBlock_ne _ hb).symm, blocks_zeroed,
      if_neg hnot]
  refine ⟨?_, ?_, ?_, fun n hn hne => ?_⟩
  · rw [hlow _ (by decide), ← hs5, setBlockBits, Volume.blocks_put_of_ne (by decide),
      Volume.blocks_put_of_ne (by decide), Volume.blocks_put_self]
  · rw [blockBits, Volume.get, hlow _ (by decide), ← hs5]
    exact blockBits_setBlockBits
  · rwa [inodeAt_put (.inr le_rfl) _ (by decide), inodeAt_setInode_self]
  rw [inodeAt_put (.inr le_rfl) _ hn, inodeAt_setInode_of_ne hne, inodeAt, Volume.get,
    blocks_zeroed, if_pos (mem_table hn)]
  exact noPtrs_zero _

lemma exec_formatVolume {total : BitVec 64} {label : List Byte}
    (h : ¬(total.toNat > maxVolumeBlocks ∨ total.toNat < 64)) :
    exec volume (formatVolume d total label) s = (some (.ok ()), built s d
      ((format .raw).symm zeroBlock)
      ((format .superblock).symm ((newSuperblock total label).recomputeChecksum, fun _ => 0))
      ((format .bitmap).symm fun i => decide (i.val < 2)) ((format .raw).symm zeroBlock)
      newRootInode.recomputeChecksum.recomputeChecksum) := by
  unfold formatVolume
  rw [if_neg h, exec_bind_ok (exec_writeBlock _ _ _ _), exec_bind_ok (exec_writeBlock _ _ _ _),
    exec_bind_ok (exec_writeBlock _ _ _ _), exec_bind_ok (exec_writeBlock _ _ _ _),
    exec_bind_ok (exec_writeBlock _ _ _ _), exec_bind_ok (exec_zero _),
    exec_bind_ok (exec_writeInode (by decide) _), exec_bind_ok (exec_writeBlock _ _ _ _),
    exec_syncAllBuffers, built, setBlockBits]

lemma samePtrs_root : SamePtrs newRootInode.recomputeChecksum.recomputeChecksum newRootInode :=
  (samePtrs_recomputeChecksum _).trans (samePtrs_recomputeChecksum _)

lemma formatVolume_formatted (total : BitVec 64) (label : List Byte) :
    EPost volume (formatVolume d total label) s (fun _ _ => True) fun _ s' =>
      Formatted d s' ∧ s'.objects = s.objects := by
  by_cases h : total.toNat > maxVolumeBlocks ∨ total.toNat < 64
  · rw [formatVolume, if_pos h]
    exact .throw trivial
  · exact .of_run (exec_formatVolume h) ⟨built_formatted samePtrs_root, objects_built⟩

lemma Formatted.ref_eq (h : Formatted d s) {p : Pos} {l : BitVec 32}
    (hr : ref s d (inodeAt s d) n p = some l) :
    n = rootDirInode ∧ p = .direct 0 ∧ l = BitVec.ofNat 32 rootDirBlock := by
  obtain ⟨hn, hl, h0⟩ := ref_eq_some.mp hr
  by_cases hne : n = rootDirInode
  · subst hne
    refine ⟨rfl, ?_⟩
    rw [lbaAt_congr h.root fun _ => rfl] at hl
    cases p with
    | direct k =>
      by_cases hk : k = 0
      · subst hk
        exact ⟨rfl, hl.symm⟩
      have hk0 : newRootInode.directBlocks k = 0 := by
        show update (fun _ => (0 : BitVec 32)) 0 21 k = 0
        rw [update_of_ne hk]
      exact absurd (hl.symm.trans hk0) h0
    | indirect => exact absurd hl.symm h0
    | slot j =>
      have hj : lbaAt s d newRootInode (.slot j) = 0 := by
        rw [lbaAt]
        exact if_pos rfl
      exact absurd (hl.symm.trans hj) h0
  rw [(h.others n hn hne).ref_eq] at hr
  cases hr

/-- **A formatted volume is sound and tight.** -/
lemma Formatted.sound (h : Formatted d s) (hobj : ∀ i, (s.objects i).occupied = false) :
    Sound d s ∧ Tight d s := by
  have hnot : ∀ {l}, InData l → ¬Taken s d l := by
    intro l hl ht
    rw [Taken, h.bits, decide_eq_true_eq] at ht
    have h1 := hl.1
    have h2 := hl.2
    simp only [bitIdx, Fin.val_ofNat, dataBlockStart, maxVolumeBlocks] at ht h1 h2
    omega
  refine ⟨⟨⟨⟨fun hr => ?_, fun hr hr' => ?_⟩, fun hr => .inr ?_⟩, ?_, fun i hi => ?_⟩,
    fun l hl ht => absurd ht (hnot hl), fun hr hd => ?_⟩
  · obtain ⟨-, -, rfl⟩ := h.ref_eq hr
    rw [Taken, h.bits]
    decide
  · obtain ⟨rfl, rfl, -⟩ := h.ref_eq hr
    obtain ⟨rfl, rfl, -⟩ := h.ref_eq hr'
    exact ⟨rfl, rfl⟩
  · obtain ⟨rfl, rfl, rfl⟩ := h.ref_eq hr
    exact ⟨rfl, rfl, rfl⟩
  · rw [h.journal]
    exact idle_free (by decide) rfl
  · rw [hobj i] at hi
    cases hi
  obtain ⟨-, -, rfl⟩ := h.ref_eq hr
  exact absurd hd (by decide)

/-! ### Steps -/

/-- The system after `format_volume`. -/
def Start (d : DeviceId) (s : System Disks) : Prop :=
  ∃ s₀ total label, Coherent s₀ ∧ (∀ i, (s₀.objects i).occupied = false) ∧
    exec (machine disks) (formatVolume d total label) s₀ = (some (.ok ()), s)

/-- An operation that returns, with a result or with an error. It may depend on the volume that the
cache shows. -/
def Step (d : DeviceId) (C : FsOp → Volume → Prop) (s s' : System Disks) : Prop :=
  ∃ op r, C op (shown s) ∧ exec (machine disks) (op.prog d) s = (some r, s')

/-- The states of the runs whose operations meet `C`. -/
abbrev Reached (d : DeviceId) (C : FsOp → Volume → Prop) : System Disks → Prop :=
  Reach (Start d) (Step d C)

variable {t : System Disks}

variable {C : FsOp → Volume → Prop}

lemma reached_mono {C' : FsOp → Volume → Prop} (hC : ∀ op s, C op s → C' op s)
    (h : Reached d C t) : Reached d C' t := by
  induction h with
  | start h => exact .start h
  | next _ hstep ih =>
    obtain ⟨op, r, hop, hrun⟩ := hstep
    exact ih.next ⟨op, r, hC _ _ hop, hrun⟩

/-- When an operation keeps a volume sound: a recovery must not change a pointer. -/
def PtrSafe (d : DeviceId) : FsOp → Volume → Prop
  | .remount, s => PtrsKept d s (remounted s d)
  | _, _ => True

/-- When an operation loses no block. -/
def LossFree (d : DeviceId) : FsOp → Volume → Prop
  | .dirCreate parent name pid, s => DirThrifty d parent name pid s
  | .fileWrite i data, s =>
    WriteThrifty d (s.objects i).inodeNum (s.objects i).cursorOffset (chunks data) 0 (writing s i)
  | _, _ => True

/-- **Every operation keeps a volume sound**, and tight if it loses no block. -/
lemma prog_keeps (hs : Sound d s) (op : FsOp) (hp : PtrSafe d op s) (hc : c → LossFree d op s) :
    Kept d c s (op.prog d) s := by
  cases op with
  | fileOpen dir name flags pid => exact (fileOpen_keeps hs).bind fun _ _ h => .pure h
  | dirCreate parent name pid => exact (dirCreate_keeps hs hc).bind fun _ _ h => .pure h
  | fileRead i len => exact (read_keeps hs i len).bind fun _ _ h => .pure h
  | fileWrite i data => exact (write_keeps hs i data hc).bind fun _ _ h => .pure h
  | fileClose i => exact freeStorageObject_keeps hs i
  | fileUnlink dir name => exact (unlink_keeps hs).bind fun _ _ h => .pure h
  | fileRename srcDir srcName dstDir dstName flags => exact rename_keeps hs
  | fileSync => exact .of_run (exec_syncAllBuffers d) (.refl hs)
  | remount => exact (mountVolume_keeps hs hp).bind fun _ _ h => .pure h

variable {op : FsOp} {r : Except FsError Unit}

lemma keeps_of_exec {t' : System Disks} (ht : Coherent t) (hs : Sound d (shown t))
    (hp : PtrSafe d op (shown t)) (hc : c → LossFree d op (shown t))
    (hrun : exec (machine disks) (op.prog d) t = (some r, t')) :
    Coherent t' ∧ Keeps d c (shown t) (shown t') := by
  obtain ⟨vol, hvol⟩ := ht
  have hv := shown_eq hvol
  obtain ⟨vol', hrun', hvol'⟩ := volume_of_machine hvol hrun
  rw [hv] at hs hp hc ⊢
  rw [shown_eq hvol']
  have hk := prog_keeps hs op hp hc r vol' hrun'
  refine ⟨⟨vol', hvol'⟩, ?_⟩
  cases r <;> exact hk

lemma start_sound (h : Start d t) : Coherent t ∧ Sound d (shown t) ∧ Tight d (shown t) := by
  obtain ⟨s₀, total, label, ⟨vol0, hvol0⟩, hobj, hrun⟩ := h
  obtain ⟨vol, hrun', hvol⟩ := volume_of_machine hvol0 hrun
  obtain ⟨hf, ho⟩ := formatVolume_formatted total label _ _ hrun'
  rw [shown_eq hvol]
  refine ⟨⟨vol, hvol⟩, hf.sound fun i => ?_⟩
  rw [ho, ← hvol0.2]
  exact hobj i

lemma reached_sound (hC : ∀ op s, C op s → PtrSafe d op s)
    (h : Reached d C t) : Coherent t ∧ Sound d (shown t) := by
  refine h.invariant (I := fun t => Coherent t ∧ Sound d (shown t))
    (fun t ht => ⟨(start_sound ht).1, (start_sound ht).2.1⟩) ?_
  rintro t t' ⟨ht, hs⟩ ⟨op, r, hop, hrun⟩
  have hk := keeps_of_exec (c := False) ht hs (hC op _ hop) False.elim hrun
  exact ⟨hk.1, hk.2.sound⟩

/-- **Runs are tight** if moreover no operation loses a block. -/
lemma reached_tight (hC : ∀ op s, C op s → PtrSafe d op s ∧ LossFree d op s)
    (h : Reached d C t) : Coherent t ∧ Sound d (shown t) ∧ Tight d (shown t) := by
  refine h.invariant (I := fun t => Coherent t ∧ Sound d (shown t) ∧ Tight d (shown t))
    (fun t ht => start_sound ht) ?_
  rintro t t' ⟨ht, hs, htight⟩ ⟨op, r, hop, hrun⟩
  have hk := keeps_of_exec (c := True) ht hs (hC op _ hop).1 (fun _ => (hC op _ hop).2) hrun
  exact ⟨hk.1, hk.2.sound, hk.2.tight trivial htight⟩

/-! ### Runs that are evaluated -/

/-- Operations one after the other, on a volume that can be computed with. -/
def operate (d : DeviceId) : List FsOp → TypedVolume → Option TypedVolume
  | [], t => some t
  | op :: ops, t =>
    match exec typed (op.prog d) t with
    | (some _, t') => operate d ops t'
    | (none, _) => none

/-- A formatted volume and operations on it. -/
def operated (d : DeviceId) (ops : List FsOp) : Option TypedVolume :=
  match exec typed (formatVolume d 64 []) .blank with
  | (some (.ok ()), t) => operate d ops t
  | _ => none

lemma reached_operation {m : System Disks} {t t' : TypedVolume}
    (hm : Reached d C m) (hv : SystemShows m t.toVolume) (hC : C op t.toVolume)
    (h : exec typed (op.prog d) t = (some r, t')) :
    ∃ m', Reached d C m' ∧ SystemShows m' t'.toVolume := by
  obtain ⟨m', hm', hv'⟩ := machine_of_volume hv (volume_of_typed h)
  exact ⟨m', hm.next ⟨op, r, by rwa [shown_eq hv], hm'⟩, hv'⟩

lemma reached_of_operate : ∀ (ops : List FsOp) {t t' : TypedVolume},
    (∀ op ∈ ops, ∀ s, C op s) → operate d ops t = some t' →
    ∀ {m : System Disks}, Reached d C m → SystemShows m t.toVolume →
      ∃ m', Reached d C m' ∧ SystemShows m' t'.toVolume
  | [], _, _, _, h, m, hm, hv => ⟨m, hm, by cases h; exact hv⟩
  | op :: ops, t, t', hC, h, m, hm, hv => by
    rw [operate] at h
    split at h
    next hrun =>
      obtain ⟨m1, hm1, hv1⟩ := reached_operation hm hv (hC op List.mem_cons_self _) hrun
      exact reached_of_operate ops (fun o ho => hC o (List.mem_cons_of_mem _ ho)) h hm1 hv1
    · cases h

lemma reached_of_operated (ops : List FsOp)
    (hC : ∀ op ∈ ops, ∀ s, C op s) {Q : TypedVolume → Bool} (h : (operated d ops).any Q) :
    ∃ m t, Reached d C m ∧ SystemShows m t.toVolume ∧ Q t := by
  obtain ⟨t, ht, hq⟩ := (Option.any_eq_true _ _).mp h
  rw [operated] at ht
  split at ht
  next hrun =>
    obtain ⟨m0, hm0, hv0⟩ := machine_of_volume blankSystem_shows (volume_of_typed hrun)
    have hstart : Start d m0 := ⟨blankSystem, 64, [], ⟨_, blankSystem_shows⟩, fun _ => rfl, hm0⟩
    obtain ⟨m, hm, hv⟩ := reached_of_operate ops hC ht (.start hstart) hv0
    exact ⟨m, t, hm, hv, hq⟩
  · cases ht

lemma inodeAt_toVolume (t : TypedVolume) (d : DeviceId) (n : BitVec 32) :
    inodeAt t.toVolume d n = (t.cells d (tableBlock n)).read .inodes (tableSlot n) := by
  rw [Cell.read_eq]
  rfl

lemma inodeBits_toVolume (t : TypedVolume) (d : DeviceId) :
    inodeBits t.toVolume d = (t.cells d inodeBitmapBlock).read .bitmap := by
  rw [Cell.read_eq]
  rfl

lemma get_toVolume (t : TypedVolume) (d : DeviceId) (k : Kind) (b : ℕ) :
    t.toVolume.get d k b = (t.cells d b).read k := by
  rw [Cell.read_eq]
  rfl

end ProjectZero.Fs.Runs
