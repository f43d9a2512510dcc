import ProjectZero.Fs.Soundness

/-! # One write transaction on a sound volume

While the blocks of a chunk are mapped, two tables are sound at once: the one on the volume, in case
the mapping fails, and the one with the inode of the transaction, which the volume gets at the end. -/

namespace ProjectZero.Fs.Chunk

open Lib.Layout Lib.Holding Lib.Program Fs.Types Store Inode Journal File Inspect
open Replay Owners Fs.Mapping Soundness

variable {d : DeviceId} {c T : Prop} {s s' s₀ : Volume} {g : Table} {n l : BitVec 32} {tx tx' : Tx}
  {lbas : List (BitVec 32)} {b idx : ℕ}

/-! ### Tables that are sound, and tight if `T` -/

structure Good (d : DeviceId) (T : Prop) (s : Volume) (g : Table) : Prop where
  owned : Owned s d g
  tight : T → TightAt d s g

lemma Good.put (h : Good d T s g) (hi : b ≠ inodeBitmapBlock) (hb : b ≠ blockBitmapBlock)
    (hp : NotPtrs s d g b) (x : Block) : Good d T (s.put d b x) g where
  owned := h.owned.put hb hp x
  tight ht := (h.tight ht).congr (ref_put hp x)
    (fun m hm => by rw [Allocated, inodeBits_put_of_ne hi]; exact hm)
    fun _ _ hr => (taken_put hb x).mp hr

/-- The blocks before the data blocks are the same, the block bitmap apart. -/
def LowSame (d : DeviceId) (s s' : Volume) : Prop :=
  ∀ b, b < dataBlockStart → b ≠ blockBitmapBlock → s'.blocks d b = s.blocks d b

lemma LowSame.inodeAt_eq (h : LowSame d s s') (hn : IsSlot n) : inodeAt s' d n = inodeAt s d n := by
  rw [inodeAt, inodeAt, Volume.get, Volume.get, h _ (tableBlock_low hn) (tableBlock_ne_bitmap n)]

lemma LowSame.inodeBits_eq (h : LowSame d s s') : inodeBits s' d = inodeBits s d := by
  rw [inodeBits, inodeBits, Volume.get, Volume.get, h _ (by decide) (by decide)]

lemma Moved.lowSame (h : Moved d s tx idx l tx' s') : LowSame d s s' := by
  intro b hb hb'
  refine h.frame b hb' fun x hx he => ?_
  have := hx.1.1
  omega

/-- No block is lost when a block of a file is mapped without a copy of the indirect block. -/
lemma Moved.tight (h : Moved d s tx idx l tx' s') (ho : Owned s d g) (hn : IsSlot n)
    (hroot : n ≠ rootDirInode) (ha : Allocated s d n) (hg : SamePtrs tx.inode (g n))
    (hf : tx'.freed = []) (ht : TightAt d s g) : TightAt d s' (update g n tx'.inode) := by
  have hbits : ∀ m, Allocated s' d m ↔ Allocated s d m := fun m => by
    rw [Allocated, (Moved.lowSame h).inodeBits_eq, Allocated]
  have hnew : ∀ {p x}, lbaAt s' d tx'.inode p = x → x ≠ 0 →
      ref s' d (update g n tx'.inode) n p = some x := by
    intro p x hx h0
    rw [ref_eq_some, update_self]
    exact ⟨hn, hx, h0⟩
  have hothers : ∀ m p, m ≠ n → ref s' d (update g n tx'.inode) m p = ref s d g m p := by
    intro m p hm
    rw [← h.slots ho m p]
    exact ref_congr (fun _ => by rw [update_of_ne hm]; exact .refl _) (fun _ _ => rfl) p
  refine ⟨Used.assign ht.used n hothers (fun m _ hm => (hbits m).mpr hm)
    (fun p x _ _ hr _ => ⟨(hbits n).mpr ha, p, ?_⟩) fun x hx ht' hno => ⟨(hbits n).mpr ha, ?_⟩,
    fun hr => ht.plain (by rwa [hothers _ _ hroot.symm] at hr)⟩
  · obtain ⟨-, hx, h0⟩ := ref_eq_some.mp hr
    rw [← lbaAt_congr hg (fun _ => rfl)] at hx
    refine hnew ?_ h0
    rw [(h.nothing_lost hf).2 p (by rwa [hx]), hx]
  have h0 := ne_zero_of_inData hx
  rcases (h.taken (.inl hx)).mp ht' with hold | rfl | hi
  · exact absurd hold hno
  · exact ⟨_, hnew h.here h0⟩
  · exact ⟨.indirect, hnew hi.symm h0⟩

/-! ### Mapping the blocks of a chunk -/

/-- The block is taken, and not for pointers. -/
structure ForData (d : DeviceId) (s : Volume) (g : Table) (l : BitVec 32) : Prop where
  region : InData l ∨ l = BitVec.ofNat 32 rootDirBlock
  taken : Taken s d l
  notPtrs : NotPtrs s d g l.toNat

lemma ForData.le (h : ForData d s g l) : rootDirBlock ≤ l.toNat := by
  rcases h.region with hd | rfl
  · have := hd.1
    simp only [dataBlockStart, rootDirBlock] at this ⊢
    omega
  · decide

/-- The blocks mapped so far. -/
structure Mapped (d : DeviceId) (n : BitVec 32) (s₀ : Volume) (tx : Tx) (lbas : List (BitVec 32))
    (s : Volume) : Prop where
  old : Owned s d (inodeAt s₀ d)
  refs : ∀ m p, ref s d (inodeAt s₀ d) m p = ref s₀ d (inodeAt s₀ d) m p
  new : Owned s d (update (inodeAt s₀ d) n tx.inode)
  tight : tx.freed = [] → n ≠ rootDirInode ∧ Allocated s₀ d n → Tight d s₀ →
    TightAt d s (update (inodeAt s₀ d) n tx.inode)
  low : LowSame d s₀ s
  objects : s.objects = s₀.objects
  listed : ∀ l ∈ lbas, ForData d s (update (inodeAt s₀ d) n tx.inode) l

/-- What a failed mapping leaves. -/
structure Failed (d : DeviceId) (s₀ s : Volume) : Prop where
  old : Owned s d (inodeAt s₀ d)
  refs : ∀ m p, ref s d (inodeAt s₀ d) m p = ref s₀ d (inodeAt s₀ d) m p
  low : LowSame d s₀ s
  objects : s.objects = s₀.objects

lemma Mapped.start (h : Owned s d (inodeAt s d)) : Mapped d n s ⟨inodeAt s d n, [], []⟩ [] s where
  old := h
  refs _ _ := rfl
  new := by rwa [update_eq_self]
  tight _ _ ht := by rwa [update_eq_self]
  low _ _ _ := rfl
  objects := rfl
  listed := nofun

lemma Mapped.failed (h : Mapped d n s₀ tx lbas s) (hw : AsWas d idx s s') : Failed d s₀ s' := by
  rcases hw with rfl | ⟨-, k, hk, rfl⟩
  · exact ⟨h.old, h.refs, h.low, h.objects⟩
  refine ⟨h.old.takeBlock hk, fun m p => (ref_takeBlock h.old hk m p).trans (h.refs m p),
    fun b hb hb' => ?_, h.objects⟩
  rw [blocks_takeBlock_of_ne _ hb', h.low b hb hb']
  have := (freeLba_eq_some hk).1
  simp only [dataBlockStart] at hb
  omega

lemma Moved.forData_here (h : Moved d s tx idx l tx' s')
    (ho : Owned s' d (update g n tx'.inode)) (hn : IsSlot n) :
    ForData d s' (update g n tx'.inode) l := by
  have hr : ref s' d (update g n tx'.inode) n (posOf idx) = some l := by
    rw [ref_eq_some, update_self]
    exact ⟨hn, h.here, h.ne_zero⟩
  refine ⟨ho.region' hr, ho.taken hr, fun m x hx he => ?_⟩
  have hxl : x = l := BitVec.eq_of_toNat_eq he
  subst hxl
  exact posOf_ne_indirect idx (ho.unshared hr hx).2

lemma Moved.forData (h : Moved d s tx idx l tx' s') {x : BitVec 32}
    (hx : ForData d s (update g n tx.inode) x) (ho : Owned s d (update g n tx.inode)) :
    ForData d s' (update g n tx'.inode) x := by
  refine ⟨hx.region, (h.taken hx.region).mpr (.inl hx.taken), fun m y hy he => ?_⟩
  obtain ⟨hm, hlba, h0⟩ := ref_eq_some.mp hy
  by_cases hmn : m = n
  · subst hmn
    rw [update_self] at hlba
    rcases h.indirect with hi | ⟨hf, -⟩
    · refine hx.notPtrs m y ?_ he
      rw [ref_eq_some, update_self]
      exact ⟨hm, hi.symm.trans hlba, h0⟩
    have hyx : tx'.inode.indirectBlock = x := hlba.trans (BitVec.eq_of_toNat_eq he)
    exact hf.2 (hyx ▸ hx.taken)
  refine hx.notPtrs m y ?_ he
  rw [← h.slots ho m, ref_eq_some, update_of_ne hmn]
  rw [update_of_ne hmn] at hlba
  exact ⟨hm, hlba, h0⟩

/-- **One block more is mapped.** -/
lemma Mapped.step (h : Mapped d n s₀ tx lbas s) (hn : IsSlot n) (hm : Moved d s tx idx l tx' s') :
    Mapped d n s₀ tx' (if lbas.length < maxDataBlocksPerTx then lbas ++ [l] else lbas) s' := by
  have hsame : SamePtrs tx.inode (update (inodeAt s₀ d) n tx.inode n) := by
    rw [update_self]
    exact .refl _
  have hnew : Owned s' d (update (inodeAt s₀ d) n tx'.inode) := by
    have := hm.owned_new h.new hsame
    rwa [update_idem] at this
  have hlow := Moved.lowSame hm
  refine ⟨hm.owned_old h.old, fun m p => (hm.slots h.old m p).trans (h.refs m p), hnew,
    fun hf ha ht => ?_, fun b hb hb' => ?_, hm.objects.trans h.objects, fun x hx => ?_⟩
  · have ha' : Allocated s d n := by
      rw [Allocated, h.low.inodeBits_eq]
      exact ha.2
    have := Moved.tight hm h.new hn ha.1 ha' hsame hf (h.tight (hm.nothing_lost hf).1 ha ht)
    rwa [update_idem] at this
  · rw [hlow b hb hb', h.low b hb hb']
  have hx' : x ∈ lbas ∨ x = l := by
    split at hx
    · simpa using hx
    · exact .inl hx
  rcases hx' with hx' | rfl
  · exact Moved.forData hm (h.listed x hx') h.new
  · exact Moved.forData_here hm hnew hn

lemma mapSpans_mapped (hn : IsSlot n) : ∀ (ps : List (ℕ × ℕ)) {tx : Tx} {lbas : List (BitVec 32)}
    {s : Volume}, Mapped d n s₀ tx lbas s →
    EPost volume (mapSpans d ps tx lbas) s (fun _ s' => Failed d s₀ s')
      fun r s' => Mapped d n s₀ r.1 r.2 s'
  | [], _, _, _, h => .pure h
  | (pos, _) :: ps, tx, lbas, s, h => by
    refine .ite (fun _ => ?_) fun _ => .halt
    refine .bind ((bmapAlloc_maps tx _).mono (fun _ _ hw => h.failed hw) fun _ _ => id) ?_
    rintro ⟨l, tx'⟩ s' hmaps
    have hsame : SamePtrs tx.inode (update (inodeAt s₀ d) n tx.inode n) := by
      rw [update_self]
      exact .refl _
    exact mapSpans_mapped hn ps (h.step hn (hmaps.moved h.new hn hsame))

/-! ### Filling them -/

/-- Only the listed blocks are written. -/
def WritesOnly (d : DeviceId) (lbas : List (BitVec 32)) (s s' : Volume) : Prop :=
  s'.objects = s.objects ∧ ∀ b, (∀ l ∈ lbas, l.toNat ≠ b) → s'.blocks d b = s.blocks d b

lemma fillSpans_writesOnly : ∀ (ps : List (ℕ × ℕ)) (lbas : List (BitVec 32)) (chunk : List Byte)
    (blk : Block) {s : Volume},
    EPost volume (fillSpans d ps lbas chunk blk) s (fun _ _ => False)
      fun _ s' => WritesOnly d lbas s s'
  | [], _, _, _, _ => .pure ⟨rfl, fun _ _ => rfl⟩
  | _ :: _, [], _, _, _ => .halt
  | (pos, k) :: ps, l :: lbas, chunk, blk, s => by
    have hrest : ∀ data : Block, EPost volume (do
        writeBlock d .raw l.toNat (overlay data (pos % blockSize) (chunk.take k))
        fillSpans d ps lbas (chunk.drop k) (overlay data (pos % blockSize) (chunk.take k))) s
        (fun _ _ => False) fun _ s' => WritesOnly d (l :: lbas) s s' := by
      intro data
      refine epost_bind (exec_writeBlock _ _ _ _) ?_
      refine (fillSpans_writesOnly ps lbas _ _).mono (fun _ _ => id) ?_
      rintro _ s' ⟨ho, hs'⟩
      refine ⟨ho, fun b hb => ?_⟩
      rw [hs' b fun x hx => hb x (List.mem_cons_of_mem _ hx),
        Volume.blocks_put_of_ne (hb l List.mem_cons_self).symm]
    exact .ite (fun _ => epost_bind (exec_readBlock _ _ _) (hrest _)) fun _ => hrest _

lemma Good.writesOnly (h : Good d T s g) (hl : ∀ l ∈ lbas, ForData d s g l)
    (hw : WritesOnly d lbas s s') : Good d T s' g := by
  have hlow : ∀ b < rootDirBlock, s'.blocks d b = s.blocks d b := fun b hb =>
    hw.2 b fun l hl' he => by
      have := (hl l hl').le
      omega
  have href : ∀ m p, ref s' d g m p = ref s d g m p := fun m p =>
    ref_congr (fun _ => .refl _)
      (fun x hx => hw.2 _ fun l hl' he => (hl l hl').notPtrs m x hx he.symm) p
  have htaken : ∀ x, Taken s' d x ↔ Taken s d x := fun x => by
    rw [Taken, blockBits, Volume.get, hlow _ (by decide)]
    rfl
  refine ⟨h.owned.congr href fun m p x hr => (htaken x).mpr (h.owned.taken hr), fun ht => ?_⟩
  refine (h.tight ht).congr href (fun m hm => ?_) fun x _ hx => (htaken x).mp hx
  rw [Allocated, inodeBits, Volume.get, hlow _ (by decide)]
  exact hm

/-! ### The transaction -/

/-- The volume when the record is committed: the table with the inode of the transaction is good, that
of the volume is as before. -/
structure Ready (d : DeviceId) (n : BitVec 32) (s₀ : Volume) (tx : Tx) (s : Volume) : Prop where
  slot : IsSlot n
  good : Good d (tx.freed = [] ∧ (n ≠ rootDirInode ∧ Allocated s₀ d n) ∧ Tight d s₀) s
    (update (inodeAt s₀ d) n tx.inode)
  table : ∀ m, IsSlot m → inodeAt s d m = inodeAt s₀ d m
  objects : s.objects = s₀.objects

lemma mapChunk_mapped (h : Owned s d (inodeAt s d)) (hn : IsSlot n) (pos : BitVec 64)
    (chunk : List Byte) : EPost volume (mapChunk d (inodeAt s d n) pos chunk) s
      (fun _ s' => Failed d s s') fun r s' => Mapped d n s r.1 r.2 s' := by
  refine (mapSpans_mapped hn _ (.start h)).bind ?_
  rintro ⟨tx, lbas⟩ s1 hm
  refine (epost_addChecked _ _).bind ?_
  rintro e s' ⟨-, rfl⟩
  have hp : SamePtrs (grown tx.inode e).recomputeChecksum tx.inode := ⟨rfl, rfl⟩
  have htable : ∀ m, IsSlot m → SamePtrs
      (update (inodeAt s d) n (grown tx.inode e).recomputeChecksum m)
      (update (inodeAt s d) n tx.inode m) := fun m _ => samePtrs_update hp m
  have href : ∀ m p, ref s' d (update (inodeAt s d) n (grown tx.inode e).recomputeChecksum) m p =
        ref s' d (update (inodeAt s d) n tx.inode) m p :=
    fun m p => ref_congr (htable m) (fun _ _ => rfl) p
  refine .pure ⟨hm.old, hm.refs, hm.new.table htable, fun hf ha ht => ?_, hm.low, hm.objects,
    fun l hl => ?_⟩
  · exact (hm.tight hf ha ht).congr href (fun _ => id) fun _ _ => id
  obtain ⟨hr, ht, hp⟩ := hm.listed l hl
  exact ⟨hr, ht, fun m x hx => hp m x (by rwa [href] at hx)⟩

lemma Good.journal (h : Good d T s g) (x : Block) : Good d T (s.put d journalBlock x) g :=
  h.put (by decide) (by decide) (h.owned.notPtrs_low (by decide)) x

lemma epost_writeJournalBlock {E : FsError → Volume → Prop} (jrn : DiskJournalBlock) :
    EPost volume (writeJournalBlock d jrn) s E fun _ s' =>
      s' = withJournal s d jrn.recomputeChecksum :=
  Post.of_run (exec_writeJournalBlock jrn) rfl

lemma commitChunk_ready (h : Owned s d (inodeAt s d)) (pos : BitVec 64) (chunk : List Byte) :
    EPost volume (commitChunk d n pos chunk) s (fun _ s' => Failed d s s')
      fun tx s' => Ready d n s tx s' := by
  have hread : EPost volume (readInode d n) s (fun _ s' => Failed d s s')
      fun i s' => IsSlot n ∧ i = inodeAt s d n ∧ s' = s := by
    refine .of_run exec_readInode ?_
    cases hf : foundInode s d n with
    | error e => exact ⟨h, fun _ _ => rfl, fun _ _ _ => rfl, rfl⟩
    | ok i =>
      obtain ⟨hn, -, hi⟩ := foundInode_eq_ok hf
      exact ⟨hn, hi.symm, rfl⟩
  refine hread.bind ?_
  rintro _ s ⟨hn, rfl, rfl⟩
  refine (mapChunk_mapped h hn pos chunk).bind ?_
  rintro ⟨tx, lbas⟩ s1 hm
  refine (epost_writeJournalBlock _).bind ?_
  rintro _ _ rfl
  refine ((fillSpans_writesOnly _ _ _ _).mono (fun _ _ => False.elim) fun _ _ => id).bind ?_
  rintro _ s2 hw
  refine epost_bind (exec_syncAllBuffers _) ((epost_writeJournalBlock _).bind ?_)
  rintro _ _ rfl
  have hgood : Good d (tx.freed = [] ∧ (n ≠ rootDirInode ∧ Allocated s d n) ∧ Tight d s) s1
      (update (inodeAt s d) n tx.inode) := ⟨hm.new, fun ⟨hf, ha, ht⟩ => hm.tight hf ha ht⟩
  have hlisted : ∀ l ∈ lbas, ForData d (withJournal s1 d (writeRecord n (inodeAt s d n)
      tx).recomputeChecksum) (update (inodeAt s d) n tx.inode) l := fun l hl => by
    obtain ⟨hr, ht, hp⟩ := hm.listed l hl
    refine ⟨hr, (taken_put (by decide) _).mpr ht, fun m x hx => hp m x ?_⟩
    rwa [withJournal, ref_put (hm.new.notPtrs_low (by decide))] at hx
  refine .pure ⟨hn, ((hgood.journal _).writesOnly hlisted hw).journal _, fun m hm' => ?_,
    hw.1.trans hm.objects⟩
  rw [withJournal, inodeAt_put (.inl (by decide)) _ hm', ← hm.low.inodeAt_eq hm', inodeAt, inodeAt,
    Volume.get, Volume.get, hw.2 _ fun l hl he => ?_, withJournal,
    Volume.blocks_put_of_ne (tableBlock_ne m (by decide))]
  have h1 := (hlisted l hl).le
  have h2 := tableBlock_lt hm'
  simp only [rootDirBlock] at h1
  omega

lemma Good.setInode (h : Good d T s g) (hn : IsSlot n) (i : DiskInode) :
    Good d T (setInode s d n i) g :=
  h.put (tableBlock_ne n (by decide)) (tableBlock_ne n (by decide))
    (h.owned.notPtrs_low (tableBlock_low hn)) _

lemma Good.table {g' : Table} (h : Good d T s g)
    (hp : ∀ m, IsSlot m → SamePtrs (g' m) (g m)) : Good d T s g' where
  owned := h.owned.table hp
  tight ht := (h.tight ht).congr (fun m p => ref_congr (hp m) (fun _ _ => rfl) p) (fun _ => id)
    fun _ _ => id

/-- The transaction loses no block: it is on an allocated inode, not that of the root directory, and
copies no indirect block; if it fails, it has taken no block. -/
structure Thrifty (d : DeviceId) (n : BitVec 32) (pos : BitVec 64) (chunk : List Byte)
    (s : Volume) : Prop where
  done : ∀ {tx s'}, exec volume (commitChunk d n pos chunk) s = (some (.ok tx), s') →
    (n ≠ rootDirInode ∧ Allocated s d n) ∧ tx.freed = []
  failed : ∀ {e s'}, exec volume (commitChunk d n pos chunk) s = (some (.error e), s') →
    blockBits s' d = blockBits s d

lemma Failed.keeps (h : Failed d s s') (hs : Sound d s) (hc : c → blockBits s' d = blockBits s d) :
    Keeps d c s s' := by
  have htable : ∀ m, IsSlot m → SamePtrs (inodeAt s' d m) (inodeAt s d m) := fun m hm => by
    rw [h.low.inodeAt_eq hm]
    exact .refl _
  refine ⟨⟨h.old.table htable, ?_, by rw [h.objects]; exact hs.here⟩, fun hc' ht => ?_⟩
  · rw [h.low _ (by decide) (by decide)]
    exact hs.idle
  have hbits := hc hc'
  refine ht.congr (fun m p => ?_) (fun m hm => ?_) fun x _ hx => ?_
  · rw [← h.refs m p]
    exact ref_congr (htable m) (fun _ _ => rfl) p
  · rwa [Allocated, h.low.inodeBits_eq]
  · rwa [Taken, hbits] at hx

/-- **A write transaction** keeps a volume sound. -/
lemma writeChunkTx_keeps (h : Sound d s) {pos : BitVec 64} {chunk : List Byte}
    (hc : c → Thrifty d n pos chunk s) :
    EPost volume (writeChunkTx d n pos chunk) s (fun _ s' => Keeps d c s s')
      fun _ s' => Keeps d c s s' := by
  refine .bind (EPost.mono ((commitChunk_ready h.owned pos chunk).and EPost.self)
    (fun e s' ⟨hf, hrun⟩ => hf.keeps h fun hc' => (hc hc').failed hrun) fun _ _ => id) ?_
  rintro tx s1 ⟨hr, hrun⟩
  refine .bind (P := fun _ s' => Keeps d c s s') (epost_bind (exec_writeInode hr.slot _)
    (epost_bind (exec_syncAllBuffers _) (Post.of_run (exec_clear _) ?_)))
    fun _ _ hk => .pure hk
  have hgood : Good d _ _ (inodeAt (withJournal (setInode s1 d n tx.inode.recomputeChecksum) d
      (cleared 2)) d) := ((hr.good.setInode hr.slot tx.inode.recomputeChecksum).journal
    ((format .journal).symm (cleared 2))).table fun m hm => by
    rw [withJournal, inodeAt_put (.inl (by decide)) _ hm, inodeAt_setInode]
    by_cases hmn : m = n
    · subst hmn
      rw [update_self, update_self]
      exact samePtrs_recomputeChecksum _
    rw [update_of_ne hmn, update_of_ne hmn, hr.table m hm]
    exact .refl _
  refine ⟨⟨hgood.owned, ?_, ?_⟩, fun hc' ht => ?_⟩
  · rw [withJournal, Volume.blocks_put_self]
    exact idle_cleared 2
  · intro i
    rw [withJournal, Volume.objects_put, objects_setInode, hr.objects]
    exact h.here i
  obtain ⟨ha, hf⟩ := (hc hc').done hrun
  exact hgood.tight ⟨hf, ha, ht⟩

end ProjectZero.Fs.Chunk
