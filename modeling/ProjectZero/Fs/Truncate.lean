import ProjectZero.Fs.Owners

/-! # Truncation to nothing

Every caller of `truncate` cuts a file to size zero. If all blocks of the file are data blocks, their
bits are cleared and no pointer is left; if the first block is not a data block, as that of the root
directory, the truncation fails before it has changed anything. -/

namespace ProjectZero.Fs.Truncate

open Lib.Program Fs.Types Store Inode Journal Inspect Replay Owners

variable {α β : Type} {s s' : Volume} {d : DeviceId} {tx tx' : Tx} {l : BitVec 32}

/-! ### Running a truncation -/

abbrev execTx (p : TxM α) (tx : Tx) (s : Volume) : Option (Except FsError α × Tx) × Volume :=
  run volume (p.run.run tx) s

variable {p : TxM α} {f : α → TxM β}

lemma execTx_bind_ok {a : α} (hp : execTx p tx s = (some (.ok a, tx'), s')) :
    execTx (p >>= f) tx s = execTx (f a) tx' s' :=
  run_bind_of_some (f := fun r : Except FsError α × Tx => StateT.run (ExceptT.bindCont f r.1) r.2) hp

lemma execTx_bind_error {e : FsError} (hp : execTx p tx s = (some (.error e, tx'), s')) :
    execTx (p >>= f) tx s = (some (.error e, tx'), s') :=
  run_bind_of_some (f := fun r : Except FsError α × Tx => StateT.run (ExceptT.bindCont f r.1) r.2) hp

lemma execTx_lift {p : FsM α} {r : Except FsError α} (hp : exec volume p s = (some r, s')) :
    execTx (monadLift p) tx s = (some (r, tx), s') :=
  run_bind_of_some (f := fun r => pure (r, tx)) hp

lemma execTx_forM_cons {γ : Type} {f : γ → TxM PUnit} {a : γ} {as : List γ}
    (hp : execTx (f a) tx s = (some (.ok ⟨⟩, tx'), s')) :
    execTx ((a :: as).forM f) tx s = execTx (as.forM f) tx' s' := execTx_bind_ok hp

lemma execTx_get : execTx get tx s = (some (.ok tx, tx), s) := rfl

lemma execTx_modify (f : Tx → Tx) : execTx (modify f) tx s = (some (.ok ⟨⟩, f tx), s) := rfl

/-! ### Clearing bits one after the other -/

lemma put_put {b : ℕ} (x y : Block) : (s.put d b x).put d b y = s.put d b y := by
  simp [Volume.put]

lemma setBlockBits_setBlockBits (v w : Fin 32768 → Bool) :
    setBlockBits (setBlockBits s d v) d w = setBlockBits s d w := put_put _ _

@[simp] lemma giveBack_nil : giveBack s d [] = s := setBlockBits_self

lemma giveBack_append (ls ls' : List (BitVec 32)) :
    giveBack (giveBack s d ls) d ls' = giveBack s d (ls ++ ls') := by
  rw [giveBack, giveBack, setBlockBits_setBlockBits, blockBits_setBlockBits, giveBack, markAll,
    markAll, markAll, List.foldl_append]

lemma giveBack_zero : giveBack s d [0] = s := by
  rw [giveBack, markAll_cons, if_neg (by decide), markAll_nil, setBlockBits_self]

lemma exec_freeBlock_giveBack (h : InData l) :
    exec volume (freeBlock d l) s = (some (.ok ()), giveBack s d [l]) := by
  rw [exec_freeBlock h, giveBack, markAll_cons, if_pos h, markAll_nil]

def Droppable (l : BitVec 32) : Prop := l ≠ 0 → InData l

/-- The inode of `tx` with other pointers and another count of blocks. -/
def Recount (i j : DiskInode) : Prop :=
  ∃ directBlocks indirectBlock blocksCount, j = { i with directBlocks, indirectBlock, blocksCount }

lemma Recount.refl (i : DiskInode) : Recount i i := ⟨_, _, _, rfl⟩

variable {i : DiskInode}

lemma Recount.trans {j k : DiskInode} (h : Recount i j) (h' : Recount j k) : Recount i k := by
  obtain ⟨_, _, _, rfl⟩ := h
  obtain ⟨x, y, z, rfl⟩ := h'
  exact ⟨x, y, z, rfl⟩

/-! ### Direct blocks -/

lemma execTx_dropDirect {k : Fin 18} (h : Droppable (tx.inode.directBlocks k)) :
    ∃ tx', execTx (dropDirect d k) tx s =
        (some (.ok (), tx'), giveBack s d [tx.inode.directBlocks k]) ∧
      tx'.inode.directBlocks = update tx.inode.directBlocks k 0 ∧
      tx'.inode.indirectBlock = tx.inode.indirectBlock ∧ Recount tx.inode tx'.inode := by
  unfold dropDirect
  rw [execTx_bind_ok execTx_get]
  by_cases h0 : tx.inode.directBlocks k = 0
  · rw [if_neg (not_not.mpr h0), h0, giveBack_zero]
    refine ⟨tx, rfl, ?_, rfl, .refl _⟩
    rw [← h0, update_eq_self]
  rw [if_pos h0, execTx_bind_ok (execTx_lift (exec_freeBlock_giveBack (h h0))), execTx_modify]
  exact ⟨_, rfl, rfl, rfl, ⟨_, _, _, rfl⟩⟩

lemma execTx_dropDirects : ∀ (ks : List (Fin 18)) (tx : Tx) {s : Volume}, ks.Nodup →
    (∀ k ∈ ks, Droppable (tx.inode.directBlocks k)) →
    ∃ tx', execTx (ks.forM (dropDirect d)) tx s =
        (some (.ok ⟨⟩, tx'), giveBack s d (ks.map tx.inode.directBlocks)) ∧
      (∀ k ∈ ks, tx'.inode.directBlocks k = 0) ∧
      tx'.inode.indirectBlock = tx.inode.indirectBlock ∧ Recount tx.inode tx'.inode ∧
      ∀ k ∉ ks, tx'.inode.directBlocks k = tx.inode.directBlocks k
  | [], tx, s, _, _ => ⟨tx, by rw [List.map_nil, giveBack_nil]; rfl, nofun, rfl, .refl _,
      fun _ _ => rfl⟩
  | k :: ks, tx, s, hks, h => by
    obtain ⟨hk, hks⟩ := List.nodup_cons.mp hks
    obtain ⟨tx1, h1, hd1, hi1, hr1⟩ := execTx_dropDirect (d := d) (s := s) (h k List.mem_cons_self)
    have hold : ∀ k' ∈ ks, tx1.inode.directBlocks k' = tx.inode.directBlocks k' := by
      intro k' hk'
      rw [hd1, update_of_ne]
      rintro rfl
      exact hk hk'
    obtain ⟨tx2, h2, hd2, hi2, hr2, ho2⟩ := execTx_dropDirects ks tx1
      (s := giveBack s d [tx.inode.directBlocks k]) hks fun k' hk' => by
        rw [hold k' hk']
        exact h k' (List.mem_cons_of_mem _ hk')
    refine ⟨tx2, ?_, ?_, hi2.trans hi1, hr1.trans hr2, ?_⟩
    · rw [execTx_forM_cons h1, h2, giveBack_append, List.map_congr_left hold]
      rfl
    · intro k' hk'
      rcases List.mem_cons.mp hk' with rfl | hk'
      · rw [ho2 k' hk, hd1, update_self]
      · exact hd2 k' hk'
    intro k' hk'
    rw [List.mem_cons, not_or] at hk'
    rw [ho2 k' hk'.2, hd1, update_of_ne hk'.1]

/-! ### The indirect range -/

lemma execTx_dropPtr (tx : Tx) (h : Droppable l) :
    ∃ tx', execTx (dropPtr d l) tx s = (some (.ok (), tx'), giveBack s d [l]) ∧
      SamePtrs tx'.inode tx.inode ∧ Recount tx.inode tx'.inode := by
  unfold dropPtr
  by_cases h0 : l = 0
  · rw [if_neg (not_not.mpr h0), h0, giveBack_zero]
    exact ⟨tx, rfl, .refl _, .refl _⟩
  rw [if_pos h0, execTx_bind_ok (execTx_lift (exec_freeBlock_giveBack (h h0))), execTx_modify]
  exact ⟨_, rfl, ⟨rfl, rfl⟩, ⟨_, _, _, rfl⟩⟩

lemma execTx_dropPtrs : ∀ (ls : List (BitVec 32)) (tx : Tx) {s : Volume},
    (∀ l ∈ ls, Droppable l) →
    ∃ tx', execTx (ls.forM (dropPtr d)) tx s = (some (.ok ⟨⟩, tx'), giveBack s d ls) ∧
      SamePtrs tx'.inode tx.inode ∧ Recount tx.inode tx'.inode
  | [], tx, s, _ => ⟨tx, by rw [giveBack_nil]; rfl, .refl _, .refl _⟩
  | l :: ls, tx, s, h => by
    obtain ⟨tx1, h1, hp1, hr1⟩ := execTx_dropPtr (d := d) (s := s) tx (h l List.mem_cons_self)
    obtain ⟨tx2, h2, hp2, hr2⟩ := execTx_dropPtrs ls tx1 (s := giveBack s d [l])
      fun l' hl' => h l' (List.mem_cons_of_mem _ hl')
    refine ⟨tx2, ?_, hp2.trans hp1, hr1.trans hr2⟩
    rw [execTx_forM_cons h1, h2, giveBack_append]
    rfl

lemma execTx_dropIndirect (tx : Tx) (hi : InData tx.inode.indirectBlock)
    (hp : ∀ j, Droppable (s.get d .ptrs tx.inode.indirectBlock.toNat j)) :
    ∃ tx', execTx (dropIndirect d) tx s =
        (some (.ok ⟨⟩, tx'), giveBack s d
          (List.ofFn (s.get d .ptrs tx.inode.indirectBlock.toNat) ++ [tx.inode.indirectBlock])) ∧
      tx'.inode.directBlocks = tx.inode.directBlocks ∧ tx'.inode.indirectBlock = 0 ∧
      Recount tx.inode tx'.inode := by
  unfold dropIndirect
  rw [execTx_bind_ok execTx_get]
  rw [execTx_bind_ok (execTx_lift (exec_readBlock _ _ _))]
  obtain ⟨tx1, h1, hp1, hr1⟩ := execTx_dropPtrs (d := d) (s := s)
    (List.ofFn (s.get d .ptrs tx.inode.indirectBlock.toNat)) tx (by
      intro l hl
      obtain ⟨j, rfl⟩ := (List.mem_ofFn' _ _).mp hl
      exact hp j)
  rw [execTx_bind_ok h1, execTx_bind_ok (execTx_lift (exec_freeBlock_giveBack hi)), execTx_modify,
    giveBack_append]
  exact ⟨_, rfl, hp1.1, rfl, hr1.trans ⟨_, _, _, rfl⟩⟩

/-! ### The whole file -/

/-- The blocks an inode has numbers for. -/
def lbasOf (s : Volume) (d : DeviceId) (i : DiskInode) : List (BitVec 32) :=
  List.ofFn i.directBlocks ++
    if i.indirectBlock = 0 then []
    else List.ofFn (s.get d .ptrs i.indirectBlock.toNat) ++ [i.indirectBlock]

lemma mem_lbasOf (hl : l ≠ 0) : l ∈ lbasOf s d i ↔ ∃ p, lbaAt s d i p = l := by
  unfold lbasOf
  rw [List.mem_append, List.mem_ofFn']
  constructor
  · rintro (⟨k, rfl⟩ | h)
    · exact ⟨.direct k, rfl⟩
    split at h
    · cases h
    rename_i h0
    rw [List.mem_append, List.mem_ofFn', List.mem_singleton] at h
    rcases h with ⟨j, rfl⟩ | rfl
    · exact ⟨.slot j, by rw [lbaAt, if_neg h0]⟩
    · exact ⟨.indirect, rfl⟩
  rintro ⟨p, rfl⟩
  cases p with
  | direct k => exact .inl ⟨k, rfl⟩
  | indirect =>
    right
    rw [if_neg (by simpa [lbaAt] using hl)]
    exact List.mem_append_right _ (List.mem_singleton.mpr rfl)
  | slot j =>
    right
    rw [lbaAt] at hl ⊢
    split at hl
    · exact absurd rfl hl
    rename_i h0
    rw [if_neg h0, if_neg h0]
    exact List.mem_append_left _ ((List.mem_ofFn' _ _).mpr ⟨j, rfl⟩)

/-- The inode that a truncation to nothing leaves: only the pointers, the count of blocks and the size
are other. -/
structure Emptied (i j : DiskInode) : Prop where
  noPtrs : NoPtrs j
  same : ∃ directBlocks indirectBlock blocksCount sizeBytes,
    j = { i with directBlocks, indirectBlock, blocksCount, sizeBytes }
  size : j.sizeBytes = 0

lemma exec_truncated {r : Except FsError Unit} (tx' : Tx)
    (h : execTx (truncate d 0) ⟨i, [], []⟩ s = (some (r, tx'), s')) :
    exec volume (truncated d i 0) s = (some (.ok (r, tx'.inode)), s') := by
  refine run_bind_of_some (f := fun a => pure (Except.ok a)) ?_
  exact run_bind_of_some (f := fun x => pure (x.1, x.2.inode)) h

/-- **Truncation to nothing** of a file all of whose blocks are data blocks. -/
lemma exec_truncated_ok (h : ∀ p, Droppable (lbaAt s d i p)) :
    ∃ j, exec volume (truncated d i 0) s =
        (some (.ok (.ok ⟨⟩, j)), giveBack s d (lbasOf s d i)) ∧ Emptied i j := by
  obtain ⟨tx1, h1, hd1, hi1, hr1, -⟩ := execTx_dropDirects (d := d) (s := s) (List.finRange 18)
    ⟨i, [], []⟩ (List.nodup_finRange 18) fun k _ => h (.direct k)
  have hd1' : ∀ k, tx1.inode.directBlocks k = 0 := fun k => hd1 k (List.mem_finRange k)
  rw [← List.ofFn_eq_map] at h1
  have hptrs : (giveBack s d (List.ofFn i.directBlocks)).get d .ptrs i.indirectBlock.toNat =
      s.get d .ptrs i.indirectBlock.toNat ∨ i.indirectBlock = 0 := by
    by_cases h0 : i.indirectBlock = 0
    · exact .inr h0
    left
    refine get_setBlockBits_of_ne ?_ _
    have := (h .indirect h0).1
    simp only [lbaAt, dataBlockStart, blockBitmapBlock] at this ⊢
    omega
  have hstart : execTx (truncate d 0) ⟨i, [], []⟩ s = execTx (do
        if (← get).inode.indirectBlock ≠ 0 then dropIndirect d
        modify fun tx => { tx with inode.sizeBytes := 0 }) tx1
        (giveBack s d (List.ofFn i.directBlocks)) := by
    unfold truncate
    rw [if_pos rfl, execTx_bind_ok (a := 0) rfl]
    exact execTx_bind_ok h1
  by_cases h0 : i.indirectBlock = 0
  · refine ⟨{ tx1.inode with sizeBytes := 0 }, ?_, ⟨⟨hd1', hi1.trans h0⟩, ?_, rfl⟩⟩
    · refine exec_truncated { tx1 with inode.sizeBytes := 0 } ?_
      rw [hstart, execTx_bind_ok execTx_get, if_neg (not_not.mpr (hi1.trans h0)), lbasOf, if_pos h0,
        List.append_nil]
      rfl
    obtain ⟨x, y, z, he⟩ := hr1
    exact ⟨x, y, z, _, by rw [he]⟩
  have hp := hptrs.resolve_right h0
  have hi1' : tx1.inode.indirectBlock = i.indirectBlock := hi1
  obtain ⟨tx2, h2, hd2, hi2, hr2⟩ := execTx_dropIndirect (d := d) tx1
    (s := giveBack s d (List.ofFn i.directBlocks)) (by rw [hi1']; exact h .indirect h0) (by
      intro j
      rw [hi1', hp]
      have := h (.slot j)
      rwa [lbaAt, if_neg h0] at this)
  rw [hi1', hp, giveBack_append] at h2
  refine ⟨{ tx2.inode with sizeBytes := 0 },
    ?_, ⟨⟨fun k => by rw [hd2]; exact hd1' k, hi2⟩, ?_, rfl⟩⟩
  · refine exec_truncated { tx2 with inode.sizeBytes := 0 } ?_
    rw [hstart, execTx_bind_ok execTx_get, if_pos (by rw [hi1']; exact h0), execTx_bind_ok h2,
      lbasOf, if_neg h0]
    rfl
  obtain ⟨x, y, z, he⟩ := hr1.trans hr2
  exact ⟨x, y, z, _, by rw [he]⟩

lemma exec_truncated_error (h0 : i.directBlocks 0 ≠ 0) (h : ¬InData (i.directBlocks 0)) :
    exec volume (truncated d i 0) s = (some (.ok (.error .invalidArgument, i)), s) := by
  refine exec_truncated ⟨i, [], []⟩ ?_
  have hdrop : execTx (dropDirect d 0) ⟨i, [], []⟩ s =
      (some (.error .invalidArgument, ⟨i, [], []⟩), s) := by
    unfold dropDirect
    rw [execTx_bind_ok execTx_get]
    rw [if_pos h0, execTx_bind_error (execTx_lift (exec_freeBlock_of_not h))]
  have hloop : execTx ((List.finRange 18).forM (dropDirect d)) ⟨i, [], []⟩ s =
      (some (.error .invalidArgument, ⟨i, [], []⟩), s) := by
    rw [List.finRange_succ]
    exact execTx_bind_error hdrop
  unfold truncate
  rw [if_pos rfl, execTx_bind_ok (a := 0) rfl]
  exact execTx_bind_error hloop

end ProjectZero.Fs.Truncate
