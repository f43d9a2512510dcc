import ProjectZero.Lib.Holding
import ProjectZero.Fs.Replay

/-! # Which inode owns a block

An inode refers to blocks by its direct pointers, by its indirect pointer and by the pointers in its
indirect block. On a sound volume no block is referred to twice, every block referred to is a data
block, the block of the root directory apart, and its bit in the block bitmap is set. The table of
inodes is a parameter: during a write the inode that is written is ahead of the one on the volume. -/

namespace ProjectZero.Fs.Owners

open Lib.Holding Fs.Types Store Inode Journal Inspect Replay
open BitVec (ofNat)

/-- A place of an inode for the number of a block. -/
inductive Pos
  | direct (i : Fin 18)
  | indirect
  | slot (j : Fin 1024)
deriving DecidableEq

/-- The number there; zero stands for no block. -/
def lbaAt (s : Volume) (d : DeviceId) (i : DiskInode) : Pos → BitVec 32
  | .direct k => i.directBlocks k
  | .indirect => i.indirectBlock
  | .slot j => if i.indirectBlock = 0 then 0 else s.get d .ptrs i.indirectBlock.toNat j

abbrev Table := BitVec 32 → DiskInode

/-- The block that inode `n` of a table refers to. -/
def ref (s : Volume) (d : DeviceId) (g : Table) (n : BitVec 32) (p : Pos) : Option (BitVec 32) :=
  if IsSlot n then lbaOption (lbaAt s d (g n) p) else none

def Taken (s : Volume) (d : DeviceId) (l : BitVec 32) : Prop :=
  blockBits s d (bitIdx l.toNat)

def Fresh (s : Volume) (d : DeviceId) (l : BitVec 32) : Prop := InData l ∧ ¬Taken s d l

structure Owned (s : Volume) (d : DeviceId) (g : Table) : Prop extends
    Held (ref s d g) (Taken s d) where
  region : ∀ {n p l}, ref s d g n p = some l →
    InData l ∨ l = ofNat 32 rootDirBlock ∧ n = rootDirInode ∧ p = .direct 0

variable {s s' : Volume} {d : DeviceId} {g g' : Table} {n m l : BitVec 32} {p : Pos} {b : ℕ}

/-! ### References -/

lemma lbaOption_eq_some : lbaOption l = some m ↔ l = m ∧ l ≠ 0 := by
  unfold lbaOption
  split
  next h0 =>
    simp [h0]
  rename_i h0
  rw [Option.some_inj]
  exact (and_iff_left h0).symm

lemma ref_eq_some : ref s d g n p = some l ↔ IsSlot n ∧ lbaAt s d (g n) p = l ∧ l ≠ 0 := by
  unfold ref
  by_cases hn : IsSlot n
  · rw [if_pos hn, lbaOption_eq_some]
    constructor
    · rintro ⟨rfl, h0⟩
      exact ⟨hn, rfl, h0⟩
    rintro ⟨-, rfl, h0⟩
    exact ⟨rfl, h0⟩
  rw [if_neg hn]
  simp [hn]

lemma ref_indirect (h : IsSlot n) (h0 : (g n).indirectBlock ≠ 0) :
    ref s d g n .indirect = some (g n).indirectBlock := ref_eq_some.mpr ⟨h, rfl, h0⟩

def SamePtrs (i j : DiskInode) : Prop :=
  i.directBlocks = j.directBlocks ∧ i.indirectBlock = j.indirectBlock

lemma SamePtrs.refl (i : DiskInode) : SamePtrs i i := ⟨rfl, rfl⟩

variable {i j : DiskInode}

lemma SamePtrs.symm (h : SamePtrs i j) : SamePtrs j i := ⟨h.1.symm, h.2.symm⟩

lemma SamePtrs.trans {k : DiskInode} (h : SamePtrs i j) (h' : SamePtrs j k) : SamePtrs i k :=
  ⟨h.1.trans h'.1, h.2.trans h'.2⟩

lemma samePtrs_recomputeChecksum (i : DiskInode) : SamePtrs i.recomputeChecksum i := ⟨rfl, rfl⟩

def NoPtrs (i : DiskInode) : Prop := (∀ k, i.directBlocks k = 0) ∧ i.indirectBlock = 0

lemma NoPtrs.lbaAt_eq (h : NoPtrs i) (p : Pos) : lbaAt s d i p = 0 := by
  cases p with
  | direct k => exact h.1 k
  | indirect => exact h.2
  | slot j => rw [lbaAt, if_pos h.2]

lemma NoPtrs.ref_eq (h : NoPtrs (g n)) (p : Pos) : ref s d g n p = none := by
  unfold ref
  split
  · rw [h.lbaAt_eq]
    rfl
  · rfl

lemma NoPtrs.of_samePtrs (h : NoPtrs i) (hp : SamePtrs j i) : NoPtrs j :=
  ⟨fun k => by rw [hp.1]; exact h.1 k, hp.2.trans h.2⟩

lemma lbaAt_congr (hp : SamePtrs i j) (hb : j.indirectBlock ≠ 0 →
      s'.blocks d j.indirectBlock.toNat = s.blocks d j.indirectBlock.toNat) (p : Pos) :
    lbaAt s' d i p = lbaAt s d j p := by
  cases p with
  | direct k => exact congrFun hp.1 k
  | indirect => exact hp.2
  | slot k =>
    rw [lbaAt, lbaAt, hp.2]
    split
    · rfl
    rename_i h0
    rw [Volume.get, Volume.get, hb h0]

lemma ref_congr (hp : IsSlot n → SamePtrs (g' n) (g n))
    (hb : ∀ l, ref s d g n .indirect = some l → s'.blocks d l.toNat = s.blocks d l.toNat) (p : Pos) :
    ref s' d g' n p = ref s d g n p := by
  unfold ref
  split
  next hn =>
    rw [lbaAt_congr (hp hn) fun h0 => hb _ (ref_indirect hn h0)]
  · rfl

/-! ### What keeps a volume sound -/

/-- Nobody's pointers are in block `b`. -/
def NotPtrs (s : Volume) (d : DeviceId) (g : Table) (b : ℕ) : Prop :=
  ∀ n l, ref s d g n .indirect = some l → l.toNat ≠ b

/-- **An inode changes its blocks**, as a holder changes its places. -/
lemma Owned.assign (h : Owned s d g) (n : BitVec 32)
    (hothers : ∀ m p, m ≠ n → ref s' d g' m p = ref s d g m p)
    (hkeep : ∀ m p l, m ≠ n → ref s d g m p = some l → Taken s' d l)
    (hmine : ∀ p l, ref s' d g' n p = some l →
      Taken s' d l ∧ (ref s d g n p = some l ∨ Fresh s d l))
    (hnew : ∀ p q l, ref s' d g' n p = some l → ref s' d g' n q = some l → Fresh s d l → p = q) :
    Owned s' d g' where
  toHeld := by
    refine h.toHeld.assign n hothers hkeep (fun p l hp => ?_) fun p q l hp hq hn => ?_
    · obtain ⟨ht, hold | hf⟩ := hmine p l hp
      · exact ⟨ht, .inl hold⟩
      · exact ⟨ht, .inr hf.2⟩
    rcases (hmine p l hp).2 with hold | hf
    · exact absurd (h.taken hold) hn
    · exact hnew p q l hp hq hf
  region {m p l} hp := by
    by_cases hm : m = n
    · subst hm
      rcases (hmine p l hp).2 with hold | hf
      · exact h.region hold
      · exact .inl hf.1
    rw [hothers m p hm] at hp
    exact h.region hp

lemma Owned.congr (h : Owned s d g) (href : ∀ m p, ref s' d g' m p = ref s d g m p)
    (hkeep : ∀ m p l, ref s d g m p = some l → Taken s' d l) : Owned s' d g' where
  toHeld := h.toHeld.congr href hkeep
  region hp := h.region (by rwa [href] at hp)

lemma Owned.table (h : Owned s d g) (hp : ∀ m, IsSlot m → SamePtrs (g' m) (g m)) : Owned s d g' :=
  h.congr (fun m p => ref_congr (hp m) (fun _ _ => rfl) p) fun _ _ _ hr => h.taken hr

lemma taken_put (hb : b ≠ blockBitmapBlock) (x : Block) :
    Taken (s.put d b x) d l ↔ Taken s d l := by
  rw [Taken, blockBits_put_of_ne hb, Taken]

lemma ref_put (hb : NotPtrs s d g b) (x : Block) (m : BitVec 32) (p : Pos) :
    ref (s.put d b x) d g m p = ref s d g m p :=
  ref_congr (fun _ => .refl _) (fun l hl => Volume.blocks_put_of_ne (hb m l hl) x) p

lemma Owned.put (h : Owned s d g) (hb : b ≠ blockBitmapBlock) (hp : NotPtrs s d g b) (x : Block) :
    Owned (s.put d b x) d g :=
  h.congr (ref_put hp x) fun _ _ _ hr => (taken_put hb x).mpr (h.taken hr)

lemma Owned.inData_indirect (h : Owned s d g) (hr : ref s d g n .indirect = some l) : InData l := by
  rcases h.region hr with hd | ⟨-, -, hp⟩
  · exact hd
  · cases hp

lemma Owned.notPtrs_low (h : Owned s d g) (hb : b < dataBlockStart) : NotPtrs s d g b := by
  intro n l hl he
  have := (h.inData_indirect hl).1
  omega

lemma Owned.put_low (h : Owned s d g) (hb : b < dataBlockStart) (hb' : b ≠ blockBitmapBlock)
    (x : Block) : Owned (s.put d b x) d g := h.put hb' (h.notPtrs_low hb) x

lemma tableBlock_low (h : IsSlot n) : tableBlock n < dataBlockStart := by
  have := tableBlock_lt h
  simp only [dataBlockStart]
  omega

lemma tableBlock_ne_bitmap (n : BitVec 32) : tableBlock n ≠ blockBitmapBlock := by
  have := le_tableBlock n
  simp only [blockBitmapBlock]
  omega

lemma Owned.setInodeBits (h : Owned s d g) (v : Fin 32768 → Bool) :
    Owned (setInodeBits s d v) d g := h.put_low (by decide) (by decide) _

/-! ### Bits of blocks -/

lemma bitIdx_inj_of_region (h : InData l ∨ l = ofNat 32 rootDirBlock) (hm : InData m) :
    bitIdx l.toNat = bitIdx m.toNat ↔ l = m := by
  have hm' := hm.2
  have hl' : l.toNat < 32768 := by
    rcases h with h | rfl
    · exact h.2
    · decide
  rw [bitIdx_inj hl' hm', BitVec.toNat_inj]

lemma Owned.region' (h : Owned s d g) (hr : ref s d g n p = some l) :
    InData l ∨ l = ofNat 32 rootDirBlock := by
  rcases h.region hr with hd | ⟨hd, -⟩
  · exact .inl hd
  · exact .inr hd

def giveBack (s : Volume) (d : DeviceId) (ls : List (BitVec 32)) : Volume :=
  setBlockBits s d (markAll false ls (blockBits s d))

lemma taken_giveBack {ls : List (BitVec 32)} (hl : InData l ∨ l = ofNat 32 rootDirBlock) :
    Taken (giveBack s d ls) d l ↔ Taken s d l ∧ ¬(l ∈ ls ∧ InData l) := by
  rw [Taken, giveBack, blockBits_setBlockBits, markAll_apply]
  by_cases hex : ∃ m ∈ ls, InData m ∧ bitIdx m.toNat = bitIdx l.toNat
  · obtain ⟨m, hm, hd, he⟩ := hex
    have hlm : l = m := (bitIdx_inj_of_region hl hd).mp he.symm
    subst hlm
    rw [if_pos ⟨l, hm, hd, rfl⟩]
    simp [hm, hd]
  have hno : ¬(l ∈ ls ∧ InData l) := fun ⟨hm, hd⟩ => hex ⟨l, hm, hd, rfl⟩
  rw [if_neg hex, Taken]
  exact (and_iff_left hno).symm

def refsOf (s : Volume) (d : DeviceId) (g : Table) (n : BitVec 32) (l : BitVec 32) : Prop :=
  ∃ p, ref s d g n p = some l

lemma ref_giveBack (h : Owned s d g) (ls : List (BitVec 32)) (m : BitVec 32) (p : Pos) :
    ref (giveBack s d ls) d g m p = ref s d g m p :=
  ref_put (h.notPtrs_low (by decide)) _ m p

/-- **An inode gives back blocks of its own and drops all its references.** -/
lemma Owned.release (h : Owned s d g) {ls : List (BitVec 32)}
    (hls : ∀ l ∈ ls, InData l → refsOf s d g n l) (hi : NoPtrs i) :
    Owned (giveBack s d ls) d (update g n i) := by
  have hnone : ∀ s' p, ref s' d (update g n i) n p = none := fun s' p =>
    NoPtrs.ref_eq (by rwa [update_self]) p
  refine h.assign n (fun m p hm => ?_) (fun m p l hm hr => ?_) (fun p l hp => ?_) fun p q l hp => ?_
  · rw [← ref_giveBack h ls m p]
    exact ref_congr (fun _ => by rw [update_of_ne hm]; exact .refl _) (fun _ _ => rfl) p
  · rw [taken_giveBack (h.region' hr)]
    refine ⟨h.taken hr, fun ⟨hmem, hd⟩ => ?_⟩
    obtain ⟨q, hq⟩ := hls l hmem hd
    exact hm (h.unshared hr hq).1
  · rw [hnone] at hp
    cases hp
  rw [hnone] at hp
  cases hp

/-! ### Taking a block -/

variable {k : ℕ}

lemma toNat_ofNat_lba (hk : k < 32768) : (ofNat 32 k).toNat = k := by
  rw [BitVec.toNat_ofNat]
  omega

lemma freeLba_fresh (h : freeLba s d = some k) : Fresh s d (ofNat 32 k) := by
  obtain ⟨h22, hlt, hbit⟩ := freeLba_eq_some h
  refine ⟨⟨?_, ?_⟩, ?_⟩
  · rw [toNat_ofNat_lba hlt]
    exact h22
  · rw [toNat_ofNat_lba hlt]
    exact hlt
  rw [Taken, toNat_ofNat_lba hlt, hbit]
  decide

lemma taken_takeBlock (h : freeLba s d = some k) (hl : InData l ∨ l = ofNat 32 rootDirBlock) :
    Taken (takeBlock s d k) d l ↔ l = ofNat 32 k ∨ Taken s d l := by
  obtain ⟨h22, hlt, -⟩ := freeLba_eq_some h
  have hk : k ≠ blockBitmapBlock := by
    simp only [blockBitmapBlock]
    omega
  rw [takeBlock, taken_put hk, Taken, blockBits_setBlockBits]
  have hf := (freeLba_fresh h).1
  by_cases he : l = ofNat 32 k
  · subst he
    simp [toNat_ofNat_lba hlt]
  have hne : bitIdx l.toNat ≠ bitIdx k := by
    intro hb
    rw [← toNat_ofNat_lba hlt] at hb
    exact he ((bitIdx_inj_of_region hl hf).mp hb)
  simp [update_of_ne hne, he, Taken]

lemma Owned.notPtrs_of_not_taken (h : Owned s d g) (hl : ¬Taken s d l) : NotPtrs s d g l.toNat := by
  intro n m hm he
  have : m = l := BitVec.eq_of_toNat_eq he
  exact hl (this ▸ h.taken hm)

lemma blocks_takeBlock_of_ne (hb : b ≠ k) (hb' : b ≠ blockBitmapBlock) :
    (takeBlock s d k).blocks d b = s.blocks d b := by
  rw [takeBlock, Volume.blocks_put_of_ne hb, setBlockBits, Volume.blocks_put_of_ne hb']

lemma ref_takeBlock (h : Owned s d g) (hk : freeLba s d = some k) (m : BitVec 32)
    (p : Pos) : ref (takeBlock s d k) d g m p = ref s d g m p := by
  refine ref_congr (fun _ => .refl _) (fun l hl => blocks_takeBlock_of_ne ?_ ?_) p
  · have := h.notPtrs_of_not_taken (freeLba_fresh hk).2 m l hl
    rwa [toNat_ofNat_lba (freeLba_eq_some hk).2.1] at this
  · exact h.notPtrs_low (by decide) m l hl

lemma Owned.takeBlock (h : Owned s d g) (hk : freeLba s d = some k) : Owned (takeBlock s d k) d g :=
  h.congr (ref_takeBlock h hk) fun _ _ _ hr =>
    (taken_takeBlock hk (h.region' hr)).mpr (.inr (h.taken hr))

end ProjectZero.Fs.Owners
