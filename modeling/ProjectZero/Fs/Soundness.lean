import ProjectZero.Fs.Mapping

/-! # Sound volumes and what keeps them so

A volume is sound if no block has two owners, the journal holds nothing that a recovery would do to
the bitmaps, and every open file is on this device. It is tight if no block is lost: every data block
whose bit is set belongs to an allocated inode. Below are the changes that the operations are made of;
each keeps a volume sound, and tight under the condition `c` that goes with it. -/

namespace ProjectZero.Fs.Soundness

open Lib.Holding Fs.Types Store Inode Journal Inspect Replay Owners Truncate Lib.Update

/-- The journal is free, or it holds a committed rename, whose lists of blocks are empty. -/
def Idle (raw : Block) : Prop :=
  (format .journal raw).magic ≠ journalMagicV2 ∧
      (format .journal raw).state = JournalState.free.toU32 ∨
    (format .journalV2 raw).magic = journalMagicV2 ∧
      (format .journalV2 raw).state = JournalState.committed.toU32 ∧
      (format .journalV2 raw).isValidChecksum ∧
      (format .journalV2 raw).allocatedBlocksCount = 0 ∧
      (format .journalV2 raw).freedBlocksCount = 0

lemma idle_free {jrn : DiskJournalBlock} (hm : jrn.magic ≠ journalMagicV2)
    (hs : jrn.state = JournalState.free.toU32) : Idle ((format .journal).symm jrn) := by
  left
  rw [Equiv.apply_symm_apply]
  exact ⟨hm, hs⟩

lemma idle_cleared (seq : BitVec 64) : Idle ((format .journal).symm (cleared seq)) := by
  have hm : (cleared seq).magic = journalMagic := rfl
  have hs : (cleared seq).state = JournalState.free.toU32 := rfl
  have hne : (cleared seq).magic ≠ journalMagicV2 := by
    rw [hm]
    decide
  exact idle_free hne hs

lemma idle_committed {jrn : DiskJournalBlockV2} (hm : jrn.magic = journalMagicV2)
    (hs : jrn.state = JournalState.committed.toU32) (hv : jrn.isValidChecksum)
    (ha : jrn.allocatedBlocksCount = 0) (hf : jrn.freedBlocksCount = 0) :
    Idle ((format .journalV2).symm jrn) := by
  right
  rw [Equiv.apply_symm_apply]
  exact ⟨hm, hs, hv, ha, hf⟩

/-- The volume is sound, with `g` as the table of inodes. -/
structure SoundAt (d : DeviceId) (s : Volume) (g : Table) : Prop where
  owned : Owned s d g
  idle : Idle (s.blocks d journalBlock)
  here : ∀ i, (s.objects i).occupied → (s.objects i).deviceId = d

abbrev Sound (d : DeviceId) (s : Volume) : Prop := SoundAt d s (inodeAt s d)

def Allocated (s : Volume) (d : DeviceId) (n : BitVec 32) : Prop :=
  inodeBits s d (bitIdx n.toNat)

/-- No block is lost, and the root directory, whose block cannot be given back, has no other. -/
structure TightAt (d : DeviceId) (s : Volume) (g : Table) : Prop where
  used : Used (ref s d g) (Allocated s d) InData (Taken s d)
  plain : ∀ {p l}, ref s d g rootDirInode p = some l → ¬InData l

abbrev Tight (d : DeviceId) (s : Volume) : Prop := TightAt d s (inodeAt s d)

lemma TightAt.congr {d : DeviceId} {s s' : Volume} {g g' : Table} (h : TightAt d s g)
    (href : ∀ m p, ref s' d g' m p = ref s d g m p) (hlive : ∀ m, Allocated s d m → Allocated s' d m)
    (htaken : ∀ l, InData l → Taken s' d l → Taken s d l) : TightAt d s' g' where
  used := h.used.congr href hlive htaken
  plain hr := h.plain (by rwa [href] at hr)

/-- The volume is sound, and tight if it was and `c` holds. -/
structure KeepsAt (d : DeviceId) (c : Prop) (s : Volume) (g : Table) (s' : Volume) (g' : Table) :
    Prop where
  sound : SoundAt d s' g'
  tight : c → TightAt d s g → TightAt d s' g'

abbrev Keeps (d : DeviceId) (c : Prop) (s s' : Volume) : Prop :=
  KeepsAt d c s (inodeAt s d) s' (inodeAt s' d)

variable {d : DeviceId} {c : Prop} {s s' s'' : Volume} {g g' g'' : Table} {n m l : BitVec 32}
  {i j : DiskInode} {b k : ℕ}

lemma KeepsAt.refl (h : SoundAt d s g) : KeepsAt d c s g s g := ⟨h, fun _ ht => ht⟩

lemma KeepsAt.trans (h : KeepsAt d c s g s' g') (h' : KeepsAt d c s' g' s'' g'') :
    KeepsAt d c s g s'' g'' := ⟨h'.sound, fun hc ht => h'.tight hc (h.tight hc ht)⟩

lemma KeepsAt.table (h : KeepsAt d c s g s' g') (hp : ∀ m, IsSlot m → SamePtrs (g'' m) (g' m)) :
    KeepsAt d c s g s' g'' where
  sound := ⟨h.sound.owned.table hp, h.sound.idle, h.sound.here⟩
  tight hc ht := (h.tight hc ht).congr (fun m p => ref_congr (hp m) (fun _ _ => rfl) p)
    (fun _ => id) fun _ _ => id

/-! ### Objects and blocks -/

lemma keepsAt_objects (h : SoundAt d s g) {t : Objects}
    (ht : ∀ i, (t i).occupied → (t i).deviceId = d) : KeepsAt d c s g { s with objects := t } g :=
  ⟨⟨h.owned.congr (fun _ _ => rfl) fun _ _ _ hr => h.owned.taken hr, h.idle, ht⟩,
    fun _ htight => htight.congr (fun _ _ => rfl) (fun _ => id) fun _ _ => id⟩

lemma keepsAt_put (h : SoundAt d s g) (hj : b ≠ journalBlock) (hi : b ≠ inodeBitmapBlock)
    (hb : b ≠ blockBitmapBlock) (hp : NotPtrs s d g b) (x : Block) :
    KeepsAt d c s g (s.put d b x) g where
  sound := ⟨h.owned.put hb hp x, by rw [Volume.blocks_put_of_ne hj.symm]; exact h.idle, h.here⟩
  tight _ ht := ht.congr (ref_put hp x)
    (fun m hm => by rw [Allocated, inodeBits_put_of_ne hi]; exact hm)
    fun _ _ hr => (taken_put hb x).mp hr

lemma inodeAt_put (hb : b < inodeTableStart ∨ rootDirBlock ≤ b) (x : Block) (hm : IsSlot m) :
    inodeAt (s.put d b x) d m = inodeAt s d m := by
  refine inodeAt_put_of_ne ?_ x
  have h1 := le_tableBlock m
  have h2 := tableBlock_lt hm
  simp only [inodeTableStart, rootDirBlock] at hb
  omega

lemma keeps_put (h : Sound d s) (hb : rootDirBlock ≤ b) (hp : NotPtrs s d (inodeAt s d) b)
    (x : Block) : Keeps d c s (s.put d b x) := by
  have hlow : ∀ a < rootDirBlock, b ≠ a := fun a ha => by omega
  refine (keepsAt_put h (hlow _ (by decide)) (hlow _ (by decide)) (hlow _ (by decide)) hp
    x).table fun m hm => ?_
  rw [inodeAt_put (.inr hb) x hm]
  exact .refl _

lemma keeps_superblock (h : Sound d s) (x : Block) : Keeps d c s (s.put d superblockBlock x) := by
  refine (keepsAt_put h (by decide) (by decide) (by decide) (h.owned.notPtrs_low (by decide))
    x).table fun m hm => ?_
  rw [inodeAt_put (.inl (by decide)) x hm]
  exact .refl _

lemma keepsAt_journal (h : SoundAt d s g) {x : Block} (hx : Idle x) :
    KeepsAt d c s g (s.put d journalBlock x) g where
  sound := ⟨h.owned.put_low (by decide) (by decide) x, by rw [Volume.blocks_put_self]; exact hx,
    h.here⟩
  tight _ ht := by
    refine ht.congr (ref_put (h.owned.notPtrs_low (by decide)) x) (fun m hm => ?_)
      fun r _ hr => (taken_put (by decide) x).mp hr
    rw [Allocated, inodeBits_put_of_ne (by decide)]
    exact hm

lemma keeps_journal (h : Sound d s) {x : Block} (hx : Idle x) :
    Keeps d c s (s.put d journalBlock x) := by
  refine (keepsAt_journal h hx).table fun m hm => ?_
  rw [inodeAt_put (.inl (by decide)) x hm]
  exact .refl _

/-! ### Inodes -/

lemma tableBlock_ne (n : BitVec 32) (hb : b < inodeTableStart) : tableBlock n ≠ b := by
  have := le_tableBlock n
  simp only [inodeTableStart] at hb
  omega

/-- The table of the volume may run ahead of `g`, or behind it. -/
lemma keepsAt_setInode (h : SoundAt d s g) (hn : IsSlot n) (i : DiskInode) :
    KeepsAt d c s g (setInode s d n i) g :=
  keepsAt_put h (tableBlock_ne n (by decide)) (tableBlock_ne n (by decide))
    (tableBlock_ne n (by decide)) (h.owned.notPtrs_low (tableBlock_low hn)) _

lemma samePtrs_update {f : BitVec 32 → DiskInode} (h : SamePtrs i j) (m : BitVec 32) :
    SamePtrs (update f n i m) (update f n j m) :=
  update_all₂ (P := fun _ => SamePtrs) h (fun _ _ => .refl _) m

/-- **The inode that `g` is ahead by is written.** -/
lemma keepsAt_install (h : SoundAt d s (update (inodeAt s d) n j)) (hn : IsSlot n)
    (hi : SamePtrs i j) :
    KeepsAt d c s (update (inodeAt s d) n j) (setInode s d n i) (inodeAt (setInode s d n i) d) := by
  refine (keepsAt_setInode h hn i).table fun m _ => ?_
  rw [inodeAt_setInode]
  exact samePtrs_update hi m

lemma keeps_setInode (h : Sound d s) (hn : IsSlot n) (hi : SamePtrs i (inodeAt s d n)) :
    Keeps d c s (setInode s d n i) := by
  have h' : SoundAt d s (update (inodeAt s d) n (inodeAt s d n)) := by
    rwa [update_eq_self]
  have hk := keepsAt_install (c := c) h' hn hi
  rwa [update_eq_self] at hk

lemma bitIdx_slot_inj (hn : IsSlot n) (hm : IsSlot m) :
    bitIdx n.toNat = bitIdx m.toNat ↔ n = m := by
  have h1 := hn.2
  have h2 := hm.2
  simp only [maxInodes] at h1 h2
  rw [bitIdx_inj (by omega) (by omega), BitVec.toNat_inj]

lemma allocated_update (v : Bool) (hn : IsSlot n) (hm : IsSlot m) (hne : m ≠ n) :
    Allocated (setInodeBits s d (update (inodeBits s d) (bitIdx n.toNat) v)) d m ↔
      Allocated s d m := by
  rw [Allocated, inodeBits_setInodeBits, update_of_ne, Allocated]
  exact fun h => hne ((bitIdx_slot_inj hm hn).mp h)

lemma isSlot_of_ref {p : Pos} (h : ref s d g n p = some l) : IsSlot n := (ref_eq_some.mp h).1

/-- The volume with the bit of an inode changed and another inode in its place. -/
def withInode (s : Volume) (d : DeviceId) (n : BitVec 32) (v : Bool) (i : DiskInode) : Volume :=
  setInode (setInodeBits s d (update (inodeBits s d) (bitIdx n.toNat) v)) d n i

lemma inodeAt_withInode (v : Bool) :
    inodeAt (withInode s d n v i) d m = update (inodeAt s d) n i m := by
  rw [withInode, inodeAt_setInode]
  by_cases hm : m = n
  · subst hm
    rw [update_self, update_self]
  · rw [update_of_ne hm, update_of_ne hm, inodeAt_setInodeBits]

lemma taken_withInode (v : Bool) : Taken (withInode s d n v i) d l ↔ Taken s d l := by
  rw [Taken, withInode, blockBits_setInode, blockBits_setInodeBits, Taken]

section

variable (h : Sound d s) (hn : IsSlot n)

include h hn

/-- **An inode drops all its references**, and the listed blocks are given back. No block is lost if
the blocks given back are the data blocks it has. -/
lemma keeps_release {ls : List (BitVec 32)} (v : Bool)
    (hls : ∀ l ∈ ls, InData l → refsOf s d (inodeAt s d) n l) (hi : NoPtrs i)
    (hc : c → Tight d s → Allocated s d n → ∀ l, InData l → refsOf s d (inodeAt s d) n l → l ∈ ls) :
    Keeps d c s (withInode (giveBack s d ls) d n v i) := by
  have hg := h.owned.release hls hi
  have href : ∀ m p, ref (withInode (giveBack s d ls) d n v i) d
      (inodeAt (withInode (giveBack s d ls) d n v i) d) m p =
        ref (giveBack s d ls) d (update (inodeAt s d) n i) m p := by
    intro m p
    have hlow := hg.setInodeBits (update (inodeBits (giveBack s d ls) d) (bitIdx n.toNat) v)
    calc ref (withInode (giveBack s d ls) d n v i) d
          (inodeAt (withInode (giveBack s d ls) d n v i) d) m p
        = ref (withInode (giveBack s d ls) d n v i) d (update (inodeAt s d) n i) m p := by
          refine ref_congr (fun _ => ?_) (fun _ _ => rfl) p
          rw [inodeAt_withInode, show inodeAt (giveBack s d ls) d = inodeAt s d from
            funext fun _ => inodeAt_setBlockBits]
          exact .refl _
      _ = ref (setInodeBits (giveBack s d ls) d _) d (update (inodeAt s d) n i) m p :=
          ref_put (hlow.notPtrs_low (tableBlock_low hn)) _ m p
      _ = ref (giveBack s d ls) d (update (inodeAt s d) n i) m p :=
          ref_put (hg.notPtrs_low (b := inodeBitmapBlock) (by decide)) _ m p
  constructor
  · refine ⟨hg.congr href fun m p l hr => (taken_withInode v).mpr (hg.taken hr), ?_, h.here⟩
    have hb : (withInode (giveBack s d ls) d n v i).blocks d journalBlock =
        s.blocks d journalBlock := by
      rw [withInode, blocks_setInode_of_ne (tableBlock_ne n (by decide)).symm, setInodeBits,
        Volume.blocks_put_of_ne (by decide), giveBack, setBlockBits,
        Volume.blocks_put_of_ne (by decide)]
    rw [hb]
    exact h.idle
  intro hc' ht
  have hother : ∀ {m}, m ≠ n → ∀ p, ref (giveBack s d ls) d (update (inodeAt s d) n i) m p =
      ref s d (inodeAt s d) m p := by
    intro m hmn p
    refine ref_congr (fun _ => ?_) (fun x hx => ?_) p
    · rw [update_of_ne hmn]
      exact .refl _
    · rw [giveBack, setBlockBits, Volume.blocks_put_of_ne (h.owned.notPtrs_low (by decide) m x hx)]
  refine ⟨fun l hd htaken => ?_, fun {p l} hr => ?_⟩
  · rw [taken_withInode, taken_giveBack (.inl hd)] at htaken
    obtain ⟨m, p, hm, hr⟩ := ht.used l hd htaken.1
    have hmn : m ≠ n := by
      rintro rfl
      exact htaken.2 ⟨hc hc' ht hm l hd ⟨p, hr⟩, hd⟩
    refine ⟨m, p, ?_, by rw [href, hother hmn, hr]⟩
    have := (allocated_update (s := giveBack s d ls) (d := d) v hn (isSlot_of_ref hr) hmn).mpr
      (by rwa [Allocated, giveBack, inodeBits_setBlockBits])
    rwa [Allocated, withInode, inodeBits_setInode]
  rw [href] at hr
  by_cases hroot : rootDirInode = n
  · subst hroot
    rw [NoPtrs.ref_eq (by rwa [update_self])] at hr
    cases hr
  rw [hother hroot] at hr
  exact ht.plain hr

lemma keeps_withInode (v : Bool) (hi : NoPtrs i)
    (hc : c → Tight d s → Allocated s d n → ∀ l, InData l → ¬refsOf s d (inodeAt s d) n l) :
    Keeps d c s (withInode s d n v i) := by
  have := keeps_release (c := c) h hn v (show ∀ l ∈ ([] : List (BitVec 32)), _ from nofun) hi
    fun hc' ht hn' l hd hr => absurd hr (hc hc' ht hn' l hd)
  rwa [giveBack_nil] at this

lemma keeps_cut {ls : List (BitVec 32)}
    (hls : ∀ l ∈ ls, InData l → refsOf s d (inodeAt s d) n l) (hi : NoPtrs i)
    (hc : ∀ l, InData l → refsOf s d (inodeAt s d) n l → l ∈ ls) :
    Keeps d c s (setInode (giveBack s d ls) d n i) := by
  have := keeps_release (c := c) h hn (inodeBits s d (bitIdx n.toNat)) hls hi fun _ _ _ => hc
  rwa [withInode, show inodeBits (giveBack s d ls) d = inodeBits s d from inodeBits_setBlockBits,
    update_eq_self, show inodeBits s d = inodeBits (giveBack s d ls) d from
      inodeBits_setBlockBits.symm, setInodeBits_self] at this

end

end ProjectZero.Fs.Soundness
