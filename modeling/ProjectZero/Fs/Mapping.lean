import ProjectZero.Fs.Truncate

/-! # Finding a block for a part of a file

The four ways in which `bmap_alloc` ends well, and what they have in common: the place asked for has a
block afterwards, which it had before or which was free; in the indirect range the indirect block is
another one than before, one that was free; all other places are as they were. -/

namespace ProjectZero.Fs.Mapping

open Lib.Program Fs.Types Store Inode Journal Inspect Owners Truncate
open BitVec (ofNat)

variable {s s' : Volume} {d : DeviceId} {g : Table} {n l m : BitVec 32} {tx tx' : Tx} {idx k k' : ℕ}

/-! ### Postconditions on volumes -/

section Rules

variable {α β : Type} {E : FsError → Volume → Prop} {Q : β → Volume → Prop}

lemma epost_bind {p : FsM α} {f : α → FsM β} {a : α}
    (hp : exec volume p s = (some (.ok a), s')) (hf : EPost volume (f a) s' E Q) :
    EPost volume (p >>= f) s E Q :=
  fun r t hr => hf r t ((exec_bind_ok hp).symm.trans hr)

lemma epost_attempt {p : FsM α} {P : α → Volume → Prop} {F : FsError → Volume → Prop}
    (hp : EPost volume p s F P) :
    EPost volume (attempt p) s E fun r s' =>
      match r with
      | .ok a => P a s'
      | .error e => F e s' := by
  refine Post.bind (p := p.run) hp fun r s' hr => ?_
  cases r <;> exact .pure hr

lemma epost_addChecked {w : ℕ} (a b : BitVec w) :
    EPost volume (addChecked a b) s E fun c s' => c = a + b ∧ s' = s :=
  EPost.ite (fun _ => .pure ⟨rfl, rfl⟩) fun _ => .halt

end Rules

lemma epost_allocBlock : EPost volume (allocBlock d) s (fun _ s' => s' = s)
    fun l s' => ∃ k, freeLba s d = some k ∧ l = ofNat 32 k ∧ s' = takeBlock s d k := by
  cases hk : freeLba s d with
  | none => exact .of_run (exec_allocBlock_none hk) rfl
  | some k => exact .of_run (exec_allocBlock_some hk) ⟨k, rfl, rfl, rfl⟩

/-! ### The ways of `bmap_alloc` -/

/-- The transaction with a direct block. -/
def Tx.withDirect (tx : Tx) (i : Fin 18) (l : BitVec 32) : Tx :=
  { tx with
    inode := { tx.inode with
      directBlocks := update tx.inode.directBlocks i l
      blocksCount := tx.inode.blocksCount + 1 }
    allocated := record tx.allocated l }

/-- The volume with a block of pointers. -/
def withPtrs (s : Volume) (d : DeviceId) (l : BitVec 32) (ptrs : Fin 1024 → BitVec 32) : Volume :=
  s.put d l.toNat ((format .ptrs).symm ptrs)

inductive Maps (d : DeviceId) (s : Volume) (tx : Tx) : ℕ → BitVec 32 → Tx → Volume → Prop
  | kept {idx : ℕ} (h : idx < 18) (h0 : tx.inode.directBlocks ⟨idx, h⟩ ≠ 0) :
    Maps d s tx idx (tx.inode.directBlocks ⟨idx, h⟩) tx s
  | direct {idx k : ℕ} (h : idx < 18) (h0 : tx.inode.directBlocks ⟨idx, h⟩ = 0)
      (hk : freeLba s d = some k) :
    Maps d s tx idx (ofNat 32 k) (Tx.withDirect tx ⟨idx, h⟩ (ofNat 32 k))
      (takeBlock s d k)
  | first {k k' : ℕ} (slot : Fin 1024) (h0 : tx.inode.indirectBlock = 0)
      (hk : freeLba s d = some k) (hk' : freeLba (takeBlock s d k) d = some k') :
    Maps d s tx (18 + slot) (ofNat 32 k)
      { tx with
        inode := { tx.inode with
          indirectBlock := ofNat 32 k'
          blocksCount := tx.inode.blocksCount + 2 }
        allocated := record (record tx.allocated (ofNat 32 k)) (ofNat 32 k') }
      (withPtrs (takeBlock (takeBlock s d k) d k') d (ofNat 32 k')
        (update (fun _ => 0) slot (ofNat 32 k)))
  | copy {k k' : ℕ} (slot : Fin 1024) (h0 : tx.inode.indirectBlock ≠ 0)
      (hk : freeLba s d = some k) (hk' : freeLba (takeBlock s d k) d = some k') :
    Maps d s tx (18 + slot) (ofNat 32 k)
      { inode := { tx.inode with
          indirectBlock := ofNat 32 k'
          blocksCount := tx.inode.blocksCount + 1 }
        allocated := record (record tx.allocated (ofNat 32 k)) (ofNat 32 k')
        freed := record tx.freed tx.inode.indirectBlock }
      (withPtrs (takeBlock (takeBlock s d k) d k') d (ofNat 32 k')
        (update ((takeBlock (takeBlock s d k) d k').get d .ptrs
          tx.inode.indirectBlock.toNat) slot (ofNat 32 k)))

/-- The volume as it was, or, in the indirect range, with a block taken that nobody uses. -/
def AsWas (d : DeviceId) (idx : ℕ) (s s' : Volume) : Prop :=
  s' = s ∨ 18 ≤ idx ∧ ∃ k, freeLba s d = some k ∧ s' = takeBlock s d k

/-- **The ways of `bmap_alloc`.** -/
lemma bmapAlloc_maps (tx : Tx) (idx : ℕ) : EPost volume (bmapAlloc d tx idx) s
    (fun _ s' => AsWas d idx s s') fun r s' => Maps d s tx idx r.1 r.2 s' := by
  unfold bmapAlloc
  split
  next h =>
    refine .ite (fun h0 => .pure (.kept h h0)) fun h0 => ?_
    refine .bind (epost_allocBlock.mono (fun _ _ => .inl) fun _ _ => id) ?_
    rintro _ _ ⟨k, hk, rfl, rfl⟩
    refine (epost_addChecked _ _).bind ?_
    rintro _ _ ⟨rfl, rfl⟩
    exact .pure (.direct h (not_not.mp h0) hk)
  split
  next h =>
    obtain ⟨slot, rfl⟩ : ∃ slot : Fin 1024, idx = 18 + slot := by
      refine ⟨⟨idx - 18, by omega⟩, ?_⟩
      simp only
      omega
    have hslot : (⟨18 + slot.val - 18, by omega⟩ : Fin 1024) = slot := Fin.ext (by simp)
    refine .bind (epost_allocBlock.mono (fun _ _ => .inl) fun _ _ => id) ?_
    rintro _ _ ⟨k, hk, rfl, rfl⟩
    -- from here on an error leaves the first block taken
    have hsecond := (epost_allocBlock (s := takeBlock s d k) (d := d)).mono
      (E := fun _ s' => AsWas d (18 + slot) s s')
      (fun _ _ h => .inr ⟨Nat.le_add_right _ _, k, hk, h⟩) fun _ _ => id
    refine .ite (fun h0 => hsecond.bind ?_) fun h0 => hsecond.bind ?_
    · rintro _ _ ⟨k', hk', rfl, rfl⟩
      refine epost_bind (exec_writeBlock _ _ _ _) ?_
      refine (epost_addChecked _ _).bind ?_
      rintro _ _ ⟨rfl, rfl⟩
      rw [hslot]
      exact .pure (.first slot h0 hk hk')
    rintro _ _ ⟨k', hk', rfl, rfl⟩
    refine epost_bind (exec_readBlock _ _ _) (epost_bind (exec_writeBlock _ _ _ _) ?_)
    refine (epost_addChecked _ _).bind ?_
    rintro _ _ ⟨rfl, rfl⟩
    rw [hslot]
    exact .pure (.copy slot h0 hk hk')
  · exact .throw (.inl rfl)

/-! ### What they have in common -/

def posOf (idx : ℕ) : Pos :=
  if h : idx < 18 then .direct ⟨idx, h⟩ else .slot (Fin.ofNat 1024 (idx - 18))

lemma posOf_direct (h : idx < 18) : posOf idx = .direct ⟨idx, h⟩ := dif_pos h

lemma posOf_slot (slot : Fin 1024) : posOf (18 + slot) = .slot slot := by
  rw [posOf, dif_neg (by omega)]
  congr 1
  exact Fin.ext (by simp)

lemma posOf_ne_indirect (idx : ℕ) : posOf idx ≠ .indirect := by
  unfold posOf
  split <;> simp

/-- Blocks other than the bitmap and those that are free in `s` are the same. -/
def SameUsed (d : DeviceId) (s s' : Volume) : Prop :=
  ∀ b, b ≠ blockBitmapBlock → (∀ l, Fresh s d l → l.toNat ≠ b) → s'.blocks d b = s.blocks d b

/-- The place for block `idx` of the file has block `l`. -/
structure Moved (d : DeviceId) (s : Volume) (tx : Tx) (idx : ℕ) (l : BitVec 32) (tx' : Tx)
    (s' : Volume) : Prop where
  here : lbaAt s' d tx'.inode (posOf idx) = l
  ne_zero : l ≠ 0
  old_or_fresh : lbaAt s d tx.inode (posOf idx) = l ∧ s' = s ∨
    Fresh s d l ∧ s'.blocks d l.toNat = zeroBlock
  others : ∀ p ≠ posOf idx, p ≠ .indirect → lbaAt s' d tx'.inode p = lbaAt s d tx.inode p
  indirect : tx'.inode.indirectBlock = tx.inode.indirectBlock ∨
    Fresh s d tx'.inode.indirectBlock ∧ tx'.inode.indirectBlock ≠ l
  taken : ∀ {m}, InData m ∨ m = ofNat 32 rootDirBlock →
    (Taken s' d m ↔ Taken s d m ∨ m = l ∨ m = tx'.inode.indirectBlock)
  frame : SameUsed d s s'
  objects : s'.objects = s.objects
  recount : Recount tx.inode tx'.inode
  -- without a copy of the indirect block no reference is given up
  nothing_lost : tx'.freed = [] → tx.freed = [] ∧
    ∀ p, lbaAt s d tx.inode p ≠ 0 → lbaAt s' d tx'.inode p = lbaAt s d tx.inode p

lemma record_ne_nil (ls : List (BitVec 32)) (l : BitVec 32) : record ls l ≠ [] := by
  unfold record
  split
  · simp
  rintro rfl
  simp at *

lemma ne_zero_of_inData (h : InData l) : l ≠ 0 := by
  rintro rfl
  have := h.1
  simp [dataBlockStart] at this

lemma sameUsed_takeBlock (hk : freeLba s d = some k) : SameUsed d s (takeBlock s d k) := by
  intro b hb hf
  refine blocks_takeBlock_of_ne ?_ hb
  rintro rfl
  have := hf _ (freeLba_fresh hk)
  rw [toNat_ofNat_lba (freeLba_eq_some hk).2.1] at this
  exact this rfl

lemma fresh_of_takeBlock (hk : freeLba s d = some k) (h : Fresh (takeBlock s d k) d l) :
    Fresh s d l ∧ l ≠ ofNat 32 k := by
  have ht := h.2
  rw [taken_takeBlock hk (.inl h.1), not_or] at ht
  exact ⟨⟨h.1, ht.2⟩, ht.1⟩

lemma blocks_withPtrs_of_ne {b : ℕ} (hb : b ≠ l.toNat) (ptrs : Fin 1024 → BitVec 32) :
    (withPtrs s d l ptrs).blocks d b = s.blocks d b := Volume.blocks_put_of_ne hb _

section TwoBlocks

variable (hk : freeLba s d = some k) (hk' : freeLba (takeBlock s d k) d = some k')

include hk hk'

lemma sameUsed_twoBlocks (ptrs : Fin 1024 → BitVec 32) :
    SameUsed d s (withPtrs (takeBlock (takeBlock s d k) d k') d (ofNat 32 k') ptrs) := by
  intro b hb hf
  have hf' := (fresh_of_takeBlock hk (freeLba_fresh hk')).1
  rw [blocks_withPtrs_of_ne fun h => hf _ hf' h.symm,
    sameUsed_takeBlock hk' b hb fun l hl => hf l (fresh_of_takeBlock hk hl).1,
    sameUsed_takeBlock hk b hb hf]

lemma taken_twoBlocks (ptrs : Fin 1024 → BitVec 32) (hm : InData m ∨ m = ofNat 32 rootDirBlock) :
    Taken (withPtrs (takeBlock (takeBlock s d k) d k') d (ofNat 32 k') ptrs) d m ↔
      Taken s d m ∨ m = ofNat 32 k ∨ m = ofNat 32 k' := by
  have hne : (ofNat 32 k').toNat ≠ blockBitmapBlock := by
    have := (freeLba_fresh hk').1.1
    simp only [dataBlockStart, blockBitmapBlock] at this ⊢
    omega
  rw [withPtrs, taken_put hne, taken_takeBlock hk' hm, taken_takeBlock hk hm]
  tauto

/-- **A new indirect block**, with the pointers there were and one more. -/
lemma moved_twoBlocks (slot : Fin 1024) {ptrs : Fin 1024 → BitVec 32}
    (hptrs : ∀ j, ptrs j = lbaAt s d tx.inode (.slot j))
    (hi : tx'.inode.indirectBlock = ofNat 32 k')
    (hd : tx'.inode.directBlocks = tx.inode.directBlocks) (hr : Recount tx.inode tx'.inode)
    (hlost : tx'.freed = [] → tx.freed = [] ∧ tx.inode.indirectBlock = 0) :
    Moved d s tx (18 + slot) (ofNat 32 k) tx'
      (withPtrs (takeBlock (takeBlock s d k) d k') d (ofNat 32 k')
        (update ptrs slot (ofNat 32 k))) := by
  have hf := freeLba_fresh hk
  obtain ⟨hf', hne⟩ := fresh_of_takeBlock hk (freeLba_fresh hk')
  have hslot : ∀ j, lbaAt (withPtrs (takeBlock (takeBlock s d k) d k') d (ofNat 32 k')
      (update ptrs slot (ofNat 32 k))) d tx'.inode (.slot j) = update ptrs slot (ofNat 32 k) j := by
    intro j
    rw [lbaAt, hi, if_neg (ne_zero_of_inData hf'.1), withPtrs, Volume.get_put_self]
  refine ⟨?_, ne_zero_of_inData hf.1, .inr ⟨hf, ?_⟩, ?_, .inr ⟨hi ▸ hf', hi ▸ hne⟩, ?_,
    sameUsed_twoBlocks hk hk' _, rfl, hr, fun h => ⟨(hlost h).1, ?_⟩⟩
  · rw [posOf_slot, hslot, update_self]
  · have hkk : k ≠ k' := by
      rintro rfl
      exact hne rfl
    have hlt := (freeLba_eq_some hk).2.1
    have hb : k ≠ blockBitmapBlock := by
      have := (freeLba_eq_some hk).1
      simp only [blockBitmapBlock]
      omega
    rw [toNat_ofNat_lba hlt, blocks_withPtrs_of_ne, blocks_takeBlock_of_ne hkk hb, takeBlock,
      Volume.blocks_put_self]
    rw [toNat_ofNat_lba (freeLba_eq_some hk').2.1]
    exact hkk
  · intro p hp hp'
    cases p with
    | direct i => exact congrFun hd i
    | indirect => exact absurd rfl hp'
    | slot j =>
      rw [posOf_slot] at hp
      have hj : j ≠ slot := by
        rintro rfl
        exact hp rfl
      rw [hslot, update_of_ne hj, hptrs]
  · intro m hm
    rw [taken_twoBlocks hk hk' _ hm, hi]
  have h0 := (hlost h).2
  intro p hp
  cases p with
  | direct i => exact congrFun hd i
  | indirect => exact absurd h0 hp
  | slot j => exact absurd (by rw [lbaAt, if_pos h0]) hp

end TwoBlocks

/-- **What the ways of `bmap_alloc` have in common**, for an inode of a sound table. -/
lemma Maps.moved (h : Maps d s tx idx l tx' s') (ho : Owned s d g) (hn : IsSlot n)
    (hg : SamePtrs tx.inode (g n)) : Moved d s tx idx l tx' s' := by
  have href : ∀ {p m}, lbaAt s d tx.inode p = m → m ≠ 0 → ref s d g n p = some m := by
    intro p m hm h0
    rw [lbaAt_congr hg (fun _ => rfl)] at hm
    exact ref_eq_some.mpr ⟨hn, hm, h0⟩
  -- the indirect block there was is taken, or there is none
  have hind : ∀ {m}, InData m ∨ m = ofNat 32 rootDirBlock → m = tx.inode.indirectBlock →
      Taken s d m := by
    rintro m hm rfl
    refine ho.taken (href (p := .indirect) rfl ?_)
    rcases hm with hm | hm
    · exact ne_zero_of_inData hm
    rw [hm]
    decide
  cases h with
  | kept h h0 =>
    refine ⟨by rw [posOf_direct h]; rfl, h0, .inl ⟨by rw [posOf_direct h]; rfl, rfl⟩,
      fun _ _ _ => rfl, .inl rfl, fun hm => ⟨.inl, ?_⟩, fun _ _ _ => rfl, rfl, .refl _,
      fun hf => ⟨hf, fun _ _ => rfl⟩⟩
    rintro (ht | rfl | hi)
    · exact ht
    · exact ho.taken (href (p := .direct ⟨idx, h⟩) rfl h0)
    · exact hind hm hi
  | @direct _ k h h0 hk =>
    have hf := freeLba_fresh hk
    have hlba : ∀ p, p ≠ posOf idx →
        lbaAt (takeBlock s d k) d (Tx.withDirect tx ⟨idx, h⟩ (ofNat 32 k)).inode p =
          lbaAt s d tx.inode p := by
      intro p hp
      rw [posOf_direct h] at hp
      cases p with
      | direct i =>
        have hi : i ≠ ⟨idx, h⟩ := by
          rintro rfl
          exact hp rfl
        exact update_of_ne hi _ _
      | indirect => rfl
      | slot j =>
        refine lbaAt_congr (i := tx.inode) (.refl _) (fun hi0 => ?_) (.slot j)
        have hr := href (p := .indirect) rfl hi0
        refine blocks_takeBlock_of_ne ?_ (ho.notPtrs_low (by decide) _ _ hr)
        have := ho.notPtrs_of_not_taken hf.2 _ _ hr
        rwa [toNat_ofNat_lba (freeLba_eq_some hk).2.1] at this
    refine ⟨?_, ne_zero_of_inData hf.1, .inr ⟨hf, ?_⟩, fun p hp _ => hlba p hp, .inl rfl, ?_,
      sameUsed_takeBlock hk, rfl, ⟨_, _, _, rfl⟩, fun hf => ⟨hf, fun p hp => hlba p ?_⟩⟩
    · rw [posOf_direct h]
      exact update_self _ _ _
    · rw [toNat_ofNat_lba (freeLba_eq_some hk).2.1, takeBlock, Volume.blocks_put_self]
    · intro m hm
      rw [taken_takeBlock hk hm]
      constructor
      · rintro (he | ht)
        · exact .inr (.inl he)
        · exact .inl ht
      rintro (ht | he | hi)
      · exact .inr ht
      · exact .inl he
      · exact .inr (hind hm hi)
    rintro rfl
    rw [posOf_direct h] at hp
    exact hp h0
  | first slot h0 hk hk' =>
    exact moved_twoBlocks hk hk' slot (fun j => by rw [lbaAt, if_pos h0]) rfl rfl ⟨_, _, _, rfl⟩
      fun hf => ⟨hf, h0⟩
  | copy slot h0 hk hk' =>
    refine moved_twoBlocks hk hk' slot (fun j => ?_) rfl rfl ⟨_, _, _, rfl⟩
      fun hf => absurd hf (record_ne_nil _ _)
    have hr := href (p := .indirect) rfl h0
    have hb : ∀ k, Fresh s d (ofNat 32 k) → k < 32768 → tx.inode.indirectBlock.toNat ≠ k := by
      intro k hf hlt
      have := ho.notPtrs_of_not_taken hf.2 _ _ hr
      rwa [toNat_ofNat_lba hlt] at this
    have h4 := ho.notPtrs_low (b := blockBitmapBlock) (by decide) _ _ hr
    rw [lbaAt, if_neg h0, Volume.get, Volume.get,
      blocks_takeBlock_of_ne (hb _ (fresh_of_takeBlock hk (freeLba_fresh hk')).1
        (freeLba_eq_some hk').2.1) h4,
      blocks_takeBlock_of_ne (hb _ (freeLba_fresh hk) (freeLba_eq_some hk).2.1) h4]

/-! ### Sound tables -/

section

variable (h : Moved d s tx idx l tx' s') (ho : Owned s d g)

include h ho

lemma Moved.slots (m : BitVec 32) (p : Pos) : ref s' d g m p = ref s d g m p := by
  refine ref_congr (fun _ => .refl _) (fun x hx => h.frame _ ?_ fun y hy => ?_) p
  · exact ho.notPtrs_low (by decide) m x hx
  · exact fun he => ho.notPtrs_of_not_taken hy.2 m x hx he.symm

lemma Moved.owned_old : Owned s' d g :=
  ho.congr (h.slots ho) fun _ _ _ hr => (h.taken (ho.region' hr)).mpr (.inl (ho.taken hr))

/-- **The table with the inode of the transaction** is sound as well. -/
lemma Moved.owned_new (hg : SamePtrs tx.inode (g n)) : Owned s' d (update g n tx'.inode) := by
  have hold : ∀ {p m}, IsSlot n → lbaAt s d tx.inode p = m → m ≠ 0 → ref s d g n p = some m := by
    intro p m hn hm h0
    rw [lbaAt_congr hg (fun _ => rfl)] at hm
    exact ref_eq_some.mpr ⟨hn, hm, h0⟩
  refine ho.assign n (fun m p hm => ?_) (fun m p x _ hr => ?_) (fun p x hx => ?_)
    fun p q x hp hq hf => ?_
  · rw [← h.slots ho m p]
    exact ref_congr (fun _ => by rw [update_of_ne hm]; exact .refl _) (fun _ _ => rfl) p
  · exact (h.taken (ho.region' hr)).mpr (.inl (ho.taken hr))
  · obtain ⟨hn, hx, h0⟩ := ref_eq_some.mp hx
    rw [update_self] at hx
    by_cases hp : p = posOf idx
    · subst hp
      have hxl : x = l := hx.symm.trans h.here
      subst hxl
      rcases h.old_or_fresh with ⟨hl, -⟩ | ⟨hf, -⟩
      · have hr := hold hn hl h0
        exact ⟨(h.taken (ho.region' hr)).mpr (.inr (.inl rfl)), .inl hr⟩
      · exact ⟨(h.taken (.inl hf.1)).mpr (.inr (.inl rfl)), .inr hf⟩
    by_cases hpi : p = .indirect
    · subst hpi
      have hxi : tx'.inode.indirectBlock = x := hx
      rcases h.indirect with hi | ⟨hf, -⟩
      · have hr := hold (p := .indirect) hn (hi.symm.trans hxi) h0
        exact ⟨(h.taken (ho.region' hr)).mpr (.inl (ho.taken hr)), .inl hr⟩
      rw [hxi] at hf
      exact ⟨(h.taken (.inl hf.1)).mpr (.inr (.inr hxi.symm)), .inr hf⟩
    rw [h.others p hp hpi] at hx
    have hr := hold hn hx h0
    exact ⟨(h.taken (ho.region' hr)).mpr (.inl (ho.taken hr)), .inl hr⟩
  -- two places with the same block that was free: both are the new place or the indirect one
  obtain ⟨hn, hpx, h0⟩ := ref_eq_some.mp hp
  obtain ⟨-, hqx, -⟩ := ref_eq_some.mp hq
  rw [update_self] at hpx hqx
  have hplace : ∀ {p}, lbaAt s' d tx'.inode p = x → p = posOf idx ∨ p = .indirect := by
    intro p hpx
    by_contra hno
    rw [not_or] at hno
    rw [h.others p hno.1 hno.2] at hpx
    exact hf.2 (ho.taken (hold hn hpx h0))
  -- the free block at the new place is not the one of the pointers
  have hdiff : lbaAt s' d tx'.inode (posOf idx) = x → tx'.inode.indirectBlock ≠ x := by
    intro hl hi
    rcases h.indirect with hi' | ⟨-, hne⟩
    · exact hf.2 (ho.taken (hold (p := .indirect) hn (hi'.symm.trans hi) h0))
    · exact hne (hi.trans (hl.symm.trans h.here))
  rcases hplace hpx with rfl | rfl
  · rcases hplace hqx with rfl | rfl
    · rfl
    · exact absurd hqx (hdiff hpx)
  rcases hplace hqx with rfl | rfl
  · exact absurd hpx (hdiff hqx)
  · rfl

end

end ProjectZero.Fs.Mapping
