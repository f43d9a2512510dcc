import ProjectZero.Ipc.Shm
import ProjectZero.Mm.Paging

/-! # Ranges of pages

The loops of `shm_map` and `shm_unmap` over the pages of a range in the user half. Mapping enters all
the frames, or leaves the page tables as it found them; unmapping clears the leaf entries of all the
pages. -/

namespace ProjectZero.Ipc.Ranges

open Lib.Run Tables Mm.Pmm Mm.Vmm Mm.AddressSpace Mm.Changes Mm.Paging Ipc.Shm

variable {g : AddressSpaceGeometry} {m m' : Memory} {root : PhysFrame}

/-! ### Addresses of the user half -/

/-- The first address above the user half. -/
def userTop : ℕ := 0x0000800000000000

variable {v vaddr n j k : ℕ}

lemma p4Index_low (h : v < userTop) : (p4Index v).val < 256 := by
  have hval : (p4Index v).val = v / 2 ^ 39 % 512 := by
    rw [← Nat.shiftRight_eq_div_pow]
    rfl
  have hdiv : v / 2 ^ 39 < 256 := Nat.div_lt_of_lt_mul (lt_of_lt_of_le h (by decide))
  rw [hval]
  omega

lemma place_isUser (h : v < userTop) : (place v).IsUser := by
  refine ⟨⟨by simp [place], fun i hi => ?_⟩, rfl⟩
  have he : p4Index v = i := by simpa [place] using hi
  rw [← he]
  exact p4Index_low h

lemma isCanonical_low (g : AddressSpaceGeometry) (h : v < userTop) : isCanonical g v := by
  have hwidth := g.virtualBits_range.1
  have hpow : 2 ^ 47 ≤ 2 ^ (g.virtualBits - 1) := Nat.pow_le_pow_right (by decide) (by omega)
  exact (isCanonical_iff g (lt_trans h (by decide))).mpr
    (.inl (lt_of_lt_of_le h (le_trans (by decide) hpow)))

/-- The range of `n` pages from `vaddr` on is one of the user half. -/
structure InUser (vaddr n : ℕ) : Prop where
  aligned : vaddr % pageSize = 0
  below : vaddr + n * pageSize ≤ userTop

lemma InUser.page_lt (h : InUser vaddr n) (hj : j < n) : pageAddr vaddr j < userTop := by
  have hmul : j * pageSize + pageSize ≤ n * pageSize := by
    rw [← Nat.succ_mul]
    exact Nat.mul_le_mul_right _ hj
  have hpos : 0 < pageSize := by decide
  have hbelow := h.below
  change vaddr + j * pageSize < userTop
  omega

lemma InUser.page (h : InUser vaddr n) (hj : j < n) (g : AddressSpaceGeometry) :
    pageFromStartAddress g (pageAddr vaddr j) = .ok (pageAddr vaddr j) := by
  have hal : pageAddr vaddr j % pageSize = 0 := by
    unfold pageAddr
    rw [Nat.add_mul_mod_self_right]
    exact h.aligned
  unfold pageFromStartAddress
  rw [if_neg (by simpa using hal), if_neg (by rw [isCanonical_low g (h.page_lt hj)]; simp)]

/-- The places of the pages below `n`. -/
def Pages (vaddr : VirtualAddress) (n : ℕ) (P : Place) : Prop :=
  ∃ j < n, P = place (pageAddr vaddr j)

lemma pages_succ {P : Place} :
    Pages vaddr (n + 1) P ↔ Pages vaddr n P ∨ P = place (pageAddr vaddr n) := by
  constructor
  · rintro ⟨j, hj, he⟩
    rcases Nat.lt_succ_iff_lt_or_eq.mp hj with hlt | rfl
    · exact .inl ⟨j, hlt, he⟩
    · exact .inr he
  rintro (⟨j, hj, he⟩ | he)
  · exact ⟨j, Nat.lt_succ_of_lt hj, he⟩
  · exact ⟨n, Nat.lt_succ_self n, he⟩

/-! ### Unmapping -/

lemma unmapPage_cleared (hr : InUser vaddr n) (hj : j < n)
    (hs : Space g m root) (hf : Full g m root) :
    Cleared g root (· = place (pageAddr vaddr j)) m (unmapPage g root (pageAddr vaddr j) m).2 :=
  unmapPage_spec hs hf (place_isUser (hr.page_lt hj)) (isCanonical_low g (hr.page_lt hj))

/-- **A range is unmapped.** -/
lemma unmapRange_spec (hr : InUser vaddr n) (hs : Space g m root) (hf : Full g m root) :
    Cleared g root (Pages vaddr n) m (unmapRange g root vaddr n m) := by
  have hloop : ∀ k ≤ n, Cleared g root (Pages vaddr k) m (unmapRange g root vaddr k m) := by
    intro k hk
    induction k with
    | zero =>
      exact ⟨hs, hf, .refl g root m, .refl g root m, fun _ _ ⟨_, hj, _⟩ => absurd hj (by omega),
        fun _ _ _ => rfl⟩
    | succ k ih =>
      have hk' := ih (by omega)
      unfold unmapRange at hk' ⊢
      rw [List.range_succ, List.foldl_append, List.foldl_cons, List.foldl_nil, hr.page (by omega)]
      exact (hk'.trans (unmapPage_cleared hr (by omega) hk'.space hk'.full)).mono
        fun P => pages_succ.symm
  exact hloop n le_rfl

lemma unmapPrevious_eq (hr : InUser vaddr n)
    (hk : k ≤ n) : unmapPrevious g root vaddr k m = .ok (unmapRange g root vaddr k m) := by
  induction k with
  | zero => rfl
  | succ k ih =>
    have hk' := ih (by omega)
    unfold unmapPrevious unmapRange at hk' ⊢
    rw [List.range_succ, List.foldlM_append, hk', List.foldl_append, List.foldl_cons,
      List.foldl_nil, ok_bind, List.foldlM_cons, hr.page (by omega)]
    rfl

/-! ### Mapping -/

/-- The pages at the places `S` are mapped to frames of the list. -/
structure Entered (g : AddressSpaceGeometry) (root : PhysFrame) (S : Place → Prop)
    (frames : List PhysFrame) (m m' : Memory) : Prop where
  space : Space g m' root
  full : Full g m' root
  within : Within g root m m'
  extend : Extends g root m m'
  absent : ∀ P : Place, P.IsUser → S P → entryAt g m root P = 0
  present : ∀ P : Place, P.IsUser → S P → isPresent (entryAt g m' root P)
  points : ∀ P : Place, P.IsUser → S P → pointsToFrame g (entryAt g m' root P) ∈ frames
  kept : ∀ P : Place, P.IsUser → ¬S P → entryAt g m' root P = entryAt g m root P

/-- The page tables are as they were, and the same frames are free. -/
structure Restored (m m' : Memory) : Prop where
  free : ∀ f, Free m'.pmm f ↔ Free m.pmm f
  table : ∀ f, ¬Free m.pmm f → m'.table f = m.table f

/-- The page tables are as they were after a failure. -/
structure Undone (g : AddressSpaceGeometry) (root : PhysFrame) (m m' : Memory) : Prop where
  space : Space g m' root
  full : Full g m' root
  within : Within g root m m'
  entries : ∀ P : Place, P.IsUser → entryAt g m' root P = entryAt g m root P
  restored : Restored m m'

variable {frames : List PhysFrame}

/-- **The undone range**: when a page cannot be mapped, the pages before it are unmapped, and the
tables made for them are given back. -/
lemma undo_restores {m₁ m₂ : Memory}
    (hr : InUser vaddr n) (hk : k ≤ n) (hs : Space g m root) (hf : Full g m root)
    (he : Entered g root (Pages vaddr k) frames m m₁) (hsame : Same m₁ m₂) :
    Undone g root m (unmapRange g root vaddr k m₂) := by
  have hrk : InUser vaddr k := ⟨hr.aligned, le_trans (Nat.add_le_add_left
    (Nat.mul_le_mul_right _ hk) _) hr.below⟩
  have hagree := hsame.agree he.space
  have hcl := unmapRange_spec hrk (hagree.space he.space) (hagree.full he.full)
  obtain ⟨m3, hm3⟩ : ∃ m3, m3 = unmapRange g root vaddr k m₂ := ⟨_, rfl⟩
  rw [← hm3] at hcl ⊢
  have hentries : ∀ P : Place, P.IsUser → entryAt g m3 root P = entryAt g m root P := by
    intro P hP
    by_cases hS : Pages vaddr k P
    · rw [hcl.gone P hP hS, he.absent P hP hS]
    · rw [hcl.kept P hP hS, hagree.entryAt hP, he.kept P hP hS]
  have hup : Extends g root m m₂ := he.extend.trans (hsame.extends he.space)
  have hw : Within g root m m3 := (he.within.trans (hsame.within he.space)).trans hcl.within
  obtain ⟨hfree, htable⟩ := Alike.same
    ⟨hs, hcl.space, hf, hup, hcl.extend, fun P hP _ => hentries P hP⟩
    ⟨hcl.space, hs, hcl.full, hcl.extend, hup, fun P hP _ => (hentries P hP).symm⟩ hw
  exact ⟨hcl.space, hcl.full, hw, hentries, ⟨hfree, htable⟩⟩

lemma Entered.next {m₁ m₂ : Memory}
    {e : PageTableEntry} (he : Entered g root (Pages vaddr k) frames m m₁)
    (hu : (place (pageAddr vaddr k)).IsUser) (hm : Mapped g root (place (pageAddr vaddr k)) e m₁ m₂)
    (hpr : isPresent e) (hpt : pointsToFrame g e ∈ frames) :
    Entered g root (Pages vaddr (k + 1)) frames m m₂ := by
  -- the new place is none of those before
  have hnew : ¬Pages vaddr k (place (pageAddr vaddr k)) := fun hc => by
    have hp := he.present _ hu hc
    rw [hm.absent, isPresent_zero] at hp
    cases hp
  refine ⟨hm.space, hm.full, he.within.trans hm.within, he.extend.trans hm.extend,
    fun P hP hS => ?_, fun P hP hS => ?_, fun P hP hS => ?_, fun P hP hS => ?_⟩
  · rcases pages_succ.mp hS with hS' | rfl
    · exact he.absent P hP hS'
    · rw [← he.kept _ hP hnew]; exact hm.absent
  · rw [hm.entries P hP]
    split
    · exact hpr
    rename_i hne
    exact he.present P hP ((pages_succ.mp hS).resolve_right hne)
  · rw [hm.entries P hP]
    split
    · exact hpt
    rename_i hne
    exact he.points P hP ((pages_succ.mp hS).resolve_right hne)
  rw [hm.entries P hP, if_neg fun hc => hS (pages_succ.mpr (.inr hc)),
    he.kept P hP fun hc => hS (pages_succ.mpr (.inl hc))]

/-- The end of the mapping loop: the whole range is mapped, or nothing is. -/
def RangeEnd (g : AddressSpaceGeometry) (root : PhysFrame) (vaddr : ℕ) (frames : List PhysFrame)
    (m : Memory) (r : Except IpcError Unit × Memory) : Prop :=
  match r.1 with
  | .ok () => Entered g root (Pages vaddr frames.length) frames m r.2
  | .error _ => Undone g root m r.2

lemma mapFlags_clean (writable : Bool) :
    leafFlags (mapFlags writable) .user &&& addressBits = 0#64 := by
  cases writable <;> decide

lemma mapPages_from (hr : InUser vaddr frames.length)
    (hs : Space g m root) (hf : Full g m root) (hsize : m.pmm.trackedFrames ≤ 2 ^ 52)
    (hlt : ∀ f ∈ frames, f < 2 ^ 64) (writable : Bool) :
    ∀ (rest : List PhysFrame) (k : ℕ) (m₁ : Memory), k + rest.length = frames.length →
      (∀ f ∈ rest, f ∈ frames) → Entered g root (Pages vaddr k) frames m m₁ →
      Ensures (RangeEnd g root vaddr frames m)
        (mapPages g root vaddr (mapFlags writable) rest k m₁)
  | [], k, m₁, hk, _, he => by
    rw [List.length_nil, Nat.add_zero] at hk
    subst hk
    exact he
  | f :: rest, k, m₁, hk, hmem, he => by
    rw [List.length_cons] at hk
    have hkn : k < frames.length := by omega
    have hu := place_isUser (hr.page_lt hkn)
    unfold mapPages
    rw [hr.page hkn]
    refine .bind (mapPage_spec he.space he.full (by rw [he.within.tracked]; exact hsize) hu f
      (mapFlags writable) .user) fun ⟨r, m2⟩ hend => ?_
    cases r with
    | error e =>
      dsimp only
      rw [unmapPrevious_eq hr hkn.le]
      exact undo_restores hr hkn.le hs hf he hend
    | ok u =>
      obtain ⟨hvalid, hm⟩ := hend
      have hfm : f ∈ frames := hmem f List.mem_cons_self
      have hpt := pointsToFrame_mkEntry hvalid (hlt f hfm) (mapFlags_clean writable)
      exact mapPages_from hr hs hf hsize hlt writable rest (k + 1) m2 (by omega)
        (fun f' hf' => hmem f' (List.mem_cons_of_mem f hf'))
        (he.next hu hm (isPresent_mkEntry (leafFlags_present _ _)) (by rw [hpt]; exact hfm))

/-- **A range is mapped**, or the page tables are as they were. -/
lemma mapPages_spec (hr : InUser vaddr frames.length)
    (hs : Space g m root) (hf : Full g m root) (hsize : m.pmm.trackedFrames ≤ 2 ^ 52)
    (hlt : ∀ f ∈ frames, f < 2 ^ 64) (writable : Bool) :
    Ensures (RangeEnd g root vaddr frames m)
      (mapPages g root vaddr (mapFlags writable) frames 0 m) := by
  refine mapPages_from hr hs hf hsize hlt writable frames 0 m (Nat.zero_add _) (fun _ hf => hf) ?_
  have hno : ∀ P, ¬Pages vaddr 0 P := fun P ⟨j, hj, _⟩ => absurd hj (by omega)
  exact ⟨hs, hf, .refl g root m, .refl g root m, fun P _ hS => absurd hS (hno P),
    fun P _ hS => absurd hS (hno P), fun P _ hS => absurd hS (hno P), fun _ _ _ => rfl⟩

/-! ### Translation -/

lemma translate_eq_ok (hs : Space g m root) (hv : v < userTop) {f : PhysFrame} :
    Mm.Vmm.translate g m.table root v = .ok f ↔
      isPresent (entryAt g m root (place v)) ∧
        pointsToFrame g (entryAt g m root (place v)) = f := by
  rw [translate_inZone hs (place_isUser hv) (isCanonical_low g hv)]
  split
  next hp =>
    simp [hp]
  rename_i hp
  simp [hp]

end ProjectZero.Ipc.Ranges
