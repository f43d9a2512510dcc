import ProjectZero.Mm.AddressSpace

/-! # Changes of an address space

A new table is grown at an absent entry, an empty table is cut off, and a leaf entry is written.
`Within` says what a change leaves alone: frames that are neither tables of this address space nor
free. `Extends` says that a tree has all tables and entries of another one. -/

namespace ProjectZero.Mm.Changes

open Lib.Radix Tables Mm.Pmm Vmm AddressSpace

variable {g : AddressSpaceGeometry} {m m' m₁ m₂ m₃ : Memory} {root : PhysFrame}

/-! ### Tables in memory -/

/-- The table in the free frame `f` is cleared, and entered at `i` in the table `t`. -/
def grown (m : Memory) (t : PhysFrame) (i : Fin 512) (f : PhysFrame) (e : PageTableEntry)
    (pmm : Pmm) : Memory := ({ m with pmm := pmm }.zero f).setEntry t i e

lemma setEntry_table (m : Memory) (t f : PhysFrame) (i j : Fin 512) (e : PageTableEntry) :
    (m.setEntry t i e).table f j = if f = t ∧ j = i then e else m.table f j := by
  unfold Memory.setEntry
  by_cases hf : f = t
  · subst hf
    by_cases hj : j = i
    · simp [hj]
    · simp [hj]
  · simp [hf]

lemma zero_table (m : Memory) (f f' : PhysFrame) (j : Fin 512) :
    (m.zero f).table f' j = if f' = f then 0 else m.table f' j := by
  unfold Memory.zero
  by_cases hf : f' = f
  · subst hf; simp
  · simp [hf]

section Raw

variable {t f f' : PhysFrame} {i j : Fin 512} {e : PageTableEntry} {P : Place}

lemma grown_other (hf : f' ≠ f) (hne : f' ≠ t ∨ j ≠ i) (pmm : Pmm) :
    (grown m t i f e pmm).table f' j = m.table f' j := by
  unfold grown
  rw [setEntry_table, if_neg (by rintro ⟨h1, h2⟩; exact hne.elim (· h1) (· h2)), zero_table,
    if_neg hf]

lemma grown_entry (m : Memory) (t : PhysFrame) (i : Fin 512) (f : PhysFrame)
    (e : PageTableEntry) (pmm : Pmm) : (grown m t i f e pmm).table t i = e := by
  unfold grown
  rw [setEntry_table, if_pos ⟨rfl, rfl⟩]

lemma grown_entry_cases (m : Memory) (t : PhysFrame) (i : Fin 512) (e : PageTableEntry)
    (pmm : Pmm) (hf : f' ≠ f) (j : Fin 512) : (grown m t i f e pmm).table f' j = e ∨
      (grown m t i f e pmm).table f' j = m.table f' j := by
  by_cases hc : f' = t ∧ j = i
  · rw [hc.1, hc.2, grown_entry]
    exact .inl rfl
  refine .inr (grown_other hf ?_ pmm)
  by_contra hn
  exact hc ⟨by by_contra h1; exact hn (.inl h1), by by_contra h2; exact hn (.inr h2)⟩

lemma setEntry_other (hne : f ≠ t ∨ j ≠ P.2) : (m.setEntry t P.2 e).table f j = m.table f j := by
  rw [setEntry_table, if_neg (by rintro ⟨h1, h2⟩; exact hne.elim (· h1) (· h2))]

lemma release_table (m : Memory) (t f f' : PhysFrame) (i j : Fin 512) :
    (Link.release m ⟨t, i, f⟩).table f' j = if f' = t ∧ j = i then 0 else m.table f' j :=
  setEntry_table m t f' i j 0

lemma release_other (hne : f' ≠ t ∨ j ≠ i) :
    (Link.release m ⟨t, i, f⟩).table f' j = m.table f' j := by
  rw [release_table, if_neg (by rintro ⟨h1, h2⟩; exact hne.elim (· h1) (· h2))]

lemma release_present (hj : isPresent ((Link.release m ⟨t, i, f⟩).table f' j)) :
    (Link.release m ⟨t, i, f⟩).table f' j = m.table f' j := by
  rw [release_table] at hj ⊢
  split at hj
  · rw [isPresent_zero] at hj
    cases hj
  rename_i hne
  rw [if_neg hne]

lemma release_is (hf : f' ≠ f) {st : FrameState} :
    Is (Link.release m ⟨t, i, f⟩).pmm f' st ↔ Is m.pmm f' st := is_freeFrame_of_ne hf

lemma release_free (ht : Taken m.pmm f) : Free (Link.release m ⟨t, i, f⟩).pmm f := by
  change Free (freeFrame m.pmm f).2 f
  rw [freeFrame_taken ht]
  exact is_mark_self ht

end Raw

variable [Zone]

/-! ### What a change leaves alone -/

/-- The frame is free, or a table that was taken from the allocator. -/
def Supply (g : AddressSpaceGeometry) (m : Memory) (root f : PhysFrame) : Prop :=
  Free m.pmm f ∨ Own g m root f ∧ Taken m.pmm f

/-- The change stays within the zone under `root` and the free frames. -/
structure Within (g : AddressSpaceGeometry) (root : PhysFrame) (m m' : Memory) : Prop where
  table : ∀ f, ¬Own g m root f → ¬Free m.pmm f → m'.table f = m.table f
  outer : ∀ p f i, Path p → ¬Zone.Entry p i → tableAt g m root p = some f →
    tableAt g m' root p = some f ∧ m'.table f i = m.table f i
  same : ∀ f, Own g m' root f ∨ Free m'.pmm f → Own g m root f ∨ Free m.pmm f
  supply : ∀ f, Supply g m root f → Supply g m' root f
  taken : ∀ f, ¬Own g m root f → ¬Free m.pmm f → (Taken m'.pmm f ↔ Taken m.pmm f)
  tracked : m'.pmm.trackedFrames = m.pmm.trackedFrames

lemma Within.refl (g : AddressSpaceGeometry) (root : PhysFrame) (m : Memory) : Within g root m m :=
  ⟨fun _ _ _ => rfl, fun _ _ _ _ _ hw => ⟨hw, rfl⟩, fun _ h => h, fun _ h => h,
    fun _ _ _ => Iff.rfl, rfl⟩

lemma Within.outside (h : Within g root m m') {f : PhysFrame} (ho : ¬Own g m root f)
    (hf : ¬Free m.pmm f) : ¬Own g m' root f ∧ ¬Free m'.pmm f := by
  have hno : ¬(Own g m' root f ∨ Free m'.pmm f) := fun hc =>
    (h.same f hc).elim ho hf
  exact ⟨fun hc => hno (.inl hc), fun hc => hno (.inr hc)⟩

lemma Within.trans (h : Within g root m₁ m₂) (h' : Within g root m₂ m₃) :
    Within g root m₁ m₃ where
  table f ho hf := by
    obtain ⟨ho', hf'⟩ := h.outside ho hf
    rw [h'.table f ho' hf', h.table f ho hf]
  outer p f i hp hi hw := by
    obtain ⟨hw', he⟩ := h.outer p f i hp hi hw
    obtain ⟨hw'', he'⟩ := h'.outer p f i hp hi hw'
    exact ⟨hw'', he'.trans he⟩
  same f hc := h.same f (h'.same f hc)
  supply f hf := h'.supply f (h.supply f hf)
  taken f ho hf := by
    obtain ⟨ho', hf'⟩ := h.outside ho hf
    exact (h'.taken f ho' hf').trans (h.taken f ho hf)
  tracked := h'.tracked.trans h.tracked

/-- The tree of `m'` has the tables and entries of the tree of `m`. -/
structure Extends (g : AddressSpaceGeometry) (root : PhysFrame) (m m' : Memory) : Prop where
  table : ∀ p f, Path p → tableAt g m root p = some f → tableAt g m' root p = some f
  entry : ∀ p f i, Path p → tableAt g m root p = some f → isPresent (m.table f i) →
    m'.table f i = m.table f i

lemma Extends.refl (g : AddressSpaceGeometry) (root : PhysFrame) (m : Memory) :
    Extends g root m m := ⟨fun _ _ _ h => h, fun _ _ _ _ _ _ => rfl⟩

lemma Extends.trans (h : Extends g root m₁ m₂) (h' : Extends g root m₂ m₃) :
    Extends g root m₁ m₃ where
  table p f hp hw := h'.table p f hp (h.table p f hp hw)
  entry p f i hp hw hi := by
    have he := h.entry p f i hp hw hi
    rw [h'.entry p f i hp (h.table p f hp hw) (by rw [he]; exact hi), he]

/-! ### A new table -/

/-- What it takes to grow a table. -/
structure CanGrow (g : AddressSpaceGeometry) (m : Memory) (root : PhysFrame) (q : List (Fin 512))
    (i : Fin 512) (t f : PhysFrame) (e : PageTableEntry) : Prop where
  space : Space g m root
  path : Path (q ++ [i])
  table : tableAt g m root q = some t
  absent : isPresent (m.table t i) = false
  free : Free m.pmm f
  present : isPresent e
  points : pointsToFrame g e = f
  plain : isHuge e = false

section Grow

variable {q : List (Fin 512)} {i : Fin 512} {t f : PhysFrame} {e : PageTableEntry} {a b : ℕ}

section

variable (h : CanGrow g m root q i t f e)

include h

lemma CanGrow.fresh : ¬Own g m root f :=
  fun hf => h.space.own_not_free hf h.free

lemma CanGrow.table_ne : t ≠ f := by
  rintro rfl
  exact h.fresh ⟨q, (path_concat.mp h.path).1, h.table⟩

variable (pmm : Pmm)

lemma grown_new (j : Fin 512) : (grown m t i f e pmm).table f j = 0 := by
  unfold grown
  rw [setEntry_table, if_neg (fun hc => h.table_ne hc.1.symm), zero_table, if_pos rfl]

lemma CanGrow.differ :
    Differ (next g m.table) (next g (grown m t i f e pmm).table) root Path q i t where
  closed := path_closed
  domain := h.path
  table := h.table
  other p f' _ hp hw hne := next_congr (grown_other (fun hf : f' = f => h.fresh
    ⟨p, (path_concat.mp hp).1, hf ▸ hw⟩) hne pmm)

lemma CanGrow.next_entry : next g (grown m t i f e pmm).table t i = some f := by
  rw [next_of_present (by rw [grown_entry]; exact h.present), grown_entry, h.points]

lemma CanGrow.next_new (j : Fin 512) : next g (grown m t i f e pmm).table f j = none :=
  next_of_absent (by rw [grown_new h]; exact isPresent_zero)

variable {p : List (Fin 512)}

/-- **The tables after the growth** are those before it and the new one. -/
lemma grown_tableAt (hp : Path p) : tableAt g (grown m t i f e pmm) root p =
      if p = q ++ [i] then some f else tableAt g m root p := by
  have hd := h.differ pmm
  by_cases hpre : (q ++ [i]) <+: p
  · rw [tableAt, hd.walk_graft h.space.tree (h.next_entry pmm) (h.next_new pmm) hpre]
    split
    · rfl
    -- nothing was below the absent entry
    obtain ⟨s, rfl⟩ := hpre
    rw [tableAt_append, tableAt_concat, h.table, Option.bind_some, next_of_absent h.absent]
    rfl
  rw [if_neg (by rintro rfl; exact hpre (List.prefix_refl _))]
  exact hd.walk_around h.space.tree p hp hpre

lemma grown_tableAt_new : tableAt g (grown m t i f e pmm) root (q ++ [i]) = some f := by
  rw [grown_tableAt h pmm h.path, if_pos rfl]

lemma CanGrow.tableAt_none : tableAt g m root (q ++ [i]) = none := by
  rw [tableAt_concat, h.table]
  exact next_of_absent h.absent

lemma grown_cases
    {f' : PhysFrame} (hp : Path p) (hw : tableAt g (grown m t i f e pmm) root p = some f') :
    (p = q ++ [i] ∧ f' = f) ∨ (tableAt g m root p = some f' ∧ f' ≠ f) := by
  rw [grown_tableAt h pmm hp] at hw
  split at hw
  next he =>
    cases hw
    exact .inl ⟨he, rfl⟩
  · exact .inr ⟨hw, fun he => h.fresh ⟨p, hp, by rw [hw, he]⟩⟩

lemma grown_own (f' : PhysFrame) :
    Own g (grown m t i f e pmm) root f' ↔ Own g m root f' ∨ f' = f := by
  constructor
  · rintro ⟨p, hp, hw⟩
    rcases grown_cases h pmm hp hw with ⟨-, he⟩ | ⟨hw', -⟩
    · exact .inr he
    · exact .inl ⟨p, hp, hw'⟩
  rintro (⟨p, hp, hw⟩ | rfl)
  · refine ⟨p, hp, ?_⟩
    rw [grown_tableAt h pmm hp, if_neg, hw]
    rintro rfl
    rw [h.tableAt_none] at hw
    cases hw
  · exact ⟨q ++ [i], h.path, grown_tableAt_new h pmm⟩

lemma grown_extends : Extends g root m (grown m t i f e pmm) where
  table p f' hp hw := by
    rw [grown_tableAt h pmm hp, if_neg, hw]
    rintro rfl
    rw [h.tableAt_none] at hw
    cases hw
  entry p f' j hp hw hj := by
    refine grown_other (fun he => h.fresh ⟨p, hp, by rw [hw, he]⟩) ?_ pmm
    by_contra hc
    have hf : f' = t := by by_contra hf; exact hc (.inl hf)
    have hi : j = i := by by_contra hi; exact hc (.inr hi)
    rw [hf, hi, h.absent] at hj
    cases hj

lemma grown_is {f' : PhysFrame} (hf : f' ≠ f)
    {st : FrameState} : Is (grown m t i f e (mark m.pmm f .allocated a b)).pmm f' st ↔
      Is m.pmm f' st := is_mark_of_ne h.free hf

lemma grown_taken :
    Taken (grown m t i f e (mark m.pmm f .allocated a b)).pmm f := is_mark_self h.free

/-- **Growth** keeps the zone well formed. -/
lemma grown_space : Space g (grown m t i f e (mark m.pmm f .allocated a b)) root where
  tree := (h.differ _).tree_graft h.space.tree (h.next_entry _) (h.next_new _)
    fun p hp hw => h.fresh ⟨p, hp, hw⟩
  plain p f' j hp hne hw hj := by
    rcases grown_cases h _ (path_concat.mp hp).1 hw with ⟨-, he⟩ | ⟨hw', hf⟩
    · rw [he, grown_new h, isPresent_zero] at hj
      cases hj
    rcases grown_entry_cases m t i e _ hf j with he | he
    · rw [he]; exact h.plain
    rw [he] at hj ⊢
    exact h.space.plain p f' j hp hne hw' hj
  clear p f' j hp hlow hw hj := by
    rcases grown_cases h _ hp hw with ⟨-, he⟩ | ⟨hw', hf⟩
    · rw [he, grown_new h]
    rcases grown_entry_cases m t i e _ hf j with he | he
    · rw [he, h.present] at hj
      cases hj
    rw [he] at hj ⊢
    exact h.space.clear p f' j hp hlow hw' hj
  rootUsed := by
    have hne : root ≠ f := fun he => h.fresh (he ▸ own_root g m root)
    exact fun hf => h.space.rootUsed ((grown_is h hne).mp hf)
  taken p f' hp hne hw := by
    rcases grown_cases h _ hp hw with ⟨-, he⟩ | ⟨hw', hf⟩
    · rw [he]; exact Zone.of_taken (grown_taken h)
    · exact Zone.congr (fun _ => grown_is h hf) (h.space.taken p f' hp hne hw')
  solid p j hp hne hj := by
    obtain ⟨f', hw, hpr⟩ := h.space.solid p j hp hne hj
    refine ⟨f', (grown_extends h _).table p f' hp hw, ?_⟩
    rw [(grown_extends h _).entry p f' j hp hw hpr]
    exact hpr

lemma grown_within : Within g root m (grown m t i f e (mark m.pmm f .allocated a b)) where
  table f' ho hf := by
    funext j
    refine grown_other (fun he : f' = f => hf (he ▸ h.free)) (.inl fun he => ho ?_) _
    exact ⟨q, (path_concat.mp h.path).1, he ▸ h.table⟩
  outer p f' j hp hj hw := by
    refine ⟨(grown_extends h _).table p f' hp hw, ?_⟩
    refine grown_other (fun he : f' = f => h.fresh ⟨p, hp, he ▸ hw⟩) ?_ _
    by_cases ht : f' = t
    · -- the new entry is one of the zone
      right
      rintro rfl
      have hq : p = q := h.space.tree p q f' hp (path_concat.mp h.path).1 hw (ht ▸ h.table)
      exact hj (hq ▸ (path_concat.mp h.path).2.2)
    · exact .inl ht
  same f' := by
    rw [grown_own h]
    by_cases hf : f' = f
    · subst hf
      exact fun _ => .inr h.free
    have hfree : Free (grown m t i f e (mark m.pmm f .allocated a b)).pmm f' ↔ Free m.pmm f' :=
      grown_is h hf
    rw [hfree, or_iff_left hf]
    exact id
  supply f' hs := by
    by_cases hf : f' = f
    · subst hf
      exact .inr ⟨(grown_own h _ _).mpr (.inr rfl), grown_taken h⟩
    refine hs.imp (grown_is h hf).mpr fun ⟨ho, ht⟩ => ?_
    exact ⟨(grown_own h _ _).mpr (.inl ho), (grown_is h hf).mpr ht⟩
  taken f' ho hf := grown_is h fun he : f' = f => hf (he ▸ h.free)
  tracked := rfl

/-- **Growth** changes no leaf entry. -/
lemma grown_entryAt {P : Place} (hP : P.InZone) :
    entryAt g (grown m t i f e pmm) root P = entryAt g m root P := by
  cases hw : tableAt g m root P.1 with
  | none =>
    rw [entryAt_of_none hw]
    cases hw' : tableAt g (grown m t i f e pmm) root P.1 with
    | none => exact entryAt_of_none hw'
    | some f' =>
      rw [entryAt_of_table hw']
      rcases grown_cases h pmm hP.1 hw' with ⟨-, he⟩ | ⟨hold, -⟩
      · rw [he, grown_new h]
      rw [hw] at hold
      cases hold
  | some f' =>
    rw [entryAt_of_table hw, entryAt_of_table ((grown_extends h pmm).table P.1 f' hP.1 hw)]
    refine grown_other (fun he : f' = f => h.fresh ⟨P.1, hP.1, he ▸ hw⟩) (.inl ?_) pmm
    -- the table that got the entry is above the leaf tables
    rintro rfl
    have hq := h.space.tree P.1 q f' hP.1 (path_concat.mp h.path).1 hw h.table
    have hlen := (path_concat.mp h.path).2.1
    rw [← hq, hP.2] at hlen
    omega

lemma grown_fullBut {w : List (Fin 512)} (hw : q ++ [i] <+: w) (hfull : FullBut g m root w) :
    FullBut g (grown m t i f e pmm) root w := by
  intro p f' hp hne hnot hat
  rcases grown_cases h pmm hp hat with ⟨he, -⟩ | ⟨hold, hf⟩
  · exact absurd (he ▸ hw) hnot
  obtain ⟨j, hj⟩ := hfull p f' hp hne hnot hold
  refine ⟨j, ?_⟩
  rw [(grown_extends h pmm).entry p f' j hp hold hj]
  exact hj

end

end Grow

/-! ### An empty table goes -/

/-- What it takes to cut off a table. -/
structure CanCut (g : AddressSpaceGeometry) (m : Memory) (root : PhysFrame) (q : List (Fin 512))
    (i : Fin 512) (t f : PhysFrame) : Prop where
  space : Space g m root
  path : Path (q ++ [i])
  table : tableAt g m root q = some t
  below : tableAt g m root (q ++ [i]) = some f
  empty : ∀ j, isPresent (m.table f j) = false

section Cut

variable {q : List (Fin 512)} {i : Fin 512} {t f : PhysFrame}

lemma CanCut.ne_nil (_h : CanCut g m root q i t f) : q ++ [i] ≠ [] := by simp

lemma CanCut.held (h : CanCut g m root q i t f) : Zone.Held m.pmm f :=
  h.space.taken _ f h.path h.ne_nil h.below

lemma CanCut.differ (h : CanCut g m root q i t f) :
    Differ (next g m.table) (next g (Link.release m ⟨t, i, f⟩).table) root Path q i t where
  closed := path_closed
  domain := h.path
  table := h.table
  other _ _ _ _ _ hne := next_congr (release_other hne)

lemma CanCut.next_entry (_h : CanCut g m root q i t f) :
    next g (Link.release m ⟨t, i, f⟩).table t i = none :=
  next_of_absent (by rw [release_table, if_pos ⟨rfl, rfl⟩]; exact isPresent_zero)

section

variable (h : CanCut g m root q i t f)

include h

/-- **The tables after the cut** are those before it without the one cut off. -/
lemma release_tableAt (hp : Path p) :
    tableAt g (Link.release m ⟨t, i, f⟩) root p =
      if p = q ++ [i] then none else tableAt g m root p := by
  by_cases hpre : (q ++ [i]) <+: p
  · rw [tableAt, h.differ.walk_cut h.space.tree h.next_entry hpre]
    split
    · rfl
    -- nothing was below the empty table
    rename_i hne
    obtain ⟨s, rfl⟩ := hpre
    cases s with
    | nil => exact absurd (List.append_nil _) hne
    | cons j s =>
      rw [tableAt_append, h.below, Option.bind_some, tableAt, walk_cons, next_of_absent (h.empty j)]
      rfl
  rw [if_neg (by rintro rfl; exact hpre (List.prefix_refl _))]
  exact h.differ.walk_around h.space.tree p hp hpre

lemma release_cases {f' : PhysFrame}
    (hp : Path p) (hw : tableAt g (Link.release m ⟨t, i, f⟩) root p = some f') :
    tableAt g m root p = some f' ∧ f' ≠ f := by
  rw [release_tableAt h hp] at hw
  split at hw
  · cases hw
  rename_i hne
  refine ⟨hw, ?_⟩
  rintro rfl
  exact hne (h.space.tree p _ f' hp h.path hw h.below)

lemma release_own (f' : PhysFrame) :
    Own g (Link.release m ⟨t, i, f⟩) root f' ↔ Own g m root f' ∧ f' ≠ f := by
  constructor
  · rintro ⟨p, hp, hw⟩
    obtain ⟨hw', hne⟩ := release_cases h hp hw
    exact ⟨⟨p, hp, hw'⟩, hne⟩
  rintro ⟨⟨p, hp, hw⟩, hne⟩
  refine ⟨p, hp, ?_⟩
  rw [release_tableAt h hp, if_neg, hw]
  rintro rfl
  rw [h.below] at hw
  exact hne (Option.some.inj hw).symm

lemma release_extends : Extends g root (Link.release m ⟨t, i, f⟩) m where
  table _ _ hp hw := (release_cases h hp hw).1
  entry _ _ _ _ _ hj := (release_present hj).symm

/-- What is not of the zone stays: the table that goes has no entry, and the entry that led to it is
one of the zone. -/
lemma release_outer {j : Fin 512}
    {f' : PhysFrame} (hp : Path p) (hj : ¬Zone.Entry p j) (hw : tableAt g m root p = some f') :
    tableAt g (Link.release m ⟨t, i, f⟩) root p = some f' ∧
      (Link.release m ⟨t, i, f⟩).table f' j = m.table f' j := by
  constructor
  · rw [release_tableAt h hp, if_neg, hw]
    rintro rfl
    obtain ⟨f1, hf1, hpr⟩ := h.space.solid _ j hp h.ne_nil hj
    rw [h.below] at hf1
    cases hf1
    rw [h.empty j] at hpr
    cases hpr
  refine release_other ?_
  by_cases ht : f' = t
  · right
    rintro rfl
    have hq : p = q := h.space.tree p q f' hp (path_concat.mp h.path).1 hw (ht ▸ h.table)
    exact hj (hq ▸ (path_concat.mp h.path).2.2)
  · exact .inl ht

/-- **The cut** keeps the zone well formed. -/
lemma release_space : Space g (Link.release m ⟨t, i, f⟩) root where
  tree := h.differ.tree_cut h.space.tree h.next_entry
  plain p f' j hp hne hw hj := by
    have he := release_present hj
    rw [he] at hj ⊢
    exact h.space.plain p f' j hp hne (release_cases h (path_concat.mp hp).1 hw).1 hj
  clear p f' j hp hlow hw hj := by
    rw [release_table] at hj ⊢
    split at hj
    next he =>
      rw [if_pos he]
    rename_i hne
    rw [if_neg hne]
    exact h.space.clear p f' j hp hlow (release_cases h hp hw).1 hj
  rootUsed := by
    have hne : root ≠ f := by
      rintro rfl
      exact h.ne_nil (h.space.tree _ [] root h.path path_nil h.below rfl)
    exact fun hf => h.space.rootUsed ((release_is hne).mp hf)
  taken p f' hp hne hw := by
    obtain ⟨hw', hf⟩ := release_cases h hp hw
    exact Zone.congr (fun _ => release_is hf) (h.space.taken p f' hp hne hw')
  solid p j hp hne hj := by
    obtain ⟨f', hw, hpr⟩ := h.space.solid p j hp hne hj
    obtain ⟨hw', he⟩ := release_outer h hp hj hw
    exact ⟨f', hw', by rw [he]; exact hpr⟩

lemma release_within : Within g root m (Link.release m ⟨t, i, f⟩) where
  table f' ho hf := by
    funext j
    refine release_other (.inl fun he => ho ?_)
    exact ⟨q, (path_concat.mp h.path).1, he ▸ h.table⟩
  outer _ _ _ hp hj hw := release_outer h hp hj hw
  same f' := by
    rw [release_own h]
    by_cases hf : f' = f
    · subst hf
      exact fun _ => .inl ⟨_, h.path, h.below⟩
    have hfree : Free (Link.release m ⟨t, i, f⟩).pmm f' ↔ Free m.pmm f' := release_is hf
    rw [hfree, and_iff_left hf]
    exact id
  supply f' hs := by
    by_cases hf : f' = f
    · subst hf
      rcases hs with hfree | ⟨_, ht⟩
      · exact absurd hfree (Zone.not_free h.held)
      · exact .inl (release_free ht)
    refine hs.imp (release_is hf).mpr fun ⟨ho, ht⟩ => ?_
    exact ⟨(release_own h _).mpr ⟨ho, hf⟩, (release_is hf).mpr ht⟩
  taken f' ho _ := release_is fun he : f' = f => ho (he ▸ ⟨_, h.path, h.below⟩)
  tracked := trackedFrames_freeFrame m.pmm f

/-- **The cut** changes no leaf entry. -/
lemma release_entryAt {P : Place} (hP : P.InZone) :
    entryAt g (Link.release m ⟨t, i, f⟩) root P = entryAt g m root P := by
  cases hw : tableAt g (Link.release m ⟨t, i, f⟩) root P.1 with
  | some f' =>
    have hold := (release_cases h hP.1 hw).1
    rw [entryAt_of_table hw, entryAt_of_table hold]
    refine release_other (.inl ?_)
    rintro rfl
    have hq := h.space.tree P.1 q f' hP.1 (path_concat.mp h.path).1 hold h.table
    have hlen := (path_concat.mp h.path).2.1
    rw [← hq, hP.2] at hlen
    omega
  | none =>
    rw [entryAt_of_none hw]
    rw [release_tableAt h hP.1] at hw
    split at hw
    next he =>
      rw [entryAt_of_table (he ▸ h.below)]
      exact (h.space.clear P.1 f P.2 hP.1 (Zone.leaf P.2 hP.2) (he ▸ h.below) (h.empty _)).symm
    · rw [entryAt_of_none hw]

lemma release_fullBut {w : List (Fin 512)} (hw : q ++ [i] <+: w)
    (hfull : FullBut g m root w) : FullBut g (Link.release m ⟨t, i, f⟩) root w := by
  intro p f' hp hne hnot hat
  obtain ⟨hold, -⟩ := release_cases h hp hat
  obtain ⟨j, hj⟩ := hfull p f' hp hne hnot hold
  refine ⟨j, ?_⟩
  rw [release_other (.inl ?_)]
  · exact hj
  -- the table that lost the entry is on the way
  rintro rfl
  have hq := h.space.tree p q f' hp (path_concat.mp h.path).1 hold h.table
  exact hnot (hq ▸ (List.prefix_append q [i]).trans hw)

end

end Cut

/-! ### A leaf entry is written -/

section Write

variable {P : Place} {t : PhysFrame} {e : PageTableEntry}

section

variable (hs : Space g m root) (hP : P.InZone) (ht : tableAt g m root P.1 = some t)

include hs hP ht

lemma leaf_ne {j : Fin 512} {f : PhysFrame} (hp : Path (p ++ [j]))
    (hw : tableAt g m root p = some f) : f ≠ t := by
  rintro rfl
  have hq := hs.tree p P.1 f (path_concat.mp hp).1 hP.1 hw ht
  have hlen := (path_concat.mp hp).2.1
  rw [hq, hP.2] at hlen
  omega

lemma written_tableAt (hp : Path p) : tableAt g (m.setEntry t P.2 e) root p = tableAt g m root p :=
  walk_congr path_closed (fun _ _ _ hp' hw =>
    next_congr (setEntry_other (.inl (leaf_ne hs hP ht hp' hw)))) p hp

/-- **The leaf entries after the write.** -/
lemma written_entryAt {Q : Place} (hQ : Q.InZone) : entryAt g (m.setEntry t P.2 e) root Q =
      if Q = P then e else entryAt g m root Q := by
  cases hw : tableAt g m root Q.1 with
  | none =>
    rw [entryAt_of_none hw, entryAt_of_none (by rw [written_tableAt hs hP ht hQ.1, hw]), if_neg]
    rintro rfl
    rw [ht] at hw
    cases hw
  | some f =>
    rw [entryAt_of_table hw, entryAt_of_table (by rw [written_tableAt hs hP ht hQ.1, hw]),
      setEntry_table]
    have hiff : (f = t ∧ Q.2 = P.2) ↔ Q = P := by
      constructor
      · rintro ⟨rfl, hi⟩
        exact Prod.ext (hs.tree Q.1 P.1 f hQ.1 hP.1 hw ht) hi
      rintro rfl
      rw [hw] at ht
      exact ⟨Option.some.inj ht, rfl⟩
    simp only [hiff]

lemma written_own (f : PhysFrame) : Own g (m.setEntry t P.2 e) root f ↔ Own g m root f := by
  constructor
  · rintro ⟨p, hp, hw⟩
    exact ⟨p, hp, by rw [← written_tableAt hs hP ht hp]; exact hw⟩
  rintro ⟨p, hp, hw⟩
  exact ⟨p, hp, by rw [written_tableAt hs hP ht hp]; exact hw⟩

lemma written_outer {j : Fin 512} {f : PhysFrame} (hp : Path p) (hj : ¬Zone.Entry p j)
    (hw : tableAt g m root p = some f) : f ≠ t := by
  rintro rfl
  have hq := hs.tree p P.1 f hp hP.1 hw ht
  exact hj (Zone.leaf j (hq ▸ hP.2))

/-- **The write** keeps the zone well formed. -/
lemma written_space (he : isPresent e = false → e = 0) : Space g (m.setEntry t P.2 e) root where
  tree p q f hp hq hw hw' := by
    have h1 := written_tableAt (e := e) hs hP ht hp
    have h2 := written_tableAt (e := e) hs hP ht hq
    exact hs.tree p q f hp hq (h1.symm.trans hw) (h2.symm.trans hw')
  plain p f j hp hne hw hj := by
    rw [written_tableAt hs hP ht (path_concat.mp hp).1] at hw
    rw [setEntry_other (.inl (leaf_ne hs hP ht hp hw))] at hj ⊢
    exact hs.plain p f j hp hne hw hj
  clear p f j hp hlow hw hj := by
    rw [written_tableAt hs hP ht hp] at hw
    rw [setEntry_table] at hj ⊢
    split at hj
    next hc =>
      rw [if_pos hc]
      exact he hj
    rename_i hc
    rw [if_neg hc]
    exact hs.clear p f j hp hlow hw hj
  rootUsed := hs.rootUsed
  taken p f hp hne hw := by
    rw [written_tableAt hs hP ht hp] at hw
    exact hs.taken p f hp hne hw
  solid p j hp hne hj := by
    obtain ⟨f, hw, hpr⟩ := hs.solid p j hp hne hj
    refine ⟨f, (written_tableAt hs hP ht hp).trans hw, ?_⟩
    rw [setEntry_other (.inl (written_outer hs hP ht hp hj hw))]
    exact hpr

lemma written_within : Within g root m (m.setEntry t P.2 e) where
  table f ho _ := by
    funext j
    exact setEntry_other (.inl fun hf => ho ⟨P.1, hP.1, hf ▸ ht⟩)
  outer p f j hp hj hw := ⟨(written_tableAt hs hP ht hp).trans hw,
    setEntry_other (.inl (written_outer hs hP ht hp hj hw))⟩
  same f := by
    rw [written_own hs hP ht]
    exact id
  supply f h := h.imp_right fun ⟨ho, htk⟩ => ⟨(written_own hs hP ht f).mpr ho, htk⟩
  taken _ _ _ := Iff.rfl
  tracked := rfl

lemma written_extends (habs : isPresent (m.table t P.2) = false) :
    Extends g root m (m.setEntry t P.2 e) where
  table p f hp hw := by rw [written_tableAt hs hP ht hp]; exact hw
  entry p f j _ _ hj := by
    refine setEntry_other ?_
    by_contra hc
    have hf : f = t := by by_contra hf; exact hc (.inl hf)
    have hi : j = P.2 := by by_contra hi; exact hc (.inr hi)
    rw [hf, hi, habs] at hj
    cases hj

lemma erased_extends : Extends g root (m.setEntry t P.2 0) m where
  table p f hp hw := by rw [written_tableAt hs hP ht hp] at hw; exact hw
  entry p f j _ _ hj := by
    rw [setEntry_table] at hj ⊢
    split at hj
    · rw [isPresent_zero] at hj
      cases hj
    rename_i hc
    rw [if_neg hc]

lemma written_fullBut (hfull : FullBut g m root P.1) : FullBut g (m.setEntry t P.2 e) root P.1 := by
  intro p f hp hne hnot hw
  rw [written_tableAt hs hP ht hp] at hw
  obtain ⟨j, hj⟩ := hfull p f hp hne hnot hw
  refine ⟨j, ?_⟩
  rw [setEntry_other (.inl ?_)]
  · exact hj
  rintro rfl
  exact hnot (hs.tree p P.1 f hp hP.1 hw ht ▸ List.prefix_refl _)

end

end Write

end ProjectZero.Mm.Changes
