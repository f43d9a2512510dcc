import ProjectZero.Mm.Changes

/-! # `map_page` and `unmap_page`

On a well-formed zone without empty tables, `map_page` writes one leaf entry or fails and leaves
every frame in use as it was, and `unmap_page` clears one leaf entry. The tables it takes are made
and given back on the way: `Digging` is the state of the descent of `map_page`, with the tables made
so far, and `Chain` the links `unmap_page` came along. -/

namespace ProjectZero.Mm.Paging

open Lib.Radix Lib.Run Tables Mm.Pmm Vmm AddressSpace Changes PageTableFlags

variable {g : AddressSpaceGeometry} {m m' m₀ m₁ m₂ m₃ : Memory} {root : PhysFrame}

/-! ### The same memory, up to free frames -/

/-- The frames in use are as they were, and the allocator too. -/
structure Same (m m' : Memory) : Prop where
  pmm : m'.pmm = m.pmm
  table : ∀ f, ¬Free m.pmm f → m'.table f = m.table f

lemma Same.refl (m : Memory) : Same m m := ⟨rfl, fun _ _ => rfl⟩

lemma Same.trans (h : Same m₁ m₂) (h' : Same m₂ m₃) : Same m₁ m₃ :=
  ⟨h'.pmm.trans h.pmm, fun f hf => (h'.table f (by rw [h.pmm]; exact hf)).trans (h.table f hf)⟩

variable {f : PhysFrame}

lemma free_freeFrame {pmm : Pmm} (hf : Free pmm f) (x : PhysFrame) :
    Free (freeFrame pmm x).2 f := by
  by_cases hfx : f = x
  · subst hfx
    rw [freeFrame_refused fun ht => ht.not_free hf]
    exact hf
  · exact (is_freeFrame_of_ne hfx).mpr hf

lemma Same.release (h : Same m m') (l : Link) : Same (l.release m) (l.release m') where
  pmm := by
    change (freeFrame m'.pmm l.frame).2 = (freeFrame m.pmm l.frame).2
    rw [h.pmm]
  table f hf := by
    have hold : ¬Free m.pmm f := fun hc => hf (free_freeFrame hc l.frame)
    funext j
    change (m'.setEntry l.parent l.index 0).table f j = (m.setEntry l.parent l.index 0).table f j
    rw [setEntry_table, setEntry_table, h.table f hold]

lemma Same.rollback (h : Same m m') (fresh : List Link) :
    Same (rollback m fresh) (rollback m' fresh) := by
  induction fresh generalizing m m' with
  | nil => exact h
  | cons l fresh ih => exact ih (h.release l)

/-! ### Entries and links -/

lemma leafFlags_present (flags : BitVec 64) (domain : MappingDomain) :
    leafFlags flags domain &&& present = present := by
  have hor : (flags ||| present) &&& present =
      present := by
    rw [BitVec.and_comm, BitVec.and_or_distrib_left, BitVec.and_self]
    ext i hi
    simpa using fun h _ => h
  cases domain with
  | user => exact hor
  | kernel =>
    have hu : ~~~userAccessible &&& present =
        present := by decide
    rw [leafFlags, BitVec.and_assoc, hu]
    exact hor

lemma presentCount_eq_zero {t : PageTable} : presentCount t = 0 ↔ ∀ j, isPresent (t j) = false := by
  unfold presentCount
  rw [List.length_eq_zero_iff, List.filter_eq_nil_iff]
  simp

variable {q : List (Fin 512)} {links : List Link}

/-- The links lead along `q`, the last one first. -/
inductive Chain (g : AddressSpaceGeometry) (m : Memory) (root : PhysFrame) :
    List (Fin 512) → List Link → Prop
  | nil : Chain g m root [] []
  | cons {q : List (Fin 512)} {i : Fin 512} {t f : PhysFrame} {links : List Link} :
      Chain g m root q links → tableAt g m root q = some t →
      tableAt g m root (q ++ [i]) = some f → Chain g m root (q ++ [i]) (⟨t, i, f⟩ :: links)

lemma Chain.congr (h : Chain g m root q links)
    (ht : ∀ p, p <+: q → tableAt g m' root p = tableAt g m root p) : Chain g m' root q links := by
  induction h with
  | nil => exact .nil
  | cons _ h1 h2 ih =>
    refine .cons (ih fun p hp => ht p (hp.trans (List.prefix_append _ _))) ?_ ?_
    · rw [ht _ (List.prefix_append _ _)]; exact h1
    · rw [ht _ (List.prefix_refl _)]; exact h2

variable [Zone]

/-! ### The same memory, seen from an address space -/

lemma Same.agree (h : Same m m') (hs : Space g m root) : Agree g root m m' where
  table f ho := h.table f (hs.own_not_free ho)
  used hr := by rw [h.pmm]; exact hr
  taken f _ ht := by rw [h.pmm]; exact ht

lemma Same.extends (h : Same m m') (hs : Space g m root) : Extends g root m m' where
  table p f hp hw := by rw [(h.agree hs).tableAt hp]; exact hw
  entry p f i hp hw _ := congrFun ((h.agree hs).table f ⟨p, hp, hw⟩) i

lemma Same.within (h : Same m m') (hs : Space g m root) : Within g root m m' where
  table f _ hf := h.table f hf
  outer p f i hp _ hw := ⟨((h.agree hs).tableAt hp).trans hw,
    congrFun ((h.agree hs).table f ⟨p, hp, hw⟩) i⟩
  same f := by rw [(h.agree hs).own f, h.pmm]; exact id
  supply f := by rw [Supply, Supply, (h.agree hs).own f, h.pmm]; exact id
  taken f _ _ := by rw [h.pmm]
  tracked := by rw [h.pmm]

/-! ### The descent of `map_page` -/

variable {e : PageTableEntry}

lemma grown_undone {i : Fin 512} {t : PhysFrame}
    (h : CanGrow g m root q i t f e) (hn : m.pmm.freeFrames ≠ 0) :
    Same m (Link.release (grown m t i f e (mark m.pmm f .allocated (m.pmm.freeFrames - 1)
      (m.pmm.allocatedFrames + 1))) ⟨t, i, f⟩) where
  pmm := by
    obtain ⟨pmm, hpmm⟩ : ∃ pmm, pmm = mark m.pmm f .allocated (m.pmm.freeFrames - 1)
      (m.pmm.allocatedFrames + 1) := ⟨_, rfl⟩
    have htaken : Taken pmm f := by rw [hpmm]; exact is_mark_self h.free
    rw [← hpmm]
    change (freeFrame pmm f).2 = m.pmm
    rw [freeFrame_taken htaken, hpmm]
    exact mark_mark h.free hn
  table f' hf := by
    have hne : f' ≠ f := fun he => hf (he ▸ h.free)
    funext j
    rw [release_table]
    split
    next hc =>
      rw [hc.1, hc.2]
      exact (h.space.clear q t i (path_concat.mp h.path).1 (path_concat.mp h.path).2.2 h.table
        h.absent).symm
    rename_i hc
    refine grown_other hne ?_ _
    by_contra hn'
    exact hc ⟨by by_contra h1; exact hn' (.inl h1), by by_contra h2; exact hn' (.inr h2)⟩

/-- The descent has come along `q` to the table `t`, on its way along `w`. -/
structure Digging (g : AddressSpaceGeometry) (root : PhysFrame) (w : List (Fin 512)) (m₀ : Memory)
    (q : List (Fin 512)) (t : PhysFrame) (fresh : List Link) (m : Memory) : Prop where
  space : Space g m root
  full : FullBut g m root w
  table : tableAt g m root q = some t
  within : Within g root m₀ m
  extend : Extends g root m₀ m
  entries : ∀ P : Place, P.InZone → entryAt g m root P = entryAt g m₀ root P
  undo : Same m₀ (rollback m fresh)
  old : fresh = [] → m = m₀
  new : fresh ≠ [] → ∀ j, m.table t j = 0

lemma Digging.start (hs : Space g m root) (hf : Full g m root) (w : List (Fin 512)) :
    Digging g root w m [] root [] m :=
  ⟨hs, hf.but w, rfl, .refl g root m, .refl g root m, fun _ _ => rfl, .refl m, fun _ => rfl,
    fun h => absurd rfl h⟩

variable {w : List (Fin 512)} {i : Fin 512} {t : PhysFrame} {fresh : List Link}

/-- The end of a level: the table behind the entry, or the failure without a trace. -/
def Level (g : AddressSpaceGeometry) (root : PhysFrame) (w : List (Fin 512)) (m₀ : Memory)
    (q : List (Fin 512)) (r : Except VmmError (PhysFrame × List Link) × Memory) : Prop :=
  match r.1 with
  | .error _ => Same m₀ r.2
  | .ok (t, fresh) => Digging g root w m₀ q t fresh r.2

/-- **One level of the descent.** -/
lemma nextTable_digs (h : Digging g root w m₀ q t fresh m) (hq : q ++ [i] <+: w) (hw : Path w)
    (hsize : m.pmm.trackedFrames ≤ 2 ^ 52) {flags : BitVec 64} (hpres : flags &&& present = present)
    (haddr : flags &&& addressBits = 0#64) (hhuge : flags &&& hugePage = 0#64)
    {huge : Bool} (hroot : q = [] → huge ≠ true) :
    Ensures (Level g root w m₀ (q ++ [i])) (nextTable g flags huge t i fresh m) := by
  have hpath : Path (q ++ [i]) := hw.initial hq
  unfold nextTable
  dsimp only
  split
  next habs =>
    rcases allocFrame_cases m.pmm with he | ⟨f, hfree, hn, he⟩
    · rw [he]
      exact h.undo
    rw [he]
    simp only
    split
    next hvalid =>
      have hlt : f < 2 ^ 64 := by
        have hidx := lt_of_lt_of_le hfree.2.1 hsize
        have hmul := (Nat.div_lt_iff_lt_mul (by decide : 0 < pageSize)).mp hidx
        exact lt_of_lt_of_le hmul (by decide)
      have hg : CanGrow g m root q i t f (mkEntry g f flags) :=
        ⟨h.space, hpath, h.table, habs, hfree, isPresent_mkEntry hpres,
          pointsToFrame_mkEntry hvalid hlt haddr, isHuge_mkEntry hhuge⟩
      refine ⟨grown_space hg, grown_fullBut hg _ hq h.full, grown_tableAt_new hg _,
        h.within.trans (grown_within hg), h.extend.trans (grown_extends hg _), fun P hP => ?_, ?_,
        fun hc => absurd hc (by simp), fun _ j => grown_new hg _ j⟩
      · exact (grown_entryAt hg _ hP).trans (h.entries P hP)
      · exact h.undo.trans ((grown_undone hg hn).rollback fresh)
    · trivial
  rename_i hpr
  have hpr' : isPresent (m.table t i) = true := by simpa using hpr
  -- a table made by this call has no entry yet
  have hfresh : fresh = [] := by
    by_contra hne
    rw [h.new hne i, isPresent_zero] at hpr'
    cases hpr'
  rw [h.space.not_huge hpath h.table hpr' hroot]
  split
  · contradiction
  refine ⟨h.space, h.full, ?_, h.within, h.extend, h.entries, h.undo, h.old,
    fun hne => absurd hfresh hne⟩
  rw [tableAt_concat, h.table]
  exact next_of_present hpr'

lemma Digging.tracked (h : Digging g root w m₀ q t fresh m) :
    m.pmm.trackedFrames = m₀.pmm.trackedFrames := h.within.tracked

/-- **The descent** to the leaf table. -/
lemma descend_digs (hw : Path w) (hsize : m₀.pmm.trackedFrames ≤ 2 ^ 52) {flags : BitVec 64}
    (hpres : flags &&& present = present)
    (haddr : flags &&& addressBits = 0#64) (hhuge : flags &&& hugePage = 0#64) :
    ∀ (path : List (Bool × Fin 512)) (q : List (Fin 512)) (t : PhysFrame) (fresh : List Link)
      (m : Memory), q ++ path.map Prod.snd = w → (q = [] → (path.head?.map Prod.fst) ≠ some true) →
      Digging g root w m₀ q t fresh m →
      Ensures (Level g root w m₀ w) (descend g flags path t fresh m)
  | [], q, t, fresh, m, hqw, _, h => by
    rw [List.map_nil, List.append_nil] at hqw
    subst hqw
    exact h
  | (huge, i) :: path, q, t, fresh, m, hqw, hroot, h => by
    have hq : q ++ [i] <+: w := ⟨path.map Prod.snd, by rw [← hqw]; simp⟩
    have hr : q = [] → huge ≠ true := fun hnil hc => hroot hnil (by rw [hc]; rfl)
    refine .bind (nextTable_digs h hq hw (by rw [h.tracked]; exact hsize) hpres haddr hhuge hr)
      fun ⟨r, m'⟩ hlevel => ?_
    cases r with
    | error e => exact hlevel
    | ok r =>
      exact descend_digs hw hsize hpres haddr hhuge path (q ++ [i]) r.1 r.2 m'
        (by rw [← hqw]; simp) (fun hc => absurd hc (by simp)) hlevel

/-! ### `map_page` -/

/-- The page at `P` is mapped: the leaf entry `e` is written where there was none. -/
structure Mapped (g : AddressSpaceGeometry) (root : PhysFrame) (P : Place) (e : PageTableEntry)
    (m m' : Memory) : Prop where
  space : Space g m' root
  full : Full g m' root
  within : Within g root m m'
  extend : Extends g root m m'
  absent : entryAt g m root P = 0
  entries : ∀ Q : Place, Q.InZone →
    entryAt g m' root Q = if Q = P then e else entryAt g m root Q

variable {P : Place}

/-- With a leaf entry written, the tables on the way to it have entries. -/
lemma full_of_entry (ht : tableAt g m root P.1 = some t)
    (hfull : FullBut g m root P.1) (hpr : isPresent (m.table t P.2)) : Full g m root := by
  intro p f hp hne hw
  by_cases hpre : p <+: P.1
  · obtain ⟨s, hs⟩ := hpre
    cases s with
    | nil =>
      rw [List.append_nil] at hs
      rw [hs, ht] at hw
      cases hw
      exact ⟨P.2, hpr⟩
    | cons j s =>
      have hlong : tableAt g m root (p ++ [j]) ≠ none := by
        intro hnone
        rw [← hs, show p ++ j :: s = p ++ [j] ++ s by simp, tableAt_append, hnone] at ht
        cases ht
      rw [tableAt_concat, hw, Option.bind_some] at hlong
      refine ⟨j, ?_⟩
      by_contra habs
      exact hlong (next_of_absent (by simpa using habs))
  · exact hfull p f hp hne hpre hw

lemma Digging.write (h : Digging g root P.1 m₀ P.1 t fresh m)
    (hP : P.InZone) (habs : isPresent (m.table t P.2) = false) (hpr : isPresent e) :
    Mapped g root P e m₀ (m.setEntry t P.2 e) := by
  have hzero : entryAt g m root P = 0 := by
    rw [entryAt_of_table h.table]
    exact h.space.clear _ t _ hP.1 (Zone.leaf _ hP.2) h.table habs
  have htable : tableAt g (m.setEntry t P.2 e) root P.1 = some t := by
    rw [written_tableAt h.space hP h.table hP.1]
    exact h.table
  refine ⟨written_space h.space hP h.table fun hc => ?_, ?_,
    h.within.trans (written_within h.space hP h.table),
    h.extend.trans (written_extends h.space hP h.table habs), ?_, fun Q hQ => ?_⟩
  · rw [hpr] at hc
    cases hc
  · refine full_of_entry htable (written_fullBut h.space hP h.table h.full) ?_
    rw [setEntry_table, if_pos ⟨rfl, rfl⟩]
    exact hpr
  · rw [← h.entries P hP, hzero]
  · rw [written_entryAt h.space hP h.table hQ, h.entries Q hQ]

/-- The end of `map_page`: the page is mapped, or the memory is as it was. -/
def MapEnd (g : AddressSpaceGeometry) (root : PhysFrame) (v : VirtualAddress) (frame : PhysFrame)
    (flags : BitVec 64) (m : Memory) (r : Except VmmError Unit × Memory) : Prop :=
  match r.1 with
  | .ok () =>
    isValidPhysFrame g frame ∧ Mapped g root (place v) (mkEntry g frame flags) m r.2
  | .error _ => Same m r.2

variable {v : VirtualAddress}

/-- **`map_page`** writes the leaf entry of the page, or fails and leaves the memory as it was. -/
lemma mapPage_spec (hs : Space g m root) (hf : Full g m root)
    (hsize : m.pmm.trackedFrames ≤ 2 ^ 52) (hv : (place v).InZone)
    (frame : PhysFrame) (flags : BitVec 64) (domain : MappingDomain) :
    Ensures (MapEnd g root v frame (leafFlags flags domain) m)
      (mapPage g root v frame flags domain m) := by
  unfold mapPage
  split
  · exact .refl m
  split
  · exact .refl m
  rename_i hvalid
  split
  · exact .refl m
  have hinter : (present ||| writable ||| domain.intermediateFlags) &&& present = present ∧
      (present ||| writable ||| domain.intermediateFlags) &&& addressBits = 0#64 ∧
      (present ||| writable ||| domain.intermediateFlags) &&& hugePage = 0#64 := by
    cases domain <;> decide
  refine .bind (descend_digs hv.1 hsize hinter.1 hinter.2.1 hinter.2.2 (levels v) [] root [] m
    rfl (fun _ => by simp [levels]) (.start hs hf _)) fun ⟨r, m₁⟩ hr => ?_
  cases r with
  | error e => exact hr
  | ok r =>
    obtain ⟨pt, fresh⟩ := r
    have hd : Digging g root (place v).1 m (place v).1 pt fresh m₁ := hr
    change MapEnd g root v frame (leafFlags flags domain) m
      (mapLeaf g v frame flags domain pt fresh m₁)
    unfold mapLeaf
    split
    · exact hd.undo
    rename_i habs
    exact ⟨by simpa using hvalid, hd.write hv (Bool.eq_false_iff.mpr habs)
      (isPresent_mkEntry (leafFlags_present flags domain))⟩

/-! ### The links of `unmap_page` -/

/-- **The descent of `unmap_page`** finds the leaf table, or there is none. -/
lemma findTable_spec (hs : Space g m root) (hw : Path w) :
    ∀ (path : List (Bool × Fin 512)) (q : List (Fin 512)) (t : PhysFrame) (links : List Link),
      q ++ path.map Prod.snd = w → (q = [] → (path.head?.map Prod.fst) ≠ some true) →
      tableAt g m root q = some t → Chain g m root q links →
      match findTable g m.table path t links with
      | .error _ => tableAt g m root w = none
      | .ok (pt, links) => tableAt g m root w = some pt ∧ Chain g m root w links
  | [], q, t, links, hqw, _, ht, hc => by
    rw [List.map_nil, List.append_nil] at hqw
    subst hqw
    exact ⟨ht, hc⟩
  | (huge, i) :: path, q, t, links, hqw, hroot, ht, hc => by
    have hsplit : q ++ [i] ++ path.map Prod.snd = w := by rw [← hqw]; simp
    have hpath : Path (q ++ [i]) := hw.initial ⟨_, hsplit⟩
    unfold findTable
    by_cases hpr : isPresent (m.table t i) = false
    · rw [if_pos hpr]
      rw [← hsplit, tableAt_append, tableAt_concat, ht, Option.bind_some, next_of_absent hpr]
      rfl
    have hpr' : isPresent (m.table t i) = true := by simpa using hpr
    have hplain : (huge && isHuge (m.table t i)) = false :=
      hs.not_huge hpath ht hpr' fun hnil hc => hroot hnil (by rw [hc]; rfl)
    have hnext : tableAt g m root (q ++ [i]) = some (pointsToFrame g (m.table t i)) := by
      rw [tableAt_concat, ht]
      exact next_of_present hpr'
    rw [if_neg hpr, hplain, if_neg (by simp)]
    exact findTable_spec hs hw path (q ++ [i]) _ _ hsplit (fun hc => absurd hc (by simp)) hnext
      (.cons hc ht hnext)

/-- What a removal of tables keeps. -/
structure Trimmed (g : AddressSpaceGeometry) (root : PhysFrame) (m m' : Memory) : Prop where
  space : Space g m' root
  full : Full g m' root
  within : Within g root m m'
  extend : Extends g root m' m
  entries : ∀ P : Place, P.InZone → entryAt g m' root P = entryAt g m root P

/-- **Empty tables** are given back up to the first one that has an entry. -/
lemma reclaimEmpty_spec (hw : Path w) (hc : Chain g m₀ root q links) :
    ∀ m, Space g m root → FullBut g m root w → Chain g m root q links → q <+: w →
      (∀ p f, Path p → p <+: w → tableAt g m root p = some f → p <+: q) →
      Trimmed g root m (reclaimEmpty m links) := by
  induction hc with
  | nil =>
    intro m hs hfull _ _ hdeep
    refine ⟨hs, fun p f hp hne hat => ?_, .refl g root m, .refl g root m, fun _ _ => rfl⟩
    by_cases hpre : p <+: w
    · exact absurd (List.prefix_nil.mp (hdeep p f hp hpre hat)) hne
    · exact hfull p f hp hne hpre hat
  | cons hc0 h1 h2 ih =>
    rename_i q i t f links
    intro m hs hfull hch hqw hdeep
    obtain ⟨hch', ht, hf⟩ : Chain g m root q links ∧ tableAt g m root q = some t ∧
        tableAt g m root (q ++ [i]) = some f := by
      generalize hq' : q ++ [i] = q', hl' : (⟨t, i, f⟩ : Link) :: links = links' at hch
      cases hch with
      | nil => simp at hq'
      | cons hch' ht hf =>
        obtain ⟨rfl, hi⟩ := List.append_inj' hq' rfl
        cases hi
        cases hl'
        exact ⟨hch', ht, hf⟩
    have hpath : Path (q ++ [i]) := hw.initial hqw
    unfold reclaimEmpty
    split
    next hzero =>
      have hcut : CanCut g m root q i t f :=
        ⟨hs, hpath, ht, hf, presentCount_eq_zero.mp hzero⟩
      have hshort : ∀ p, p <+: q → p ≠ q ++ [i] := by
        rintro p hp rfl
        have hlen := hp.length_le
        rw [List.length_append, List.length_singleton] at hlen
        omega
      have htrim := ih (Link.release m ⟨t, i, f⟩) (release_space hcut)
        (release_fullBut hcut hqw hfull)
        (hch'.congr fun p hp => by
          rw [release_tableAt hcut (hpath.initial (hp.trans (List.prefix_append _ _))),
            if_neg (hshort p hp)])
        ((List.prefix_append q [i]).trans hqw) (fun p f' hp hpw hat => ?_)
      · exact ⟨htrim.space, htrim.full, (release_within hcut).trans htrim.within,
          htrim.extend.trans (release_extends hcut),
          fun P hP => (htrim.entries P hP).trans (release_entryAt hcut hP)⟩
      rw [release_tableAt hcut hp] at hat
      split at hat
      · cases hat
      rename_i hne
      exact (List.prefix_concat_iff.mp (hdeep p f' hp hpw hat)).resolve_left hne
    rename_i hsome
    refine ⟨hs, fun p f' hp hne hat => ?_, .refl g root m, .refl g root m, fun _ _ => rfl⟩
    by_cases hpre : p <+: w
    · rcases List.prefix_concat_iff.mp (hdeep p f' hp hpre hat) with rfl | hpq
      · rw [hf] at hat
        cases hat
        by_contra hno
        refine hsome (presentCount_eq_zero.mpr fun j => ?_)
        by_contra hj
        exact hno ⟨j, by simpa using hj⟩
      -- above the last table on the way, each table has the link to the next one
      obtain ⟨s, rfl⟩ := hpq
      obtain ⟨j, s', hs'⟩ : ∃ j s', s ++ [i] = j :: s' := by
        cases s with
        | nil => exact ⟨i, [], rfl⟩
        | cons j s => exact ⟨j, s ++ [i], rfl⟩
      rw [List.append_assoc, hs', show p ++ j :: s' = p ++ [j] ++ s' by simp, tableAt_append,
        tableAt_concat, hat, Option.bind_some] at hf
      refine ⟨j, ?_⟩
      by_contra habs
      rw [next_of_absent (by simpa using habs)] at hf
      cases hf
    · exact hfull p f' hp hne hpre hat

/-! ### `unmap_page` -/

/-- The leaf entries at the places `S` are cleared. -/
structure Cleared (g : AddressSpaceGeometry) (root : PhysFrame) (S : Place → Prop) (m m' : Memory) :
    Prop where
  space : Space g m' root
  full : Full g m' root
  within : Within g root m m'
  extend : Extends g root m' m
  gone : ∀ P : Place, P.InZone → S P → entryAt g m' root P = 0
  kept : ∀ P : Place, P.InZone → ¬S P → entryAt g m' root P = entryAt g m root P

lemma Cleared.trans {S S' : Place → Prop} (h : Cleared g root S m₁ m₂)
    (h' : Cleared g root S' m₂ m₃) : Cleared g root (fun P => S P ∨ S' P) m₁ m₃ where
  space := h'.space
  full := h'.full
  within := h.within.trans h'.within
  extend := h'.extend.trans h.extend
  gone P hP hS := by
    by_cases hS' : S' P
    · exact h'.gone P hP hS'
    · rw [h'.kept P hP hS', h.gone P hP (hS.resolve_right hS')]
  kept P hP hS := by
    rw [h'.kept P hP fun hc => hS (.inr hc), h.kept P hP fun hc => hS (.inl hc)]

lemma Cleared.mono {S S' : Place → Prop} (h : Cleared g root S m m') (hS : ∀ P, S P ↔ S' P) :
    Cleared g root S' m m' :=
  ⟨h.space, h.full, h.within, h.extend, fun P hP hc => h.gone P hP ((hS P).mpr hc),
    fun P hP hc => h.kept P hP fun hn => hc ((hS P).mp hn)⟩

section

variable (hs : Space g m root)

include hs

lemma Cleared.of_absent (hf : Full g m root)
    (h : entryAt g m root P = 0) : Cleared g root (· = P) m m :=
  ⟨hs, hf, .refl g root m, .refl g root m, fun _ _ he => he ▸ h, fun _ _ _ => rfl⟩

/-- **`unmap_page`** clears the leaf entry of the page. -/
lemma unmapPage_spec (hf : Full g m root) (hv : (place v).InZone) (hcan : isCanonical g v) :
    Cleared g root (· = place v) m (unmapPage g root v m).2 := by
  have hfind := findTable_spec hs hv.1 (levels v) [] root [] rfl (fun _ => by simp [levels])
    rfl .nil
  unfold unmapPage
  rw [if_neg (by rw [hcan]; simp)]
  split
  next he =>
    rw [he] at hfind
    exact .of_absent hs hf (entryAt_of_none hfind)
  rename_i pt links he
  rw [he] at hfind
  obtain ⟨ht, hc⟩ := hfind
  dsimp only
  split
  next habs =>
    refine .of_absent hs hf ((entryAt_of_table ht).trans ?_)
    exact hs.clear _ pt _ hv.1 (Zone.leaf _ hv.2) ht habs
  have hs1 : Space g (m.setEntry pt (place v).2 0) root :=
    written_space hs hv ht fun _ => rfl
  have htrim := reclaimEmpty_spec hv.1 hc (m.setEntry pt (place v).2 0) hs1
    (written_fullBut hs hv ht (hf.but _))
    (hc.congr fun p hp => written_tableAt hs hv ht (hv.1.initial hp)) (List.prefix_refl _)
    fun _ _ _ hp _ => hp
  refine ⟨htrim.space, htrim.full, (written_within hs hv ht).trans htrim.within,
    htrim.extend.trans (erased_extends hs hv ht), fun P hP he => ?_, fun P hP he => ?_⟩
  · exact (htrim.entries P hP).trans ((written_entryAt hs hv ht hP).trans (if_pos he))
  · exact (htrim.entries P hP).trans ((written_entryAt hs hv ht hP).trans (if_neg he))

section

variable (hv : (place v).InZone)

include hv

/-- **The answer of `unmap_page`** is the frame of the page; a failure changes nothing. -/
lemma unmapPage_answer (hcan : isCanonical g v) :
    (isPresent (entryAt g m root (place v)) ∧
      (unmapPage g root v m).1 = .ok (pointsToFrame g (entryAt g m root (place v)))) ∨
      ∃ e, unmapPage g root v m = (.error e, m) := by
  have hfind := findTable_spec hs hv.1 (levels v) [] root [] rfl (fun _ => by simp [levels])
    rfl .nil
  unfold unmapPage
  rw [if_neg (by rw [hcan]; simp)]
  split
  · exact .inr ⟨_, rfl⟩
  rename_i he
  rw [he] at hfind
  rw [entryAt_of_table hfind.1]
  dsimp only
  split
  · exact .inr ⟨_, rfl⟩
  rename_i hpr
  exact .inl ⟨Bool.eq_true_of_not_eq_false hpr, rfl⟩

/-! ### Translation -/

/-- The walk to a page of the zone ends at its leaf entry, or at an absent entry above it. -/
lemma walk_inZone (he : entryAt g m root (place v) = e) :
    ∀ (path : List (Bool × Fin 512)) (q : List (Fin 512)) (t : PhysFrame) (size : ℕ),
      q ++ path.map Prod.snd = (place v).1 → (q = [] → path.head?.map Prod.fst ≠ some true) →
      tableAt g m root q = some t →
      translateFrom g m.table v path t size =
          (if isPresent e then .ok (pointsToFrame g e) else .error .notMapped) ∧
        flagsFrom g m.table v path t = if isPresent e then .ok e else .error .notMapped
  | [], q, t, size, hq, _, ht => by
    rw [List.map_nil, List.append_nil] at hq
    subst hq
    rw [entryAt_of_table ht] at he
    subst he
    exact ⟨rfl, rfl⟩
  | (huge, i) :: path, q, t, size, hq, hroot, ht => by
    have hsplit : q ++ [i] ++ path.map Prod.snd = (place v).1 := by rw [← hq]; simp
    unfold translateFrom flagsFrom
    by_cases hpr : isPresent (m.table t i) = false
    · have hnone : tableAt g m root (place v).1 = none := by
        rw [← hsplit, tableAt_append, tableAt_concat, ht, Option.bind_some, next_of_absent hpr]
        rfl
      rw [entryAt_of_none hnone] at he
      rw [if_pos hpr, if_pos hpr, ← he, isPresent_zero]
      exact ⟨rfl, rfl⟩
    have hpr' : isPresent (m.table t i) = true := by simpa using hpr
    have hplain : ¬(huge && isHuge (m.table t i)) := by
      rw [hs.not_huge (hv.1.initial ⟨_, hsplit⟩) ht hpr' fun hnil hc =>
        hroot hnil (by rw [hc]; rfl)]
      simp
    rw [if_neg hpr, if_neg hpr, if_neg hplain, if_neg hplain]
    refine walk_inZone he path (q ++ [i]) _ _ hsplit (fun hc => absurd hc (by simp)) ?_
    rw [tableAt_concat, ht]
    exact next_of_present hpr'

/-- **The translation** of a page of the zone is read off its leaf entry. -/
lemma translate_inZone (hcan : isCanonical g v) : translate g m.table root v =
      if isPresent (entryAt g m root (place v)) then
        .ok (pointsToFrame g (entryAt g m root (place v))) else .error .notMapped := by
  rw [Vmm.translate, if_neg (by rw [hcan]; simp)]
  exact (walk_inZone hs hv rfl (levels v) [] root _ rfl (fun _ => by simp [levels]) rfl).1

lemma getPageFlags_inZone (hcan : isCanonical g v) : getPageFlags g m.table root v =
      if isPresent (entryAt g m root (place v)) then .ok (entryAt g m root (place v))
      else .error .notMapped := by
  rw [getPageFlags, if_neg (by rw [hcan]; simp)]
  exact (walk_inZone hs hv rfl (levels v) [] root 0 rfl (fun _ => by simp [levels]) rfl).2

end

end

/-! ### Two trees with the same leaf entries -/

lemma exists_entry (hf : Full g m root) :
    ∀ (n : ℕ) (p : List (Fin 512)) (f : PhysFrame), Path p → p ≠ [] → p.length + n = 3 →
      tableAt g m root p = some f →
      (∃ P : Place, P.InZone ∧ p <+: P.1 ∧ isPresent (entryAt g m root P)) ∨
        ∃ q i, Path q ∧ p <+: q ∧ ¬Zone.Entry q i
  | 0, p, f, hp, hne, hn, hw => by
    obtain ⟨i, hi⟩ := hf p f hp hne hw
    refine .inl ⟨(p, i), ⟨hp, by simpa using hn⟩, List.prefix_refl _, ?_⟩
    rw [entryAt_of_table hw]
    exact hi
  | n + 1, p, f, hp, hne, hn, hw => by
    obtain ⟨i, hi⟩ := hf p f hp hne hw
    by_cases hin : Zone.Entry p i
    · have hp' : Path (p ++ [i]) := path_concat.mpr ⟨hp, by omega, hin⟩
      have hpre : p <+: p ++ [i] := List.prefix_append _ _
      rcases exists_entry hf n (p ++ [i]) _ hp' (by simp)
        (by rw [List.length_append, List.length_singleton]; omega)
        (by rw [tableAt_concat, hw]; exact next_of_present hi) with
        ⟨P, hP, hpP, hpr⟩ | ⟨q, j, hq, hpq, hj⟩
      · exact .inl ⟨P, hP, hpre.trans hpP, hpr⟩
      · exact .inr ⟨q, j, hq, hpre.trans hpq, hj⟩
    · exact .inr ⟨p, i, hp, List.prefix_refl _, hin⟩

/-- A tree and another one that has its leaf entries, both parts of the tree of `m`. -/
structure Alike (g : AddressSpaceGeometry) (root : PhysFrame) (m m₁ m₂ : Memory) : Prop where
  space : Space g m₁ root
  space₂ : Space g m₂ root
  full : Full g m₁ root
  extend₁ : Extends g root m₁ m
  extend₂ : Extends g root m₂ m
  entries : ∀ P : Place, P.InZone → isPresent (entryAt g m₁ root P) →
    entryAt g m₂ root P = entryAt g m₁ root P

section

variable (h : Alike g root m m₁ m₂)

include h

lemma Alike.tableAt {p : List (Fin 512)} (hp : Path p)
    (hw : tableAt g m₁ root p = some f) : AddressSpace.tableAt g m₂ root p = some f := by
  by_cases hne : p = []
  · subst hne
    exact hw
  -- what is below the table is in the other tree too, and so is its way
  have hsome : ∃ q t, p <+: q ∧ AddressSpace.tableAt g m₂ root q = some t := by
    have hlen := hp.length_le
    rcases exists_entry h.full (3 - p.length) p f hp hne (by omega) hw with
      ⟨P, hP, hpre, hpr⟩ | ⟨q, i, hq, hpre, hi⟩
    · rw [← h.entries P hP hpr] at hpr
      cases hw2 : AddressSpace.tableAt g m₂ root P.1 with
      | none =>
        rw [entryAt_of_none hw2, isPresent_zero] at hpr
        cases hpr
      | some t => exact ⟨P.1, t, hpre, hw2⟩
    have hqne : q ≠ [] := fun hnil => hne (List.prefix_nil.mp (hnil ▸ hpre))
    obtain ⟨t, ht, _⟩ := h.space₂.solid q i hq hqne hi
    exact ⟨q, t, hpre, ht⟩
  obtain ⟨q, t, hpre, ht⟩ := hsome
  obtain ⟨f', hf'⟩ := walk_isSome_initial ht hpre
  have h1 := h.extend₁.table p f hp hw
  have h2 := h.extend₂.table p f' hp hf'
  rw [h1] at h2
  cases h2
  exact hf'

lemma Alike.present {p : List (Fin 512)}
    (hp : Path p) (hin : Zone.Entry p i) (hw : AddressSpace.tableAt g m₁ root p = some f)
    (hi : isPresent (m₁.table f i)) : m₂.table f i = m₁.table f i := by
  have hw2 := h.tableAt hp hw
  by_cases hlen : p.length = 3
  · have he := h.entries (p, i) ⟨hp, hlen⟩ (by rw [entryAt_of_table hw]; exact hi)
    rw [entryAt_of_table hw2, entryAt_of_table hw] at he
    exact he
  have hlt := hp.length_le
  have hp' : Path (p ++ [i]) := path_concat.mpr ⟨hp, by omega, hin⟩
  have hnext : AddressSpace.tableAt g m₁ root (p ++ [i]) =
      some (pointsToFrame g (m₁.table f i)) := by
    rw [tableAt_concat, hw]
    exact next_of_present hi
  have hnext2 := h.tableAt hp' hnext
  rw [tableAt_concat, hw2, Option.bind_some] at hnext2
  rw [← h.extend₂.entry p f i hp hw2 (isPresent_of_next hnext2), h.extend₁.entry p f i hp hw hi]

/-- **The trees are the same**: `m'` was made from `m` by a change that left the leaf entries
alone. -/
lemma Alike.same (h' : Alike g root m m₂ m₁)
    (hw : Within g root m₁ m₂) : (∀ f, Free m₂.pmm f ↔ Free m₁.pmm f) ∧
      ∀ f, ¬Free m₁.pmm f → m₂.table f = m₁.table f := by
  have hown : ∀ f, Own g m₂ root f ↔ Own g m₁ root f := fun f =>
    ⟨fun ⟨p, hp, ht⟩ => ⟨p, hp, h'.tableAt hp ht⟩, fun ⟨p, hp, ht⟩ => ⟨p, hp, h.tableAt hp ht⟩⟩
  refine ⟨fun f => ⟨fun hf => ?_, fun hf => ?_⟩, fun f hf => ?_⟩
  · rcases hw.same f (.inr hf) with ho | hf1
    · exact absurd hf (h'.space.own_not_free ((hown f).mpr ho))
    · exact hf1
  · rcases hw.supply f (.inl hf) with hf2 | ⟨ho, _⟩
    · exact hf2
    · exact absurd hf (h.space.own_not_free ((hown f).mp ho))
  by_cases ho : Own g m₁ root f
  · obtain ⟨p, hp, ht⟩ := ho
    funext i
    by_cases hin : Zone.Entry p i
    · by_cases hi : isPresent (m₁.table f i) = true
      · exact h.present hp hin ht hi
      have ht2 := h.tableAt hp ht
      have hi1 : isPresent (m₁.table f i) = false := by simpa using hi
      have hi2 : isPresent (m₂.table f i) = false := by
        by_contra hc
        have he := h'.present hp hin ht2 (by simpa using hc)
        rw [← he, hi1] at hc
        exact hc rfl
      rw [h.space.clear p f i hp hin ht hi1, h'.space.clear p f i hp hin ht2 hi2]
    · exact (hw.outer p f i hp hin ht).2
  · exact hw.table f ho hf

end

end ProjectZero.Mm.Paging
