import ProjectZero.Mm.Paging

/-! # The page-table engine as a partial map

The zone of `map_page` and `unmap_page` is all of an address space that is not under a huge page.
Page tables that are well formed there (`Built`) stay so along every run of calls (`Reached`), and
the huge pages stay where they were. What `translate` and `get_page_flags` say of a page of the zone
is what its leaf entry says; a page under a huge page keeps its frame and its flags, and can neither
be mapped nor unmapped. -/

namespace ProjectZero.Mm.Engine

open Lib.Radix Tables Mm.Pmm Vmm AddressSpace Changes Paging

variable {g : AddressSpaceGeometry} {m m' m₀ : Memory} {root : PhysFrame} {v : VirtualAddress}

/-! ### All that is not under a huge page -/

/-- The entry `i` of the table at `p` is not a huge page. -/
def PlainEntry (g : AddressSpaceGeometry) (m : Memory) (root : PhysFrame) (p : List (Fin 512))
    (i : Fin 512) : Prop :=
  p ≠ [] → p.length < 3 → ∀ f, tableAt g m root p = some f → isPresent (m.table f i) →
    isHuge (m.table f i) = false

/-- A way down that meets no huge page. -/
def PlainPath (g : AddressSpaceGeometry) (m : Memory) (root : PhysFrame) (p : List (Fin 512)) :
    Prop := p.length ≤ 3 ∧ ∀ q i, q ++ [i] <+: p → PlainEntry g m root q i

variable {p : List (Fin 512)} {i : Fin 512}

lemma plainPath_concat : PlainPath g m root (p ++ [i]) ↔
    PlainPath g m root p ∧ p.length < 3 ∧ PlainEntry g m root p i := by
  unfold PlainPath
  rw [List.length_append, List.length_singleton]
  constructor
  · rintro ⟨hlen, hall⟩
    exact ⟨⟨by omega, fun q j hq => hall q j (hq.trans (List.prefix_append _ _))⟩, by omega,
      hall p i (List.prefix_refl _)⟩
  rintro ⟨⟨-, hall⟩, hlen, hi⟩
  refine ⟨by omega, fun q j hq => ?_⟩
  rcases List.prefix_concat_iff.mp hq with he | hq
  · obtain ⟨rfl, hj⟩ := List.append_inj' he rfl
    cases hj
    exact hi
  · exact hall q j hq

/-- **The zone of an address space** without what is under its huge pages. -/
abbrev plainZone (g : AddressSpaceGeometry) (m : Memory) (root : PhysFrame) : Zone where
  Path := PlainPath g m root
  Entry := PlainEntry g m root
  Held pmm f := ¬Free pmm f
  nil := ⟨by simp, fun q i h => absurd (List.prefix_nil.mp h) (by simp)⟩
  concat := plainPath_concat
  leaf _ hp _ hlt := absurd hlt (by omega)
  not_free h := h
  of_taken h := h.not_free
  congr h hf hc := hf ((h _).mp hc)

/-- **Well-formed page tables**: no frame is a table at two places, absent entries are zero, no
table is in a free frame, and none below the root is empty. -/
structure Built (g : AddressSpaceGeometry) (m : Memory) (root : PhysFrame) : Prop where
  tree : ∀ p q f, PlainPath g m root p → PlainPath g m root q → tableAt g m root p = some f →
    tableAt g m root q = some f → p = q
  clear : ∀ p f i, PlainPath g m root p → PlainEntry g m root p i → tableAt g m root p = some f →
    isPresent (m.table f i) = false → m.table f i = 0
  used : ∀ p f, PlainPath g m root p → tableAt g m root p = some f → ¬Free m.pmm f
  nonempty : ∀ p f, PlainPath g m root p → p ≠ [] → tableAt g m root p = some f →
    ∃ i, isPresent (m.table f i)

lemma not_plainEntry (h : ¬PlainEntry g m root p i) :
    p ≠ [] ∧ p.length < 3 ∧ ∃ f, tableAt g m root p = some f ∧ isPresent (m.table f i) ∧
      isHuge (m.table f i) := by
  unfold PlainEntry at h
  push Not at h
  obtain ⟨hne, hlt, f, hw, hpr, hhuge⟩ := h
  exact ⟨hne, hlt, f, hw, hpr, by simpa using hhuge⟩

lemma Built.space (h : Built g m root) : @Space (plainZone g m root) g m root :=
  letI := plainZone g m root
  { tree := h.tree
    plain := fun p f i hp hne hw hi =>
      (plainPath_concat.mp hp).2.2 hne (plainPath_concat.mp hp).2.1 f hw hi
    clear := h.clear
    rootUsed := h.used [] root path_nil rfl
    taken := fun p f hp _ hw => h.used p f hp hw
    solid := fun p i _ _ hi => by
      obtain ⟨_, _, f, hw, hpr, _⟩ := not_plainEntry hi
      exact ⟨f, hw, hpr⟩ }

/-! ### Memories reached from a start -/

/-- The tables of `m` are well formed in the zone of `m₀`, from which they were made. -/
structure Reached (g : AddressSpaceGeometry) (root : PhysFrame) (m₀ m : Memory) : Prop where
  space : @Space (plainZone g m₀ root) g m root
  full : @Full (plainZone g m₀ root) g m root
  within : @Within (plainZone g m₀ root) g root m₀ m

lemma Built.reached (h : Built g m root) : Reached g root m m :=
  ⟨h.space, h.nonempty, @Within.refl (plainZone g m root) g root m⟩

lemma Reached.huge (h : Reached g root m₀ m)
    (hp : PlainPath g m₀ root p) (hi : ¬PlainEntry g m₀ root p i) :
    ∃ f, tableAt g m₀ root p = some f ∧ tableAt g m root p = some f ∧
      m.table f i = m₀.table f i ∧ isPresent (m.table f i) ∧ isHuge (m.table f i) := by
  let _ : Zone := plainZone g m₀ root
  obtain ⟨_, _, f, hw, hpr, hhuge⟩ := not_plainEntry hi
  obtain ⟨hw', he⟩ := h.within.outer p f i hp hi hw
  exact ⟨f, hw, hw', he, by rw [he]; exact hpr, by rw [he]; exact hhuge⟩

lemma Reached.entry_iff (h : Reached g root m₀ m)
    (hp : PlainPath g m₀ root p) : PlainEntry g m root p i ↔ PlainEntry g m₀ root p i := by
  constructor
  · intro hm
    by_contra hi
    obtain ⟨hne, hlt, _⟩ := not_plainEntry hi
    obtain ⟨f, _, hw, _, hpr, hhuge⟩ := h.huge hp hi
    rw [hm hne hlt f hw hpr] at hhuge
    cases hhuge
  let _ : Zone := plainZone g m₀ root
  intro hi hne hlt f hw hpr
  exact h.space.plain p f i (plainPath_concat.mpr ⟨hp, hlt, hi⟩) hne hw hpr

lemma plainPath_iff (h : ∀ p i, PlainPath g m₀ root p →
    (PlainEntry g m root p i ↔ PlainEntry g m₀ root p i)) (p : List (Fin 512)) :
    PlainPath g m root p ↔ PlainPath g m₀ root p := by
  induction p using List.reverseRecOn with
  | nil => exact ⟨fun _ => (plainZone g m₀ root).nil, fun _ => (plainZone g m root).nil⟩
  | append_singleton p i ih =>
    rw [plainPath_concat, plainPath_concat, ih]
    constructor
    · rintro ⟨hp, hlt, hi⟩
      exact ⟨hp, hlt, (h p i hp).mp hi⟩
    rintro ⟨hp, hlt, hi⟩
    exact ⟨hp, hlt, (h p i hp).mpr hi⟩

lemma built_of_space (hs : @Space (plainZone g m₀ root) g m root)
    (hf : @Full (plainZone g m₀ root) g m root) (h : ∀ p i, PlainPath g m₀ root p →
      (PlainEntry g m root p i ↔ PlainEntry g m₀ root p i)) : Built g m root :=
  letI := plainZone g m₀ root
  { tree := fun p q f hp hq hw hw' =>
      hs.tree p q f ((plainPath_iff h p).mp hp) ((plainPath_iff h q).mp hq) hw hw'
    clear := fun p f i hp hi hw habs => hs.clear p f i ((plainPath_iff h p).mp hp)
      ((h p i ((plainPath_iff h p).mp hp)).mp hi) hw habs
    used := fun p _ hp hw => hs.own_not_free ⟨p, (plainPath_iff h p).mp hp, hw⟩
    nonempty := fun p f hp hne hw => hf p f ((plainPath_iff h p).mp hp) hne hw }

/-- **The tables stay well formed.** -/
lemma Reached.built (h : Reached g root m₀ m) : Built g m root :=
  built_of_space h.space h.full fun _ _ hp => h.entry_iff hp

lemma Reached.same (h : Reached g root m₀ m) (hs : Same m m') : Reached g root m₀ m' :=
  letI := plainZone g m₀ root
  ⟨(hs.agree h.space).space h.space, (hs.agree h.space).full h.full,
    h.within.trans (hs.within h.space)⟩

/-! ### What an address space says of a page -/

/-- The frame of a page and its flags, without the bits of the address. -/
def pageAt (g : AddressSpaceGeometry) (m : Memory) (root : PhysFrame) (v : VirtualAddress) :
    Option (PhysFrame × BitVec 64) :=
  match translate g m.table root v, getPageFlags g m.table root v with
  | .ok f, .ok flags => some (f, flags &&& ~~~physicalMask g)
  | _, _ => none

/-- What a leaf entry says of its page. -/
def decoded (g : AddressSpaceGeometry) (e : PageTableEntry) : Option (PhysFrame × BitVec 64) :=
  if isPresent e then some (pointsToFrame g e, e &&& ~~~physicalMask g) else none

/-- **A page of the zone** is what its leaf entry says. -/
lemma pageAt_of_inZone [Zone] (hs : Space g m root) (hv : (place v).InZone)
    (hcan : isCanonical g v) : pageAt g m root v = decoded g (entryAt g m root (place v)) := by
  rw [pageAt, translate_inZone hs hv hcan, getPageFlags_inZone hs hv hcan, decoded]
  cases isPresent (entryAt g m root (place v)) <;> rfl

/-! ### Pages under a huge page -/

lemma walk_through [Zone] (hs : Space g m root) {f : PhysFrame} (rest : List (Bool × Fin 512)) :
    ∀ (pre : List (Bool × Fin 512)) (q : List (Fin 512)) (t : PhysFrame),
      tableAt g m root q = some t → tableAt g m root (q ++ pre.map Prod.snd) = some f →
      Path (q ++ pre.map Prod.snd) → (q = [] → pre.head?.map Prod.fst ≠ some true) →
      (∀ size, translateFrom g m.table v (pre ++ rest) t size =
        translateFrom g m.table v rest f (size / 512 ^ pre.length)) ∧
      flagsFrom g m.table v (pre ++ rest) t = flagsFrom g m.table v rest f ∧
      (∀ links, ∃ links', findTable g m.table (pre ++ rest) t links =
        findTable g m.table rest f links') ∧
      ∀ flags fresh, descend g flags (pre ++ rest) t fresh m = descend g flags rest f fresh m
  | [], q, t, ht, hf, _, _ => by
    rw [List.map_nil, List.append_nil, ht] at hf
    cases hf
    refine ⟨fun size => ?_, rfl, fun links => ⟨links, rfl⟩, fun _ _ => rfl⟩
    rw [List.length_nil, Nat.pow_zero, Nat.div_one]
    rfl
  | (huge, i) :: pre, q, t, ht, hf, hp, hroot => by
    have hsplit : q ++ ((huge, i) :: pre).map Prod.snd = q ++ [i] ++ pre.map Prod.snd := by simp
    rw [hsplit] at hf hp
    obtain ⟨t', ht'⟩ := walk_isSome_initial hf (List.prefix_append _ _)
    obtain ⟨t0, ht0, hnext⟩ := walk_concat_eq_some.mp ht'
    have heq : some t = some t0 := ht.symm.trans ht0
    cases heq
    have hpr : isPresent (m.table t i) := isPresent_of_next hnext
    have hpr' : ¬isPresent (m.table t i) = false := by rw [hpr]; simp
    have hplain : ¬(huge && isHuge (m.table t i)) := by
      rw [hs.not_huge (hp.initial (List.prefix_append _ _)) ht hpr fun hnil hc =>
        hroot hnil (by rw [hc]; rfl)]
      simp
    rw [next_of_present hpr] at hnext
    cases hnext
    obtain ⟨h1, h2, h3, h4⟩ := walk_through hs rest pre (q ++ [i]) _ ht' hf hp
      fun hc => absurd hc (by simp)
    refine ⟨fun size => ?_, ?_, fun links => ?_, fun flags fresh => ?_⟩
    · rw [List.cons_append, translateFrom, if_neg (by simp [hpr]), if_neg hplain, h1, List.length_cons,
        Nat.pow_succ', Nat.div_div_eq_div_mul]
    · rw [List.cons_append, flagsFrom, if_neg (by simp [hpr]), if_neg hplain, h2]
    · rw [List.cons_append, findTable, if_neg (by simp [hpr]), if_neg hplain]
      exact h3 _
    rw [List.cons_append, descend, nextTable, if_neg (by simp [hpr]), if_neg hplain]
    exact h4 flags fresh

lemma exists_huge (h : ¬PlainPath g m₀ root (place v).1) : ∃ pre i rest,
    levels v = pre ++ (true, i) :: rest ∧ pre.head?.map Prod.fst ≠ some true ∧
      PlainPath g m₀ root (pre.map Prod.snd) ∧ ¬PlainEntry g m₀ root (pre.map Prod.snd) i := by
  have h1 : PlainPath g m₀ root ([] ++ [p4Index v]) :=
    plainPath_concat.mpr ⟨(plainZone g m₀ root).nil, by simp, fun hne => absurd rfl hne⟩
  by_cases h3 : PlainEntry g m₀ root [p4Index v] (p3Index v)
  · have h2 : PlainPath g m₀ root ([p4Index v] ++ [p3Index v]) :=
      plainPath_concat.mpr ⟨h1, by simp, h3⟩
    refine ⟨[(false, p4Index v), (true, p3Index v)], p2Index v, [], rfl, by simp, h2, fun hi => ?_⟩
    exact h (plainPath_concat (p := [p4Index v, p3Index v]) |>.mpr ⟨h2, by simp, hi⟩)
  · exact ⟨[(false, p4Index v)], p3Index v, [(true, p2Index v)], rfl, by simp, h1, h3⟩

section

variable (h : Reached g root m₀ m)

include h

/-- What `translate` and `get_page_flags` say of a page under a huge page. -/
lemma Reached.pageAt_huge {pre rest : List (Bool × Fin 512)}
    (hv : levels v = pre ++ (true, i) :: rest)
    (hhead : pre.head?.map Prod.fst ≠ some true) (hp : PlainPath g m₀ root (pre.map Prod.snd))
    (hi : ¬PlainEntry g m₀ root (pre.map Prod.snd) i) {f : PhysFrame}
    (hf : tableAt g m₀ root (pre.map Prod.snd) = some f) :
    pageAt g m root v = if isCanonical g v = false then none else
      some (pointsToFrame g (m₀.table f i) / (2 ^ 39 / 512 ^ pre.length) *
          (2 ^ 39 / 512 ^ pre.length) + v % (2 ^ 39 / 512 ^ pre.length) / pageSize * pageSize,
        m₀.table f i &&& ~~~physicalMask g) := by
  let _ : Zone := plainZone g m₀ root
  obtain ⟨f', hf', hw, he, hpr, hhuge⟩ := h.huge hp hi
  rw [hf] at hf'
  cases hf'
  obtain ⟨htr, hfl, -, -⟩ := walk_through (v := v) h.space ((true, i) :: rest) pre [] root rfl hw hp
    fun _ => hhead
  have hpr' : ¬isPresent (m.table f i) = false := by rw [hpr]; simp
  unfold pageAt Vmm.translate getPageFlags
  by_cases hcan : isCanonical g v = false
  · rw [if_pos hcan, if_pos hcan, if_pos hcan]
  rw [if_neg hcan, if_neg hcan, if_neg hcan, hv, htr, hfl, translateFrom, flagsFrom, if_neg hpr',
    if_neg hpr', if_pos (by simpa using hhuge),
    if_pos (by simpa using hhuge), he]

lemma Reached.pageAt_under_huge (hb : Built g m₀ root)
    (hv : ¬PlainPath g m₀ root (place v).1) : pageAt g m root v = pageAt g m₀ root v := by
  obtain ⟨pre, i, rest, hlev, hhead, hp, hi⟩ := exists_huge hv
  obtain ⟨f, hf, _⟩ := h.huge hp hi
  rw [h.pageAt_huge hlev hhead hp hi hf, hb.reached.pageAt_huge hlev hhead hp hi hf]

lemma Reached.mapPage_under_huge
    (hv : ¬PlainPath g m₀ root (place v).1) (frame : PhysFrame) (flags : BitVec 64)
    (domain : MappingDomain) : ∃ e, mapPage g root v frame flags domain m = .ok (.error e, m) := by
  let _ : Zone := plainZone g m₀ root
  obtain ⟨pre, i, rest, hlev, hhead, hp, hi⟩ := exists_huge hv
  obtain ⟨f, _, hw, _, hpr, hhuge⟩ := h.huge hp hi
  unfold mapPage
  iterate 3
    split
    · exact ⟨_, rfl⟩
  obtain ⟨-, -, -, hd⟩ := walk_through (v := v) h.space ((true, i) :: rest) pre [] root rfl hw hp
    fun _ => hhead
  refine ⟨.hugePageUnsupported, ?_⟩
  dsimp only
  rw [hlev, hd, descend, nextTable, if_neg (by simp [hpr]), if_pos (by simpa using hhuge)]
  rfl

lemma Reached.unmapPage_under_huge
    (hv : ¬PlainPath g m₀ root (place v).1) : ∃ e, unmapPage g root v m = (.error e, m) := by
  let _ : Zone := plainZone g m₀ root
  obtain ⟨pre, i, rest, hlev, hhead, hp, hi⟩ := exists_huge hv
  obtain ⟨f, _, hw, _, hpr, hhuge⟩ := h.huge hp hi
  unfold unmapPage
  split
  · exact ⟨_, rfl⟩
  obtain ⟨-, -, hfind, -⟩ := walk_through (v := v) h.space ((true, i) :: rest) pre [] root rfl
    hw hp fun _ => hhead
  obtain ⟨links, hlinks⟩ := hfind []
  refine ⟨.hugePageUnsupported, ?_⟩
  rw [hlev, hlinks, findTable, if_neg (by simp [hpr]), if_pos (by simpa using hhuge)]

end

end ProjectZero.Mm.Engine
