import ProjectZero.Mm.Engine
import ProjectZero.Mm.Inventory

/-! # `map_page` and `unmap_page` on the partial map

The pages of an address space are mapped to frames and flags. A call of `map_page` or `unmap_page`
on well-formed tables does to this map what its name says, or fails and changes nothing
(`refines_iff`), unless two pages share their leaf entry or the flags hold bits of the address. The
first happens where the processor reports linear addresses of more than 48 bits: the walk has four
levels and does not look at the bits above, so a page and the page at the other end of the address
space are one. -/

namespace ProjectZero.Mm.PartialMap

open Lib.Radix Lib.Run Tables Mm.Pmm Vmm AddressSpace Changes Paging Engine Inventory PageTableFlags

variable {g : AddressSpaceGeometry} {m m' m₀ : Memory} {root : PhysFrame}

/-! ### Pages -/

/-- A page: it starts at a canonical address, at a multiple of its size. -/
structure Page (g : AddressSpaceGeometry) where
  addr : ℕ
  lt : addr < 2 ^ 64
  aligned : addr % pageSize = 0
  canonical : isCanonical g addr
  deriving DecidableEq

lemma place_eq_iff {v w : ℕ} : place v = place w ↔ v / 2 ^ 12 % 2 ^ 36 = w / 2 ^ 12 % 2 ^ 36 := by
  have hindex : ∀ n k, Fin.ofNat 512 (v >>> n) = Fin.ofNat 512 (w >>> k) ↔
      v / 2 ^ n % 512 = w / 2 ^ k % 512 := fun n k => by
    rw [Fin.ext_iff, ← Nat.shiftRight_eq_div_pow, ← Nat.shiftRight_eq_div_pow]
    exact Iff.rfl
  simp only [place, Prod.mk.injEq, List.cons.injEq, and_true, p4Index, p3Index, p2Index, p1Index,
    hindex]
  omega

lemma Page.ext_addr {p q : Page g} (h : p.addr = q.addr) : p = q := by
  cases p
  cases q
  cases h
  rfl

/-- **Pages have entries of their own** only where the addresses have 48 bits. -/
lemma place_unique_iff (page : Page g) :
    (∀ p : Page g, place p.addr = place page.addr → p = page) ↔ g.virtualBits = 48 := by
  have hal : page.addr % 4096 = 0 := page.aligned
  constructor
  · intro hall
    by_contra hne
    -- the lowest and the highest page with the same bits 12 to 47 are two
    have hwide : 2 ^ 48 ≤ 2 ^ (g.virtualBits - 1) :=
      Nat.pow_le_pow_right (by decide) (by have := g.virtualBits_range.1; omega)
    have hlow : isCanonical g (page.addr % 2 ^ 48) :=
      (isCanonical_iff g (by omega)).mpr (.inl (by omega))
    have hhigh : isCanonical g (2 ^ 64 - 2 ^ 48 + page.addr % 2 ^ 48) :=
      (isCanonical_iff g (by omega)).mpr (.inr (by omega))
    have h1 := hall ⟨_, by omega, by unfold pageSize; omega, hlow⟩
      (place_eq_iff.mpr (by dsimp only; omega))
    have h2 := hall ⟨_, by omega, by unfold pageSize; omega, hhigh⟩
      (place_eq_iff.mpr (by dsimp only; omega))
    have haddr := congrArg Page.addr (h1.trans h2.symm)
    dsimp only at haddr
    omega
  intro hbits p hp
  have hpal : p.addr % 4096 = 0 := p.aligned
  have hcan := (isCanonical_iff g page.lt).mp page.canonical
  have hpcan := (isCanonical_iff g p.lt).mp p.canonical
  have hsame := place_eq_iff.mp hp
  have hlt := page.lt
  have hplt := p.lt
  rw [hbits] at hcan hpcan
  exact Page.ext_addr (by omega)

/-! ### Calls -/

/-- The partial map from pages to frames and flags. -/
abbrev Mapping (g : AddressSpaceGeometry) := Page g → Option (PhysFrame × BitVec 64)

/-- What the tables under `root` say of the pages. -/
def mapping (g : AddressSpaceGeometry) (m : Memory) (root : PhysFrame) : Mapping g :=
  fun page => pageAt g m root page.addr

/-- A call of the engine. -/
inductive Call (g : AddressSpaceGeometry)
  | map (page : Page g) (frame : PhysFrame) (lt : frame < 2 ^ 64) (flags : BitVec 64)
      (domain : MappingDomain)
  | unmap (page : Page g)

/-- The answer of the call, with the frame of a page unmapped, and the memory it leaves. -/
def Call.run (root : PhysFrame) (m : Memory) :
    Call g → Except Halt (Except VmmError (Option PhysFrame) × Memory)
  | .map page frame _ flags domain =>
    (mapPage g root page.addr frame flags domain m).map fun r => (r.1.map fun _ => none, r.2)
  | .unmap page =>
    .ok ((unmapPage g root page.addr m).1.map some, (unmapPage g root page.addr m).2)

/-- **The call on a partial map** `f`: the map it leaves, and its answer. -/
def Call.Spec (f f' : Mapping g) (answer : Option PhysFrame) : Call g → Prop
  | .map page frame _ flags domain => f page = none ∧ answer = none ∧
      f' = update f page (some (frame, leafFlags flags domain))
  | .unmap page => (∃ frame flags, f page = some (frame, flags) ∧ answer = some frame) ∧
      f' = update f page none

/-- The call ends; it fails and the memory is as before, or it does what it says. -/
def Refines (root : PhysFrame) (m : Memory) (c : Call g) : Prop :=
  ∃ r m', c.run root m = .ok (r, m') ∧
    match r with
    | .ok answer => c.Spec (mapping g m root) (mapping g m' root) answer
    | .error _ => Same m m'

def Call.Fails (root : PhysFrame) (m : Memory) (c : Call g) : Prop :=
  ∃ e m', c.run root m = .ok (.error e, m')

def Call.Clean : Call g → Prop
  | .map _ _ _ flags _ => flags &&& physicalMask g = 0
  | .unmap _ => True

instance (c : Call g) : Decidable c.Clean := by
  unfold Call.Clean
  split <;> infer_instance

/-! ### Entries -/

lemma decoded_zero : decoded g 0 = none := by
  rw [decoded, isPresent_zero]
  rfl

lemma leafFlags_and_mask (g : AddressSpaceGeometry) (flags : BitVec 64) (domain : MappingDomain) :
    leafFlags flags domain &&& physicalMask g = flags &&& physicalMask g := by
  have hpresent : (flags ||| present) &&& physicalMask g = flags &&& physicalMask g := by
    rw [BitVec.and_or_distrib_right, ← physicalMask_and g, BitVec.and_comm (physicalMask g),
      ← BitVec.and_assoc present,
      show present &&& addressBits = 0#64 by decide, BitVec.zero_and, BitVec.or_zero]
  cases domain with
  | user => exact hpresent
  | kernel =>
    have huser : ~~~userAccessible &&& physicalMask g = physicalMask g := by
      rw [← physicalMask_and g, BitVec.and_comm (physicalMask g), ← BitVec.and_assoc,
        show ~~~userAccessible &&& addressBits = addressBits by decide]
    rw [leafFlags, BitVec.and_assoc, huser, hpresent]

variable {flags : BitVec 64}

/-- **A written entry** says what was written, if the flags have no bit of the address. -/
lemma decoded_mkEntry_iff {frame : PhysFrame}
    (hvalid : isValidPhysFrame g frame) (hlt : frame < 2 ^ 64)
    (hpres : flags &&& present = present) :
    decoded g (mkEntry g frame flags) = some (frame, flags) ↔ flags &&& physicalMask g = 0 := by
  have hin : BitVec.ofNat 64 frame &&& physicalMask g = BitVec.ofNat 64 frame :=
    ofNat_and_mask hvalid
  have hflags : mkEntry g frame flags &&& ~~~physicalMask g = flags &&& ~~~physicalMask g := by
    rw [mkEntry, BitVec.and_or_distrib_right, BitVec.and_assoc, BitVec.and_not_self]
    simp
  have hsplit : flags &&& physicalMask g ||| flags &&& ~~~physicalMask g = flags := by
    rw [← BitVec.and_or_distrib_left, BitVec.or_not_self, BitVec.and_allOnes]
  rw [decoded, if_pos (isPresent_mkEntry hpres), hflags, Option.some.injEq, Prod.mk.injEq]
  constructor
  · rintro ⟨-, h⟩
    rw [← h, BitVec.and_assoc, BitVec.and_comm (~~~physicalMask g), BitVec.and_not_self]
    simp
  intro h
  rw [h] at hsplit
  refine ⟨?_, by simpa using hsplit⟩
  rw [pointsToFrame, mkEntry, hin, BitVec.and_or_distrib_right, hin, h]
  simpa using hlt

/-! ### `map_page` does not panic -/

lemma isValidPhysFrame_low {frame : ℕ} (hal : frame % pageSize = 0)
    (hlt : frame / pageSize < 2 ^ 20) : isValidPhysFrame g frame := by
  have hmask : 0xFFFFF000#64 &&& ~~~physicalMask g = 0#64 := by
    have hall : ∀ n : Fin 21, 0xFFFFF000#64 &&& ~~~(((1#64 <<< (32 + n.val)) - 1#64) &&&
        ~~~0xFFF#64) = 0#64 := by decide
    have hrange := g.physicalBits_range
    have hn := hall ⟨g.physicalBits - 32, by omega⟩
    rwa [show 32 + (g.physicalBits - 32) = g.physicalBits by omega] at hn
  have hbits : frame &&& 0xFFFFF000 = frame := by
    obtain ⟨i, rfl⟩ := Nat.dvd_of_mod_eq_zero hal
    rw [Nat.mul_div_cancel_left _ (by decide)] at hlt
    change 2 ^ 12 * i &&& 2 ^ 12 * (2 ^ 20 - 1) = 2 ^ 12 * i
    rw [Nat.mul_comm _ i, Nat.mul_comm _ (2 ^ 20 - 1), ← Nat.shiftLeft_eq, ← Nat.shiftLeft_eq,
      ← Nat.shiftLeft_and_distrib, Nat.and_two_pow_sub_one_eq_mod, Nat.mod_eq_of_lt hlt]
  have hin : BitVec.ofNat 64 frame = BitVec.ofNat 64 frame &&& 0xFFFFF000#64 := by
    apply BitVec.eq_of_toNat_eq
    rw [BitVec.toNat_and, BitVec.toNat_ofNat, BitVec.toNat_ofNat]
    have hsmall : frame < 2 ^ 64 := by unfold pageSize at hlt; omega
    rw [Nat.mod_eq_of_lt hsmall, Nat.mod_eq_of_lt (by decide : 0xFFFFF000 < 2 ^ 64), hbits]
  unfold isValidPhysFrame
  rw [hin, BitVec.and_assoc, hmask, hal]
  simp

lemma rollback_trackedFrames (m : Memory) (fresh : List Link) :
    (rollback m fresh).pmm.trackedFrames = m.pmm.trackedFrames := by
  induction fresh generalizing m with
  | nil => rfl
  | cons l fresh ih => exact (ih _).trans (trackedFrames_freeFrame m.pmm l.frame)

lemma nextTable_completes {huge : Bool} {t : PhysFrame} {i : Fin 512}
    {fresh : List Link} (hsize : m.pmm.trackedFrames ≤ 2 ^ 20) :
    Completes (fun r => r.2.pmm.trackedFrames = m.pmm.trackedFrames)
      (nextTable g flags huge t i fresh m) := by
  unfold nextTable
  dsimp only
  split
  · rcases allocFrame_cases m.pmm with he | ⟨f, hfree, _, he⟩
    · rw [he]
      exact rollback_trackedFrames m fresh
    rw [he]
    dsimp only
    rw [if_pos (isValidPhysFrame_low hfree.1 (lt_of_lt_of_le hfree.2.1 hsize))]
    rfl
  split
  · rfl
  · rfl

lemma descend_completes :
    ∀ (path : List (Bool × Fin 512)) (t : PhysFrame) (fresh : List Link) (m : Memory),
      m.pmm.trackedFrames ≤ 2 ^ 20 → Completes (fun _ => True) (descend g flags path t fresh m)
  | [], _, _, _, _ => trivial
  | (huge, i) :: path, t, fresh, m, hsize => by
    refine .bind (nextTable_completes hsize) fun ⟨r, m'⟩ hr => ?_
    cases r with
    | error e => trivial
    | ok r => exact descend_completes path r.1 r.2 m' (hr.trans_le hsize)

lemma mapPage_completes (hsize : m.pmm.trackedFrames ≤ 2 ^ 20) (v : VirtualAddress)
    (frame : PhysFrame) (flags : BitVec 64) (domain : MappingDomain) :
    ∃ r m', mapPage g root v frame flags domain m = .ok (r, m') := by
  have hc : Completes (fun _ => True) (mapPage g root v frame flags domain m) := by
    unfold mapPage
    iterate 3
      split
      · trivial
    refine .bind (descend_completes _ _ _ _ hsize) fun ⟨r, m'⟩ _ => ?_
    cases r <;> trivial
  obtain ⟨⟨r, m'⟩, he, -⟩ := hc.exists_ok
  exact ⟨r, m', he⟩

/-! ### One call -/

/-- The memory after the call has the leaf entry of one page changed. -/
def Effect (root : PhysFrame) (m₀ m m' : Memory) (answer : Option PhysFrame) : Call g → Prop
  | .map page frame _ flags domain =>
    answer = none ∧ isValidPhysFrame g frame ∧ PlainPath g m₀ root (place page.addr).1 ∧
      @Mapped (plainZone g m₀ root) g root (place page.addr)
        (mkEntry g frame (leafFlags flags domain)) m m'
  | .unmap page =>
    isPresent (entryAt g m root (place page.addr)) ∧
      answer = some (pointsToFrame g (entryAt g m root (place page.addr))) ∧
      PlainPath g m₀ root (place page.addr).1 ∧
      @Cleared (plainZone g m₀ root) g root (· = place page.addr) m m'

/-- **One call** ends, with well-formed tables: it fails and leaves the memory as it was, or changes
the entry of its page. -/
lemma reached_run (h : Reached g root m₀ m) (hsize : m₀.pmm.trackedFrames ≤ pmmMaxTrackedFrames)
    (c : Call g) : ∃ r m', c.run root m = .ok (r, m') ∧ Reached g root m₀ m' ∧
      match r with
      | .ok answer => Effect root m₀ m m' answer c
      | .error _ => Same m m' := by
  let _ : Zone := plainZone g m₀ root
  have htracked : m.pmm.trackedFrames ≤ 2 ^ 16 := by rw [h.within.tracked]; exact hsize
  cases c with
  | map page frame lt flags domain =>
    by_cases hzone : PlainPath g m₀ root (place page.addr).1
    · obtain ⟨r, m', he⟩ : ∃ r m', mapPage g root page.addr frame flags domain m = .ok (r, m') :=
        mapPage_completes (le_trans htracked (by decide)) page.addr frame flags domain
      have hend := (mapPage_spec h.space h.full (le_trans htracked (by decide))
        (v := page.addr) ⟨hzone, rfl⟩ frame flags domain).of_ok he
      refine ⟨r.map fun _ => none, m', by rw [Call.run, he]; rfl, ?_⟩
      cases r with
      | error e => exact ⟨h.same hend, hend⟩
      | ok u =>
        obtain ⟨hvalid, hmapped⟩ := hend
        exact ⟨⟨hmapped.space, hmapped.full, h.within.trans hmapped.within⟩, rfl, hvalid, hzone,
          hmapped⟩
    obtain ⟨e, he⟩ := h.mapPage_under_huge hzone frame flags domain
    exact ⟨.error e, m, by rw [Call.run, he]; rfl, h, .refl m⟩
  | unmap page =>
    by_cases hzone : PlainPath g m₀ root (place page.addr).1
    · have hcleared := unmapPage_spec h.space h.full (v := page.addr) ⟨hzone, rfl⟩ page.canonical
      rcases unmapPage_answer h.space (v := page.addr) ⟨hzone, rfl⟩ page.canonical with
        ⟨hpr, hanswer⟩ | ⟨e, he⟩
      · refine ⟨.ok (some _), _, by rw [Call.run, hanswer]; rfl, ?_, hpr, rfl, hzone, hcleared⟩
        exact ⟨hcleared.space, hcleared.full, h.within.trans hcleared.within⟩
      · exact ⟨.error e, m, by rw [Call.run, he]; rfl, h, .refl m⟩
    obtain ⟨e, he⟩ := h.unmapPage_under_huge hzone
    exact ⟨.error e, m, by rw [Call.run, he]; rfl, h, .refl m⟩

/-! ### The call on the partial map -/

/-- A change of all the keys with one image is a change of one key, if it is the only one. -/
lemma eq_update_iff {K P V : Type} [DecidableEq K] {f f' : K → V} {image : K → P} {k : K}
    {old new v : V} (hne : old ≠ new) (hold : ∀ j, image j = image k → f j = old)
    (hnew : ∀ j, image j = image k → f' j = new) (hkept : ∀ j, image j ≠ image k → f' j = f j) :
    f' = update f k v ↔ new = v ∧ ∀ j, image j = image k → j = k := by
  constructor
  · intro h
    refine ⟨?_, fun j hj => ?_⟩
    · rw [← hnew k rfl, h, update_self]
    by_contra hjk
    have hj' := hnew j hj
    rw [h, update_of_ne hjk, hold j hj] at hj'
    exact hne hj'
  rintro ⟨rfl, huniq⟩
  funext j
  by_cases hjk : j = k
  · rw [hjk, hnew k rfl, update_self]
  · rw [update_of_ne hjk, hkept j fun hj => hjk (huniq j hj)]

lemma mapping_plain (h : Reached g root m₀ m) {page : Page g}
    (hzone : PlainPath g m₀ root (place page.addr).1) :
    mapping g m root page = decoded g (entryAt g m root (place page.addr)) :=
  @pageAt_of_inZone g m root page.addr (plainZone g m₀ root) h.space ⟨hzone, rfl⟩ page.canonical

lemma mapping_kept (h : Reached g root m₀ m) (h' : Reached g root m₀ m')
    (hb : Built g m₀ root) {page : Page g}
    (hkept : PlainPath g m₀ root (place page.addr).1 →
      entryAt g m' root (place page.addr) = entryAt g m root (place page.addr)) :
    mapping g m' root page = mapping g m root page := by
  by_cases hzone : PlainPath g m₀ root (place page.addr).1
  · rw [mapping_plain h' hzone, mapping_plain h hzone, hkept hzone]
  · exact (h'.pageAt_under_huge hb hzone).trans (h.pageAt_under_huge hb hzone).symm

lemma decoded_of_present {e : PageTableEntry} (h : isPresent e) :
    decoded g e = some (pointsToFrame g e, e &&& ~~~physicalMask g) := if_pos h

variable {answer : Option PhysFrame}

/-- **What a successful call does**, exactly. -/
lemma spec_iff (hb : Built g m₀ root) (h : Reached g root m₀ m) (h' : Reached g root m₀ m')
    {c : Call g} (he : Effect root m₀ m m' answer c) :
    c.Spec (mapping g m root) (mapping g m' root) answer ↔ g.virtualBits = 48 ∧ c.Clean := by
  let _ : Zone := plainZone g m₀ root
  cases c with
  | map page frame lt flags domain =>
    obtain ⟨rfl, hvalid, hzone, hmapped⟩ := he
    have hpres := leafFlags_present flags domain
    have hold : ∀ p : Page g, place p.addr = place page.addr → mapping g m root p = none := by
      intro p hp
      rw [mapping_plain h (by rw [hp]; exact hzone), hp, hmapped.absent, decoded_zero]
    have hnew : ∀ p : Page g, place p.addr = place page.addr →
        mapping g m' root p = decoded g (mkEntry g frame (leafFlags flags domain)) := by
      intro p hp
      rw [mapping_plain h' (by rw [hp]; exact hzone), hp, hmapped.entries _ ⟨hzone, rfl⟩,
        if_pos rfl]
    have hkept : ∀ p : Page g, place p.addr ≠ place page.addr →
        mapping g m' root p = mapping g m root p := fun p hp =>
      mapping_kept h h' hb fun hz => by rw [hmapped.entries _ ⟨hz, rfl⟩, if_neg hp]
    have hne : none ≠ decoded g (mkEntry g frame (leafFlags flags domain)) := by
      rw [decoded_of_present (isPresent_mkEntry hpres)]
      simp
    rw [Call.Spec, Call.Clean, eq_update_iff hne hold hnew hkept, place_unique_iff,
      decoded_mkEntry_iff hvalid lt hpres, leafFlags_and_mask]
    constructor
    · rintro ⟨-, -, hclean, hbits⟩
      exact ⟨hbits, hclean⟩
    rintro ⟨hbits, hclean⟩
    exact ⟨hold page rfl, rfl, hclean, hbits⟩
  | unmap page =>
    obtain ⟨hpr, rfl, hzone, hcleared⟩ := he
    have hold : ∀ p : Page g, place p.addr = place page.addr →
        mapping g m root p = decoded g (entryAt g m root (place page.addr)) := by
      intro p hp
      rw [mapping_plain h (by rw [hp]; exact hzone), hp]
    have hnew : ∀ p : Page g, place p.addr = place page.addr → mapping g m' root p = none := by
      intro p hp
      rw [mapping_plain h' (by rw [hp]; exact hzone), hp, hcleared.gone _ ⟨hzone, rfl⟩ rfl,
        decoded_zero]
    have hkept : ∀ p : Page g, place p.addr ≠ place page.addr →
        mapping g m' root p = mapping g m root p := fun p hp =>
      mapping_kept h h' hb fun hz => hcleared.kept _ ⟨hz, rfl⟩ hp
    rw [decoded_of_present hpr] at hold
    rw [Call.Spec, Call.Clean, eq_update_iff (Option.some_ne_none _) hold hnew hkept,
      place_unique_iff]
    constructor
    · rintro ⟨-, -, hbits⟩
      exact ⟨hbits, trivial⟩
    rintro ⟨hbits, -⟩
    exact ⟨⟨_, _, hold page rfl, rfl⟩, rfl, hbits⟩

/-! ### Runs of calls -/

/-- The memories that calls lead to from `m₀`. -/
abbrev Reachable (g : AddressSpaceGeometry) (root : PhysFrame) (m₀ : Memory) : Memory → Prop :=
  Reach (· = m₀) fun m m' => ∃ (c : Call g) (r : _), c.run root m = .ok (r, m')

section

variable (hb : Built g m₀ root) (hsize : m₀.pmm.trackedFrames ≤ pmmMaxTrackedFrames)
  (h : Reachable g root m₀ m)

include hb hsize h

lemma Reachable.reached : Reached g root m₀ m := by
  induction h with
  | start hs =>
    subst hs
    exact hb.reached
  | next _ hstep ih =>
    obtain ⟨c, r, hr⟩ := hstep
    obtain ⟨r1, m1, he, hm1, -⟩ := reached_run ih hsize c
    rw [hr] at he
    cases he
    exact hm1

/-- **Every call in a run** does what it says on the partial map, or fails without a trace, exactly
if the addresses have 48 bits and the flags no bit of the address. -/
lemma refines_iff (c : Call g) :
    Refines root m c ↔ c.Fails root m ∨ g.virtualBits = 48 ∧ c.Clean := by
  have hm := h.reached hb hsize
  obtain ⟨r, m', he, hm', hend⟩ := reached_run hm hsize c
  unfold Refines Call.Fails
  rw [he]
  cases r with
  | error e => exact ⟨fun _ => .inl ⟨e, m', rfl⟩, fun _ => ⟨_, _, rfl, hend⟩⟩
  | ok answer =>
    constructor
    · rintro ⟨r, m1, hr, hspec⟩
      cases hr
      exact .inr ((spec_iff hb hm hm' hend).mp hspec)
    rintro (⟨e, m1, hr⟩ | hcond)
    · cases hr
    · exact ⟨_, _, rfl, (spec_iff hb hm hm' hend).mpr hcond⟩

end

/-- **A run of calls that unmaps only pages it has mapped**: `own` are those that are still mapped.
-/
inductive Session (g : AddressSpaceGeometry) (root : PhysFrame) (m₀ : Memory) :
    Set (Page g) → Memory → Prop
  | start : Session g root m₀ ∅ m₀
  | map {own m m'} (page frame lt flags domain) : Session g root m₀ own m →
      (Call.map page frame lt flags domain).run root m = .ok (.ok none, m') →
      Session g root m₀ (insert page own) m'
  | unmap {own m m' frame} (page) : Session g root m₀ own m → page ∈ own →
      (Call.unmap page).run root m = .ok (.ok (some frame), m') →
      Session g root m₀ (own \ {page}) m'
  | failed {own m m' e} (c : Call g) : Session g root m₀ own m →
      c.run root m = .ok (.error e, m') → Session g root m₀ own m'

/-- How far a session has come: beyond the entries of its own pages nothing has changed. -/
structure Kept (g : AddressSpaceGeometry) (root : PhysFrame) (m₀ : Memory) (own : Set (Page g))
    (m : Memory) : Prop where
  reached : Reached g root m₀ m
  extend : @Extends (plainZone g m₀ root) g root m₀ m
  plain : ∀ p ∈ own, PlainPath g m₀ root (place p.addr).1
  present : ∀ p ∈ own, isPresent (entryAt g m root (place p.addr))
  absent : ∀ p ∈ own, entryAt g m₀ root (place p.addr) = 0
  apart : ∀ p ∈ own, ∀ q ∈ own, place p.addr = place q.addr → p = q
  entries : ∀ P : Place, PlainPath g m₀ root P.1 → P.1.length = 3 →
    (∀ p ∈ own, place p.addr ≠ P) → entryAt g m root P = entryAt g m₀ root P

variable {own : Set (Page g)}

lemma Kept.start (hb : Built g m₀ root) : Kept g root m₀ ∅ m₀ :=
  ⟨hb.reached, @Extends.refl (plainZone g m₀ root) g root m₀, fun _ hp => hp.elim,
    fun _ hp => hp.elim, fun _ hp => hp.elim, fun _ hp => hp.elim, fun _ _ _ _ => rfl⟩

section

variable (h : Kept g root m₀ own m)

include h

lemma Kept.map (hm' : Reached g root m₀ m') {page : Page g}
    {frame : PhysFrame} {lt : frame < 2 ^ 64} {domain : MappingDomain}
    (he : Effect root m₀ m m' answer (.map page frame lt flags domain)) :
    Kept g root m₀ (insert page own) m' := by
  let _ : Zone := plainZone g m₀ root
  obtain ⟨-, -, hzone, hmapped⟩ := he
  have hnew : ∀ p ∈ own, place p.addr ≠ place page.addr := by
    intro p hp heq
    have hpr := h.present p hp
    rw [heq, hmapped.absent, isPresent_zero] at hpr
    cases hpr
  refine ⟨hm', h.extend.trans hmapped.extend, ?_, ?_, ?_, ?_, ?_⟩
  · rintro p (rfl | hp)
    · exact hzone
    · exact h.plain p hp
  · rintro p (rfl | hp)
    · rw [hmapped.entries _ ⟨hzone, rfl⟩, if_pos rfl]
      exact isPresent_mkEntry (leafFlags_present flags domain)
    rw [hmapped.entries _ ⟨h.plain p hp, rfl⟩, if_neg (hnew p hp)]
    exact h.present p hp
  · rintro p (rfl | hp)
    · rw [← h.entries _ hzone rfl hnew, hmapped.absent]
    · exact h.absent p hp
  · rintro p (rfl | hp) q (rfl | hq) heq
    · rfl
    · exact absurd heq.symm (hnew q hq)
    · exact absurd heq (hnew p hp)
    · exact h.apart p hp q hq heq
  intro P hP hlen hne
  have hpage : P ≠ place page.addr := fun hc => hne page (Set.mem_insert _ _) hc.symm
  rw [hmapped.entries P ⟨hP, hlen⟩, if_neg hpage]
  exact h.entries P hP hlen fun p hp => hne p (Set.mem_insert_of_mem _ hp)

lemma Kept.extend_back (hb : Built g m₀ root)
    (hm' : Reached g root m₀ m') (hback : @Extends (plainZone g m₀ root) g root m' m)
    (hentries : ∀ P : Place, PlainPath g m₀ root P.1 → P.1.length = 3 →
      isPresent (entryAt g m₀ root P) → entryAt g m' root P = entryAt g m₀ root P) :
    @Extends (plainZone g m₀ root) g root m₀ m' := by
  let _ : Zone := plainZone g m₀ root
  have halike : Alike g root m m₀ m' :=
    ⟨hb.space, hm'.space, hb.nonempty, h.extend, hback, fun P hP => hentries P hP.1 hP.2⟩
  refine ⟨fun p f hp hw => halike.tableAt hp hw, fun p f i hp hw hi => ?_⟩
  by_cases hin : PlainEntry g m₀ root p i
  · exact halike.present hp hin hw hi
  · exact (hm'.within.outer p f i hp hin hw).2

lemma Kept.unmap (hb : Built g m₀ root) (hm' : Reached g root m₀ m')
    {page : Page g} (hpage : page ∈ own)
    (he : Effect root m₀ m m' answer (.unmap page)) : Kept g root m₀ (own \ {page}) m' := by
  let _ : Zone := plainZone g m₀ root
  obtain ⟨-, -, hzone, hcleared⟩ := he
  have hother : ∀ p ∈ own \ {page}, place p.addr ≠ place page.addr := fun p hp heq =>
    hp.2 (h.apart p hp.1 page hpage heq)
  have hentries : ∀ P : Place, PlainPath g m₀ root P.1 → P.1.length = 3 →
      (∀ p ∈ own \ {page}, place p.addr ≠ P) → entryAt g m' root P = entryAt g m₀ root P := by
    intro P hP hlen hne
    by_cases hpl : P = place page.addr
    · rw [hcleared.gone P ⟨hP, hlen⟩ hpl, hpl, h.absent page hpage]
    rw [hcleared.kept P ⟨hP, hlen⟩ hpl]
    refine h.entries P hP hlen fun p hp heq => ?_
    by_cases hpp : p = page
    · exact hpl (by rw [← heq, hpp])
    · exact hne p ⟨hp, hpp⟩ heq
  refine ⟨hm', h.extend_back hb hm' hcleared.extend fun P hP hlen hpr => ?_,
    fun p hp => h.plain p hp.1, fun p hp => ?_, fun p hp => h.absent p hp.1,
    fun p hp q hq => h.apart p hp.1 q hq.1, hentries⟩
  · refine hentries P hP hlen fun p hp heq => ?_
    rw [← heq, h.absent p hp.1, isPresent_zero] at hpr
    cases hpr
  rw [hcleared.kept _ ⟨h.plain p hp.1, rfl⟩ (hother p hp)]
  exact h.present p hp.1

lemma Kept.same (hs : Same m m') : Kept g root m₀ own m' := by
  let _ : Zone := plainZone g m₀ root
  have hentry : ∀ P : Place, PlainPath g m₀ root P.1 → P.1.length = 3 →
      entryAt g m' root P = entryAt g m root P := fun P hP hlen =>
    (hs.agree h.reached.space).entryAt ⟨hP, hlen⟩
  refine ⟨h.reached.same hs, h.extend.trans (hs.extends h.reached.space), h.plain, fun p hp => ?_,
    h.absent, h.apart, fun P hP hlen hne => ?_⟩
  · rw [hentry _ (h.plain p hp) rfl]
    exact h.present p hp
  rw [hentry P hP hlen]
  exact h.entries P hP hlen hne

end

lemma Session.kept (hb : Built g m₀ root) (hsize : m₀.pmm.trackedFrames ≤ pmmMaxTrackedFrames)
    (h : Session g root m₀ own m) : Kept g root m₀ own m := by
  -- what a call from a state of the session leads to
  have hrun : ∀ {own m m' r} {c : Call g}, Kept g root m₀ own m → c.run root m = .ok (r, m') →
      Reached g root m₀ m' ∧ match r with
        | .ok answer => Effect root m₀ m m' answer c
        | .error _ => Same m m' := by
    intro own m m' r c hk hr
    obtain ⟨r1, m1, he, hend⟩ := reached_run hk.reached hsize c
    rw [hr] at he
    cases he
    exact hend
  induction h with
  | start => exact .start hb
  | map page frame lt flags domain _ hr ih => exact ih.map (hrun ih hr).1 (hrun ih hr).2
  | unmap page _ hmem hr ih => exact ih.unmap hb (hrun ih hr).1 hmem (hrun ih hr).2
  | failed c _ hr ih => exact ih.same (hrun ih hr).2

/-- **What has unmapped all it mapped** leaves the free frames it found, and the frames in use as
they were. -/
lemma Kept.restored (hb : Built g m₀ root) (hk : Kept g root m₀ ∅ m) :
    (∀ f, Free m.pmm f ↔ Free m₀.pmm f) ∧ ∀ f, ¬Free m₀.pmm f → m.table f = m₀.table f := by
  let _ : Zone := plainZone g m₀ root
  have hentries : ∀ P : Place, P.InZone → entryAt g m root P = entryAt g m₀ root P := fun P hP =>
    hk.entries P hP.1 hP.2 fun p hp => hp.elim
  have halike : Alike g root m m₀ m := ⟨hb.space, hk.reached.space, hb.nonempty, hk.extend,
    .refl g root m, fun P hP _ => hentries P hP⟩
  have halike' : Alike g root m m m₀ := ⟨hk.reached.space, hb.space, hk.reached.full,
    .refl g root m, hk.extend, fun P hP _ => (hentries P hP).symm⟩
  exact halike.same halike' hk.reached.within

lemma Session.free_iff (hb : Built g m₀ root)
    (hsize : m₀.pmm.trackedFrames ≤ pmmMaxTrackedFrames) (h : Session g root m₀ ∅ m)
    (f : PhysFrame) : Free m.pmm f ↔ Free m₀.pmm f :=
  ((h.kept hb hsize).restored hb).1 f

/-! ### An empty address space -/

/-- A memory of eight frames, the first of which is the root of an address space without pages. -/
def bareMemory : Memory where
  pmm := {
    initialized := true
    trackedFrames := 8
    state := fun i => if i = 0 then .allocated else .free
    freeFrames := 7
    allocatedFrames := 1 }
  table _ _ := 0

lemma tableAt_zero (h0 : ∀ f i, m.table f i = 0) {p : List (Fin 512)} {f : PhysFrame}
    (h : tableAt g m root p = some f) : p = [] ∧ f = root := by
  induction p using List.reverseRecOn with
  | nil =>
    cases h
    exact ⟨rfl, rfl⟩
  | append_singleton p i ih =>
    obtain ⟨t, -, hnext⟩ := walk_concat_eq_some.mp h
    have hpr := isPresent_of_next hnext
    rw [h0, isPresent_zero] at hpr
    cases hpr

lemma built_of_zero (h0 : ∀ f i, m.table f i = 0) (hused : ¬Free m.pmm root) :
    Built g m root where
  tree p q f _ _ hp hq := by
    rw [(tableAt_zero h0 hp).1, (tableAt_zero h0 hq).1]
  clear _ _ _ _ _ _ _ := h0 _ _
  used p f _ hp := by
    rw [(tableAt_zero h0 hp).2]
    exact hused
  nonempty p f _ hne hp := absurd (tableAt_zero h0 hp).1 hne

lemma bareMemory_built (g : AddressSpaceGeometry) : Built g bareMemory 0 := by
  refine built_of_zero (fun _ _ => rfl) ?_
  rintro ⟨-, -, hfree⟩
  cases hfree

/-! ### The engine -/

/-- **The engine refines a partial map.** From well-formed tables, all calls lead to well-formed
tables, each of them does to the map what it says or fails without a trace, and calls that undo each
other leave the free frames as they were; and it is for addresses of 48 bits and flags without bits
of the address that the calls do what they say. -/
theorem engine_refines_iff (hb : Built g m₀ root)
    (hsize : m₀.pmm.trackedFrames ≤ pmmMaxTrackedFrames) :
    (∀ m, Reachable g root m₀ m → Built g m root ∧
      ∀ c : Call g, Refines root m c ↔ c.Fails root m ∨ g.virtualBits = 48 ∧ c.Clean) ∧
      ∀ m, Session g root m₀ ∅ m → ∀ f, Free m.pmm f ↔ Free m₀.pmm f :=
  ⟨fun _ h => ⟨(h.reached hb hsize).built, refines_iff hb hsize h⟩, fun _ h => h.free_iff hb hsize⟩

/-- In the empty address space of a processor with addresses of 48 bits, a page can be mapped. -/
theorem engine_refines_iff_bare :
    let g : AddressSpaceGeometry := ⟨36, 48, true, by decide, by decide⟩
    Built g bareMemory 0 ∧ Refines (g := g) 0 bareMemory (.map ⟨0x400000, by decide, by decide,
      by decide⟩ 0x5000 (by decide) writable .user) := by
  intro g
  refine ⟨bareMemory_built g, ?_⟩
  have hcalls := ((engine_refines_iff (bareMemory_built g) (by decide)).1 bareMemory (.start rfl)).2
  exact (hcalls _).mpr (Or.inr ⟨rfl, by decide⟩)

/-- **A page is mapped to another frame.** With an address bit among the flags, the page is mapped to
the frame `0xd000` and not to `0x5000`. -/
theorem mapPage_moves_frame : let g : AddressSpaceGeometry := ⟨36, 48, true, by decide, by decide⟩
    Built g bareMemory 0 ∧ ∃ m', mapPage g 0 0 0x5000 (writable ||| 0x8000) .user bareMemory =
      .ok (.ok (), m') ∧ (translate g m'.table 0 0).toOption = some 0xd000 := by
  intro g
  obtain ⟨⟨r, m'⟩, hr, hok, hnew⟩ := exists_ok (x := mapPage g 0 0 0x5000 (writable ||| 0x8000)
    .user bareMemory) (Q := fun r => r.1.toOption = some () ∧
      (translate g r.2.table 0 0).toOption = some 0xd000) (by decide +kernel)
  refine ⟨bareMemory_built g, m', ?_, hnew⟩
  cases r with
  | error e => cases hok
  | ok u => exact hr

end ProjectZero.Mm.PartialMap
