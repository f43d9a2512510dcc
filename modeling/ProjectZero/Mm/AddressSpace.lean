import ProjectZero.Lib.Radix
import ProjectZero.Mm.Vmm

/-! # Address spaces

An address space is a radix tree of tables under its root: `next` is the step from a table to the
table behind an entry, and a `Path` is a way down to a leaf table. The part of the tree that is
looked at is a `Zone`: the user half, or all that is not under a huge page. `Space` says that the
tree is well formed there and that its tables are frames in use; `entryAt` reads the leaf entry at a
place. `map_page` and `unmap_page` are taken apart into three changes of such a tree: a new table is
grown at an absent entry, an empty table is cut off, and a leaf entry is written. -/

namespace ProjectZero.Mm.AddressSpace

open Lib.Radix Tables Mm.Pmm Vmm
open BitVec (ofNat toNat_ofNat toInt_inj)

variable {g : AddressSpaceGeometry}

/-! ### Addresses -/

/-- **The canonical addresses** are the lowest and the highest ones. -/
lemma isCanonical_iff (g : AddressSpaceGeometry) {v : ℕ} (hv : v < 2 ^ 64) :
    isCanonical g v ↔ v < 2 ^ (g.virtualBits - 1) ∨ 2 ^ 64 - 2 ^ (g.virtualBits - 1) ≤ v := by
  have hpos : 0 < 2 ^ (g.virtualBits - 1) := Nat.two_pow_pos _
  have hle : 2 ^ (g.virtualBits - 1) ≤ 2 ^ 63 :=
    Nat.pow_le_pow_right (by decide) (by have := g.virtualBits_range.2; omega)
  have hint : (ofNat 64 v).toInt = if v < 2 ^ 63 then (v : ℤ) else v - 2 ^ 64 := by
    rw [BitVec.toInt_eq_toNat_cond, toNat_ofNat, Nat.mod_eq_of_lt hv]
    split <;> split <;> omega
  unfold isCanonical
  rw [Bool.or_eq_true, decide_eq_true_eq, decide_eq_true_eq, ← toInt_inj, ← toInt_inj,
    BitVec.toInt_sshiftRight, Int.shiftRight_eq_div_pow, hint,
    show (0 : BitVec 64).toInt = 0 from rfl, show (BitVec.allOnes 64).toInt = -1 by decide]
  generalize 2 ^ (g.virtualBits - 1) = B at *
  have hB : (0 : ℤ) < B := by exact_mod_cast hpos
  have hquot : ∀ x c : ℤ, x / B = c ↔ c * B ≤ x ∧ x < (c + 1) * B := fun x c => by
    rw [← Int.le_ediv_iff_mul_le hB, ← Int.ediv_lt_iff_lt_mul hB]
    omega
  rw [hquot, hquot]
  split <;> omega

/-! ### Entries -/

/-- The bits a physical address can have, whatever the width. -/
def addressBits : BitVec 64 := 0x000FFFFFFFFFF000#64

lemma physicalMask_and (g : AddressSpaceGeometry) :
    physicalMask g &&& addressBits = physicalMask g := by
  have hall : ∀ n : Fin 53, ((1#64 <<< n.val) - 1#64) &&& ~~~0xFFF#64 &&& addressBits =
      ((1#64 <<< n.val) - 1#64) &&& ~~~0xFFF#64 := by decide
  exact hall ⟨g.physicalBits, Nat.lt_succ_of_le g.physicalBits_range.2⟩

variable {flags : BitVec 64}

lemma and_physicalMask (h : flags &&& addressBits = 0#64) : flags &&& physicalMask g = 0#64 := by
  rw [← physicalMask_and g, BitVec.and_comm (physicalMask g), ← BitVec.and_assoc, h,
    BitVec.zero_and]

variable {f : PhysFrame}

lemma ofNat_and_mask (hv : isValidPhysFrame g f) : ofNat 64 f &&& physicalMask g = ofNat 64 f := by
  have hout : ofNat 64 f &&& ~~~physicalMask g = 0#64 := by
    simp only [isValidPhysFrame, Bool.and_eq_true, decide_eq_true_eq] at hv
    exact hv.2
  calc ofNat 64 f &&& physicalMask g
      = ofNat 64 f &&& physicalMask g ||| ofNat 64 f &&& ~~~physicalMask g := by
        rw [hout, BitVec.or_zero]
    _ = ofNat 64 f &&& (physicalMask g ||| ~~~physicalMask g) := by
        rw [BitVec.and_or_distrib_left]
    _ = ofNat 64 f := by rw [BitVec.or_not_self, BitVec.and_allOnes]

/-- **The frame written into an entry** is the one it points to. -/
lemma pointsToFrame_mkEntry
    (hv : isValidPhysFrame g f) (hf : f < 2 ^ 64) (h : flags &&& addressBits = 0#64) :
    pointsToFrame g (mkEntry g f flags) = f := by
  have hin : ofNat 64 f &&& physicalMask g = ofNat 64 f := ofNat_and_mask hv
  unfold pointsToFrame mkEntry
  rw [hin, BitVec.and_or_distrib_right, hin, and_physicalMask h, BitVec.or_zero,
    toNat_ofNat, Nat.mod_eq_of_lt hf]

lemma isPresent_mkEntry (h : flags &&& PageTableFlags.present = PageTableFlags.present) :
    isPresent (mkEntry g f flags) := by
  unfold isPresent mkEntry
  rw [BitVec.and_or_distrib_right, h]
  simp only [ne_eq, decide_eq_true_eq]
  intro h0
  have hbit := congrArg (·.getLsbD 0) h0
  simp [PageTableFlags.present] at hbit

lemma isHuge_mkEntry
    (h : flags &&& PageTableFlags.hugePage = 0#64) : isHuge (mkEntry g f flags) = false := by
  have hmask : physicalMask g &&& PageTableFlags.hugePage = 0#64 := by
    rw [← physicalMask_and g, BitVec.and_assoc]
    exact BitVec.and_zero
  unfold isHuge PageTableFlags.contains mkEntry
  rw [BitVec.and_or_distrib_right, h, BitVec.and_assoc, hmask, BitVec.and_zero, BitVec.or_zero]
  decide

lemma isPresent_zero : isPresent 0 = false := by decide

/-! ### The tree -/

/-- The table behind an entry. -/
def next (g : AddressSpaceGeometry) (table : PhysFrame → PageTable) (f : PhysFrame) (i : Fin 512) :
    Option PhysFrame :=
  if isPresent (table f i) then some (pointsToFrame g (table f i)) else none

/-- A part of an address space: the paths to its tables, to leaf tables at most, the entries that
belong to it, and what is known of the frames its tables are in. -/
class Zone where
  Path : List (Fin 512) → Prop
  Entry : List (Fin 512) → Fin 512 → Prop
  Held : Pmm → PhysFrame → Prop
  nil : Path []
  concat : ∀ {p i}, Path (p ++ [i]) ↔ Path p ∧ p.length < 3 ∧ Entry p i
  leaf : ∀ {p} i, p.length = 3 → Entry p i
  not_free : ∀ {pmm f}, Held pmm f → ¬Free pmm f
  of_taken : ∀ {pmm f}, Taken pmm f → Held pmm f
  congr : ∀ {pmm pmm' f}, (∀ st, Is pmm' f st ↔ Is pmm f st) → Held pmm f → Held pmm' f

section Zone

variable [Zone]

abbrev Path (p : List (Fin 512)) : Prop := Zone.Path p

lemma path_nil : Path [] := Zone.nil

variable {p : List (Fin 512)}

lemma path_concat {i : Fin 512} :
    Path (p ++ [i]) ↔ Path p ∧ p.length < 3 ∧ Zone.Entry p i := Zone.concat

lemma path_closed : Closed Path := fun _ _ h => (path_concat.mp h).1

lemma Path.length_le (h : Path p) : p.length ≤ 3 := by
  induction p using List.reverseRecOn with
  | nil => exact Nat.zero_le 3
  | append_singleton p i _ =>
    rw [List.length_append, List.length_singleton]
    exact (path_concat.mp h).2.1

lemma Path.initial {q : List (Fin 512)} (h : Path q) (hp : p <+: q) : Path p := by
  obtain ⟨s, rfl⟩ := hp
  induction s using List.reverseRecOn with
  | nil => rwa [List.append_nil] at h
  | append_singleton s i ih =>
    rw [← List.append_assoc] at h
    exact ih (path_concat.mp h).1

end Zone

/-- The table at the end of a path. -/
abbrev tableAt (g : AddressSpaceGeometry) (m : Memory) (root : PhysFrame) (p : List (Fin 512)) :
    Option PhysFrame := walk (next g m.table) root p

lemma tableAt_concat {m : Memory} {root : PhysFrame} (p : List (Fin 512)) (i : Fin 512) :
    tableAt g m root (p ++ [i]) = (tableAt g m root p).bind fun f => next g m.table f i :=
  walk_concat p i

lemma tableAt_append {m : Memory} {root : PhysFrame} (p q : List (Fin 512)) :
    tableAt g m root (p ++ q) = (tableAt g m root p).bind fun f => tableAt g m f q :=
  walk_append p q

/-- A place of a leaf entry: the path to its table, and its index there. -/
abbrev Place := List (Fin 512) × Fin 512

def place (v : VirtualAddress) : Place := ([p4Index v, p3Index v, p2Index v], p1Index v)

def Place.InZone [Zone] (P : Place) : Prop := Path P.1 ∧ P.1.length = 3

/-- The leaf entry at a place; a missing table is a table of zeros. -/
def entryAt (g : AddressSpaceGeometry) (m : Memory) (root : PhysFrame) (P : Place) :
    PageTableEntry :=
  match tableAt g m root P.1 with
  | some t => m.table t P.2
  | none => 0

variable {m m' : Memory} {root : PhysFrame}

variable {i : Fin 512}

variable {table : PhysFrame → PageTable}

lemma next_of_present
    (h : isPresent (table f i)) : next g table f i = some (pointsToFrame g (table f i)) :=
  if_pos h

lemma next_of_absent (h : isPresent (table f i) = false) : next g table f i = none :=
  if_neg (by rw [h]; simp)

lemma next_congr {table' : PhysFrame → PageTable}
    (h : table' f i = table f i) : next g table' f i = next g table f i := by
  unfold next
  rw [h]

lemma isPresent_of_next {f' : PhysFrame}
    (h : next g table f i = some f') : isPresent (table f i) := by
  unfold next at h
  split at h
  · assumption
  · cases h

variable {P : Place}

lemma entryAt_of_table {t : PhysFrame} (h : tableAt g m root P.1 = some t) :
    entryAt g m root P = m.table t P.2 := by
  unfold entryAt
  rw [h]

lemma entryAt_of_none (h : tableAt g m root P.1 = none) : entryAt g m root P = 0 := by
  unfold entryAt
  rw [h]

section Zone

variable [Zone]

def Own (g : AddressSpaceGeometry) (m : Memory) (root f : PhysFrame) : Prop :=
  ∃ p, Path p ∧ tableAt g m root p = some f

/-- **A well-formed zone**: the tables form a tree, none of their entries is a huge page, absent
entries are zero, no table is in a free frame, and what is not of the zone below the root is
present. -/
structure Space (g : AddressSpaceGeometry) (m : Memory) (root : PhysFrame) : Prop where
  tree : Tree (next g m.table) root Path
  plain : ∀ p f i, Path (p ++ [i]) → p ≠ [] → tableAt g m root p = some f →
    isPresent (m.table f i) → isHuge (m.table f i) = false
  clear : ∀ p f i, Path p → Zone.Entry p i → tableAt g m root p = some f →
    isPresent (m.table f i) = false → m.table f i = 0
  rootUsed : ¬Free m.pmm root
  taken : ∀ p f, Path p → p ≠ [] → tableAt g m root p = some f → Zone.Held m.pmm f
  solid : ∀ p i, Path p → p ≠ [] → ¬Zone.Entry p i →
    ∃ f, tableAt g m root p = some f ∧ isPresent (m.table f i)

/-- Every table below the root has an entry, but perhaps those on the way `w`. -/
def FullBut (g : AddressSpaceGeometry) (m : Memory) (root : PhysFrame) (w : List (Fin 512)) :
    Prop :=
  ∀ p f, Path p → p ≠ [] → ¬p <+: w → tableAt g m root p = some f →
    ∃ i, isPresent (m.table f i)

/-- Every table below the root has an entry. -/
def Full (g : AddressSpaceGeometry) (m : Memory) (root : PhysFrame) : Prop :=
  ∀ p f, Path p → p ≠ [] → tableAt g m root p = some f → ∃ i, isPresent (m.table f i)

lemma Full.but (h : Full g m root) (w : List (Fin 512)) : FullBut g m root w :=
  fun p f hp hne _ => h p f hp hne

lemma Space.own_not_free (h : Space g m root) {f : PhysFrame} (hf : Own g m root f) :
    ¬Free m.pmm f := by
  obtain ⟨p, hp, hw⟩ := hf
  by_cases hne : p = []
  · subst hne
    cases hw
    exact h.rootUsed
  · exact Zone.not_free (h.taken p f hp hne hw)

lemma own_root (g : AddressSpaceGeometry) (m : Memory) (root : PhysFrame) : Own g m root root :=
  ⟨[], path_nil, rfl⟩

lemma Space.not_huge (h : Space g m root) {i : Fin 512} {f : PhysFrame}
    (hp : Path (p ++ [i])) (hw : tableAt g m root p = some f)
    (hi : isPresent (m.table f i)) {huge : Bool} (hroot : p = [] → huge ≠ true) :
    (huge && isHuge (m.table f i)) = false := by
  by_cases hnil : p = []
  · rw [Bool.eq_false_iff.mpr (hroot hnil), Bool.false_and]
  · rw [h.plain p f i hp hnil hw hi, Bool.and_false]

/-! ### Memories that agree on an address space -/

/-- The tables of the address space are the same, and still in frames in use. -/
structure Agree (g : AddressSpaceGeometry) (root : PhysFrame) (m m' : Memory) : Prop where
  table : ∀ f, Own g m root f → m'.table f = m.table f
  used : ¬Free m.pmm root → ¬Free m'.pmm root
  taken : ∀ f, Own g m root f → Zone.Held m.pmm f → Zone.Held m'.pmm f

section Agree

variable (h : Agree g root m m')
include h

lemma Agree.tableAt (hp : Path p) : tableAt g m' root p = tableAt g m root p :=
  walk_congr path_closed (fun p i f hp' hw =>
    next_congr (congrFun (h.table f ⟨p, (path_concat.mp hp').1, hw⟩) i)) p hp

lemma Agree.own (f : PhysFrame) : Own g m' root f ↔ Own g m root f := by
  constructor
  · rintro ⟨p, hp, hw⟩
    exact ⟨p, hp, (h.tableAt hp).symm.trans hw⟩
  rintro ⟨p, hp, hw⟩
  exact ⟨p, hp, (h.tableAt hp).trans hw⟩

lemma Agree.space (hs : Space g m root) : Space g m' root where
  tree p q f hp hq hw hw' :=
    hs.tree p q f hp hq ((h.tableAt hp).symm.trans hw) ((h.tableAt hq).symm.trans hw')
  plain p f i hp hne hw hi := by
    rw [h.tableAt (path_concat.mp hp).1] at hw
    rw [h.table f ⟨p, (path_concat.mp hp).1, hw⟩] at hi ⊢
    exact hs.plain p f i hp hne hw hi
  clear p f i hp hlow hw hi := by
    rw [h.tableAt hp] at hw
    rw [h.table f ⟨p, hp, hw⟩] at hi ⊢
    exact hs.clear p f i hp hlow hw hi
  rootUsed := h.used hs.rootUsed
  taken p f hp hne hw := by
    rw [h.tableAt hp] at hw
    exact h.taken f ⟨p, hp, hw⟩ (hs.taken p f hp hne hw)
  solid p i hp hne hi := by
    obtain ⟨f, hw, hpr⟩ := hs.solid p i hp hne hi
    exact ⟨f, (h.tableAt hp).trans hw, by rw [h.table f ⟨p, hp, hw⟩]; exact hpr⟩

lemma Agree.full (hfull : Full g m root) : Full g m' root := by
  intro p f hp hne hw
  rw [h.tableAt hp] at hw
  rw [h.table f ⟨p, hp, hw⟩]
  exact hfull p f hp hne hw

lemma Agree.entryAt {P : Place} (hP : P.InZone) : entryAt g m' root P = entryAt g m root P := by
  unfold AddressSpace.entryAt
  rw [h.tableAt hP.1]
  cases hw : AddressSpace.tableAt g m root P.1 with
  | none => rfl
  | some t => exact congrFun (h.table t ⟨P.1, hP.1, hw⟩) P.2

end Agree

end Zone

/-! ### The user half -/

/-- A way down the user half: through the lower half of the root, to a leaf table at most. -/
def UserPath (p : List (Fin 512)) : Prop := p.length ≤ 3 ∧ ∀ i, p.head? = some i → i.val < 256

lemma userPath_concat :
    UserPath (p ++ [i]) ↔ UserPath p ∧ p.length < 3 ∧ (p = [] → i.val < 256) := by
  unfold UserPath
  cases p with
  | nil => simp
  | cons j p =>
    simp only [List.cons_append, List.length_cons, List.length_append, List.length_nil,
      List.head?_cons, reduceCtorEq, false_implies, and_true]
    constructor
    · rintro ⟨h, h'⟩
      exact ⟨⟨by omega, h'⟩, by omega⟩
    rintro ⟨⟨-, h'⟩, h⟩
    exact ⟨by omega, h'⟩

/-- **The user half**: its tables are in frames taken from the allocator. -/
instance userHalf : Zone where
  Path := UserPath
  Entry p i := p = [] → i.val < 256
  Held := Taken
  nil := ⟨by simp, by simp⟩
  concat := userPath_concat
  leaf _ hp hnil := absurd (hnil ▸ hp) (by simp)
  not_free h := h.not_free
  of_taken h := h
  congr h ht := (h _).mpr ht

abbrev Place.IsUser (P : Place) : Prop := P.InZone

end ProjectZero.Mm.AddressSpace
