import ProjectZero.Lib.Update

/-! # Reference counting

A table holds references: its entry at `a` refers to the thing `owner a (tab a)`, or to nothing. A
counter for every thing is exact, `Counted`, when it is the number of entries that refer to the thing.
The three ways a table changes keep this: an entry takes a reference, drops one, or hands it to another
entry. -/

namespace ProjectZero.Lib.Count

variable {α β ι : Type} [Fintype α] [DecidableEq ι]

/-- The number of entries that refer to `i`. -/
def refs (owner : α → β → Option ι) (tab : α → β) (i : ι) : ℕ :=
  (Finset.univ.filter fun a => owner a (tab a) = some i).card

/-- The counter is the number of references. -/
def Counted (owner : α → β → Option ι) (tab : α → β) (counter : ι → ℕ) : Prop :=
  ∀ i, counter i = refs owner tab i

variable {owner : α → β → Option ι} {tab tab' : α → β} {counter counter' : ι → ℕ}

lemma refs_eq_zero {i : ι} : refs owner tab i = 0 ↔ ∀ a, owner a (tab a) ≠ some i := by
  simp [refs, Finset.filter_eq_empty_iff]

lemma refs_pos {i : ι} : 0 < refs owner tab i ↔ ∃ a, owner a (tab a) = some i := by
  simp [refs, Finset.card_pos, Finset.Nonempty]

lemma refs_le (i : ι) : refs owner tab i ≤ Fintype.card α := Finset.card_le_univ _

lemma refs_congr {i : ι} (h : ∀ a, owner a (tab' a) = some i ↔ owner a (tab a) = some i) :
    refs owner tab' i = refs owner tab i := by
  exact congrArg Finset.card (Finset.filter_congr fun a _ => h a)

lemma refs_eq_card {i : ι} {P : α → Prop} [DecidablePred P]
    (h : ∀ a, owner a (tab a) = some i ↔ P a) : refs owner tab i = (Finset.univ.filter P).card := by
  exact congrArg Finset.card (Finset.filter_congr fun a _ => h a)

lemma refs_drop [DecidableEq α] {a : α} {i : ι} (hsame : ∀ b ≠ a, tab' b = tab b)
    (ha : owner a (tab a) = some i) (ha' : owner a (tab' a) ≠ some i) :
    refs owner tab i = refs owner tab' i + 1 := by
  have hset : (Finset.univ.filter fun b => owner b (tab b) = some i) =
      insert a (Finset.univ.filter fun b => owner b (tab' b) = some i) := by
    ext b
    by_cases hb : b = a
    · subst hb; simp [ha]
    · simp [hb, hsame b hb]
  unfold refs
  rw [hset, Finset.card_insert_of_notMem (by simp [ha'])]

section

variable (h : Counted owner tab counter)

include h

lemma Counted.pos {a : α} {i : ι} (ha : owner a (tab a) = some i) : 0 < counter i := by
  rw [h i]
  exact refs_pos.mpr ⟨a, ha⟩

lemma Counted.congr
    (ht : ∀ a, owner a (tab' a) = owner a (tab a)) (hc : ∀ i, counter' i = counter i) :
    Counted owner tab' counter' := fun i => by
  rw [hc i, h i]
  exact (refs_congr fun a => by rw [ht a]).symm

lemma Counted.keep {i : ι} {n : ℕ} (hn : n = counter i) : Counted owner tab (update counter i n) := by
  rw [hn, update_eq_self]
  exact h

variable [DecidableEq α] {a b : α} {i : ι} {x y : β}

/-- **An entry takes a reference** to `i`. -/
lemma Counted.take (ha : owner a (tab a) = .none) (hx : owner a x = some i) :
    Counted owner (update tab a x) (update counter i (counter i + 1)) := by
  intro j
  by_cases hj : j = i
  · subst hj
    rw [update_self, h j]
    exact (refs_drop (fun b hb => (update_of_ne hb _ _).symm) (by simpa using hx) (by simp [ha])).symm
  rw [update_of_ne hj, h j]
  refine (refs_congr fun b => ?_).symm
  by_cases hb : b = a
  · subst hb; simp [ha, hx, Ne.symm hj]
  · rw [update_of_ne hb]

/-- **An entry drops its reference** to `i`. -/
lemma Counted.drop (ha : owner a (tab a) = some i) (hx : owner a x = .none) :
    Counted owner (update tab a x) (update counter i (counter i - 1)) := by
  intro j
  by_cases hj : j = i
  · subst hj
    have hdrop : refs owner tab j = refs owner (update tab a x) j + 1 :=
      refs_drop (fun b hb => update_of_ne hb _ _) ha (by simp [hx])
    rw [update_self, h j]
    omega
  rw [update_of_ne hj, h j]
  refine (refs_congr fun b => ?_).symm
  by_cases hb : b = a
  · subst hb; simp [ha, hx, Ne.symm hj]
  · rw [update_of_ne hb]

/-- **A reference goes from `a` to `b`**; the counters stay. -/
lemma Counted.pass (hab : a ≠ b) (ha : owner a (tab a) = some i) (hx : owner a x = .none)
    (hb : owner b (tab b) = .none) (hy : owner b y = some i) :
    Counted owner (update (update tab b y) a x) counter := by
  have hmid := (h.take hb hy).drop (a := a) (by rw [update_of_ne hab, ha]) hx
  rwa [update_self, Nat.add_sub_cancel, update_idem, update_eq_self] at hmid

end

end ProjectZero.Lib.Count
