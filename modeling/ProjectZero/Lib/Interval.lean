import Mathlib

/-! # Half-open ranges

Ranges of numbers as programs keep them, a first number and the one after the last, with the set of
numbers they stand for: the hull of two ranges that touch, what is left of a range when another one is
taken away, the blocks of a given size inside a range, and tables of bounded length. -/

namespace ProjectZero.Lib.Interval

structure Range where
  start : ℕ
  stop : ℕ
  deriving DecidableEq

namespace Range

/-- The numbers of the range. -/
def toSet (r : Range) : Set ℕ := Set.Ico r.start r.stop

variable {a b r : Range} {x n : ℕ}

/-- `a` lies between the ends of `b`. -/
def Within (a b : Range) : Prop := b.start ≤ a.start ∧ a.stop ≤ b.stop

lemma Within.refl (a : Range) : a.Within a := ⟨le_rfl, le_rfl⟩

lemma Within.trans (hab : a.Within b) (hbr : b.Within r) : a.Within r :=
  ⟨hbr.1.trans hab.1, hab.2.trans hbr.2⟩

lemma Within.subset (h : a.Within b) : a.toSet ⊆ b.toSet := Set.Ico_subset_Ico h.1 h.2

/-- The numbers from one range to the other. -/
def hull (a b : Range) : Range := ⟨min a.start b.start, max a.stop b.stop⟩

/-- Ranges with a number in common. -/
def Overlaps (a b : Range) : Prop := max a.start b.start < min a.stop b.stop
  deriving Decidable

lemma disjoint_iff : Disjoint a.toSet b.toSet ↔ ¬Overlaps a b := by
  rw [Set.disjoint_iff_inter_eq_empty, toSet, toSet, Set.Ico_inter_Ico, Set.Ico_eq_empty_iff]
  rfl

lemma disjoint_left (h : a.stop ≤ b.start) : Disjoint a.toSet b.toSet := by
  rw [disjoint_iff, Overlaps]
  omega

/-- The block with the number `i`, of `n` numbers. -/
def block (n i : ℕ) : Range := ⟨i * n, (i + 1) * n⟩

end Range

/-! ### Tables of bounded length -/

section Bounded

variable {α β : Type} {l : List α} {x y : α}

/-- `x` at the end of the table, unless it is full. -/
def push (limit : ℕ) (l : List α) (x : α) : List α := if l.length < limit then l ++ [x] else l

/-- The entry at `i` leaves the table, and the last one takes its place. -/
def swapRemove (l : List α) (i : ℕ) : List α :=
  match l.getLast? with
  | none => []
  | some last => (l.set i last).dropLast

end Bounded

end ProjectZero.Lib.Interval
