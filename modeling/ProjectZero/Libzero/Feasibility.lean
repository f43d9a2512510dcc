import ProjectZero.Libzero.Accounting

/-! # What coupling feasibility decides

`is_feasible` compares the sum of each row with its limit in `i64`: capacities are cast, products
and sums saturate. What saturates stays on its side of the limit, unless a term of the other sign
brings it back or the limit is the largest `i64` itself. -/

namespace ProjectZero.Libzero.Feasibility

open Resource Accounting

/-- The value is one of an `i64`. -/
def Fits (x : ℤ) : Prop := -2 ^ 63 ≤ x ∧ x < 2 ^ 63
  deriving Decidable

/-- Neither value saturates, or they have the same sign. -/
def Tame (x y : ℤ) : Prop := Fits x ∧ Fits y ∨ 0 ≤ x ∧ 0 ≤ y ∨ x ≤ 0 ∧ y ≤ 0
  deriving Decidable

lemma saturate_add {x y : ℤ} (h : Tame x y) :
    saturate (saturate x + saturate y) = saturate (x + y) := by
  unfold Tame Fits at h
  unfold saturate
  omega

lemma saturate_le_iff {x limit : ℤ} (hl : Fits limit) (h : x < 2 ^ 63 ∨ limit < 2 ^ 63 - 1) :
    saturate x ≤ limit ↔ x ≤ limit := by
  unfold Fits at hl
  unfold saturate
  omega

variable (a : CouplingConstraintMatrix) (cap : DimensionCapacityVector) (r : Fin 8)

def columns : List (Fin 8) := (List.finRange 8).filter fun c => c.val < cap.dimensionCount

/-- A product of a row, as an integer. -/
def term (c : Fin 8) : ℤ := a.coefficients r c * cap.dimensions c

/-- The sum of a row, as an integer. -/
def rowSum (l : List (Fin 8)) : ℤ := (l.map (term a cap r)).sum

/-- No capacity that counts is cast to another value, nothing that saturates meets the other sign,
and a limit of `i64::MAX` is not exceeded. -/
structure Tractable : Prop where
  cast : ∀ c ∈ columns cap, a.coefficients r c = 0 ∨ cap.dimensions c < 2 ^ 63
  step : ∀ l ∈ (columns cap).inits, ∀ c ∈ columns cap, l ++ [c] ∈ (columns cap).inits →
    Tame (rowSum a cap r l) (term a cap r c)
  limit : rowSum a cap r (columns cap) < 2 ^ 63 ∨ a.limits r < 2 ^ 63 - 1

variable {a cap r}

lemma Tractable.foldl_eq (h : Tractable a cap r) (l : List (Fin 8)) (hl : l ∈ (columns cap).inits) :
    l.foldl (fun sum c => saturate (sum + saturate (a.coefficients r c * asI64 (cap.dimensions c))))
      0 = saturate (rowSum a cap r l) := by
  induction l using List.reverseRecOn with
  | nil => rfl
  | append_singleton l c ih =>
    have hp := (List.mem_inits _ _).mp hl
    have hl' := (List.mem_inits _ _).mpr ((List.prefix_append _ _).trans hp)
    have hc : c ∈ columns cap := hp.subset (by simp)
    have hterm : a.coefficients r c * asI64 (cap.dimensions c) = term a cap r c := by
      rcases h.cast c hc with hzero | hlt
      · rw [term, hzero, Int.zero_mul, Int.zero_mul]
      · rw [asI64, if_pos hlt, term]
    rw [List.foldl_append, ih hl', List.foldl_cons, List.foldl_nil, hterm,
      saturate_add (h.step l hl' c hc hl)]
    simp [rowSum]

/-- The sum of the row is at most its limit. -/
def Satisfied (a : CouplingConstraintMatrix) (cap : DimensionCapacityVector) (r : Fin 8) : Prop :=
  rowSum a cap r (columns cap) ≤ a.limits r
  deriving Decidable

/-- **Feasibility is exact** where no cast and no saturation changes the side of the limit, in the rows
up to the first that is not satisfied. -/
theorem isFeasible_exact (hlimit : ∀ r, Fits (a.limits r))
    (h : ∀ r : Fin 8, r.val < a.constraintCount → (∀ s < r, Satisfied a cap s) →
      Tractable a cap r) :
    a.isFeasible cap = true ↔ ∀ r : Fin 8, r.val < a.constraintCount → Satisfied a cap r := by
  unfold CouplingConstraintMatrix.isFeasible
  rw [decide_eq_true_iff]
  have hrow : ∀ r : Fin 8, Tractable a cap r → (_ ↔ Satisfied a cap r) := fun r hr => by
    rw [Satisfied, ← saturate_le_iff (hlimit r) hr.limit,
      ← hr.foldl_eq _ ((List.mem_inits _ _).mpr (List.prefix_refl _)), columns]
  refine ⟨fun hall r => ?_, fun hall r hr => ?_⟩
  · -- by induction on the row: those before it are satisfied
    induction r using WellFoundedLT.induction with
    | ind r ih =>
      intro hr
      exact (hrow r (h r hr fun s hs => ih s hs (lt_trans hs hr))).mp (hall r hr)
  · exact (hrow r (h r hr fun s hs => hall s (lt_trans hs hr))).mpr (hall r hr)

/-- The first capacity is at most `limit`, and it is at most the second. -/
def ordered (limit : ℤ) : CouplingConstraintMatrix where
  coefficients r c := if c = 0 then if r = 0 then 1 else 4 else if r = 1 ∧ c = 1 then -4 else 0
  limits r := if r = 0 then limit else 0
  constraintCount := 2
  count_le := by decide

def pair (x y : ℕ) : DimensionCapacityVector where
  dimensions c := if c = 0 then x else y
  dimensionCount := 2

/-- Both rows are looked at, and satisfied; or only the first is, and the second would saturate. -/
theorem isFeasible_exact_ordered : (ordered 5).isFeasible (pair 3 4) = true ∧
    ¬(ordered 5).isFeasible (pair (2 ^ 62) (2 ^ 62)) = true := by
  have hlimit : ∀ r, Fits ((ordered 5).limits r) := by decide
  constructor
  · exact (isFeasible_exact hlimit fun r _ _ => ⟨by decide +revert +kernel,
      by decide +revert +kernel, by decide +revert +kernel⟩).mpr (by decide +kernel)
  rw [isFeasible_exact hlimit fun r hr hs => ?_]
  · decide +kernel
  have h0 : r = 0 := by
    by_contra hne
    exact absurd (hs 0 (Fin.pos_of_ne_zero hne)) (by decide +kernel)
  subst h0
  exact ⟨by decide +kernel, by decide +kernel, by decide +kernel⟩

/-- **A capacity becomes negative**, and a row that is violated by far passes. -/
theorem isFeasible_huge : ¬((ordered 100).isFeasible (pair (2 ^ 63) (2 ^ 63)) = true ↔
    ∀ r : Fin 8, r.val < (ordered 100).constraintCount →
      Satisfied (ordered 100) (pair (2 ^ 63) (2 ^ 63)) r) := by
  decide +kernel

end ProjectZero.Libzero.Feasibility
