import Mathlib

/-! # Identifiers and capacities of `libzero`

The errors of the library, its checked arithmetic on 64-bit words, distributed identifiers and
capacity vectors of up to eight dimensions. -/

namespace ProjectZero.Libzero.Resource

inductive ZeroError
  | success | invalidSyscall | badAddress | invalidHandle | permissionDenied | objectTableFull
  | badMessageSize | notFound | alreadyExists | invalidRequest | capAmplificationRejected
  | generationMismatch | staleEndpoint | serviceFailed | maxRetriesExceeded | wouldBlock
  | peerClosed | timeout | unsupportedResourceShape | dimensionLimitExceeded
  | vectorConservationViolated | couplingViolation | timeAuthorityUnavailable
  | timeObservationStale | hardwareRegressionDetected | epochExhaustion | deadlineExhaustion
  | identifierExhausted | capacityQuarantined | providerConfirmationRequired | quotaExceeded
  | cyclicDependency | staleSpatialIndex | staleSessionEpoch | unknown
  deriving DecidableEq

/-- `u64::checked_add`. -/
def checkedAdd (a b : ℕ) : Option ℕ := if a + b < 2 ^ 64 then some (a + b) else none

/-- `u64::checked_sub`. -/
def checkedSub (a b : ℕ) : Option ℕ := if b ≤ a then some (a - b) else none

lemma checkedAdd_eq_some {a b c : ℕ} (h : checkedAdd a b = some c) : c = a + b ∧ c < 2 ^ 64 := by
  unfold checkedAdd at h
  split at h
  · cases h
    exact ⟨rfl, by assumption⟩
  · cases h

structure DistributedId where
  nodeId : ℕ
  localSeq : ℕ
  deriving DecidableEq

/-! ### Capacity vectors -/

/-- `MAX_ACCOUNTING_DIMENSIONS`. -/
def maxAccountingDimensions : ℕ := 8

structure DimensionCapacityVector where
  dimensions : Fin 8 → ℕ
  dimensionCount : ℕ

namespace DimensionCapacityVector

def empty : DimensionCapacityVector := { dimensions := fun _ => 0, dimensionCount := 0 }

scoped instance ne8 : NeZero 8 := ⟨by decide⟩

/-- A vector of one dimension. -/
def single (amount : ℕ) : DimensionCapacityVector :=
  { dimensions := fun i => if i = 0 then amount else 0, dimensionCount := 1 }

/-- The loop of `checked_add` and `checked_sub` over the dimensions of the longer vector. -/
def combine (op : ℕ → ℕ → Option ℕ) (failed : ZeroError) (v w : DimensionCapacityVector) :
    Except ZeroError DimensionCapacityVector :=
  let count := max v.dimensionCount w.dimensionCount
  if maxAccountingDimensions < count then .error .unsupportedResourceShape
  else if ∃ i : Fin 8, i.val < count ∧ op (v.dimensions i) (w.dimensions i) = none then
    .error failed
  else .ok {
    dimensions := fun i =>
      if i.val < count then (op (v.dimensions i) (w.dimensions i)).getD 0 else 0
    dimensionCount := count }

def checkedAdd : DimensionCapacityVector → DimensionCapacityVector →
    Except ZeroError DimensionCapacityVector := combine Resource.checkedAdd .deadlineExhaustion

def checkedSub : DimensionCapacityVector → DimensionCapacityVector →
    Except ZeroError DimensionCapacityVector :=
  combine Resource.checkedSub .vectorConservationViolated

/-- `le`, for vectors of at most eight dimensions. -/
def le (v w : DimensionCapacityVector) : Bool :=
  decide (∀ i : Fin 8, i.val < max v.dimensionCount w.dimensionCount →
    v.dimensions i ≤ w.dimensions i)

/-- At most eight dimensions, zeros beyond them, and words of 64 bits. -/
structure Shaped (v : DimensionCapacityVector) : Prop where
  count_le : v.dimensionCount ≤ maxAccountingDimensions
  beyond : ∀ i : Fin 8, v.dimensionCount ≤ i.val → v.dimensions i = 0
  word : ∀ i, v.dimensions i < 2 ^ 64

lemma shaped_empty : Shaped empty := ⟨by decide, fun _ _ => rfl, fun _ => Nat.two_pow_pos 64⟩

variable {v w : DimensionCapacityVector}

lemma le_iff (hv : Shaped v) : v.le w ↔ ∀ i, v.dimensions i ≤ w.dimensions i := by
  unfold le
  rw [decide_eq_true_iff]
  constructor
  · intro h i
    by_cases hi : i.val < max v.dimensionCount w.dimensionCount
    · exact h i hi
    rw [hv.beyond i (by omega)]
    exact Nat.zero_le _
  intro h i _
  exact h i

section

variable (hv : Shaped v) (hw : Shaped w)

include hv hw

lemma combine_ok {op : ℕ → ℕ → Option ℕ} {failed : ZeroError} (h0 : op 0 0 = some 0) {f : Fin 8 → ℕ}
    (hop : ∀ i, op (v.dimensions i) (w.dimensions i) = some (f i)) (hf : ∀ i, f i < 2 ^ 64) :
    ∃ u, combine op failed v w = .ok u ∧ Shaped u ∧ ∀ i, u.dimensions i = f i := by
  have hcount : ¬maxAccountingDimensions < max v.dimensionCount w.dimensionCount := by
    have := hv.count_le
    have := hw.count_le
    omega
  have hzero : ∀ i : Fin 8, ¬i.val < max v.dimensionCount w.dimensionCount → f i = 0 := by
    intro i hi
    have hi' := hop i
    rw [hv.beyond i (by omega), hw.beyond i (by omega), h0] at hi'
    exact (Option.some.inj hi').symm
  have hval : ∀ i : Fin 8, (if i.val < max v.dimensionCount w.dimensionCount then
      (op (v.dimensions i) (w.dimensions i)).getD 0 else 0) = f i := by
    intro i
    split
    · rw [hop i]
      rfl
    rename_i hi
    exact (hzero i hi).symm
  unfold combine
  rw [if_neg hcount, if_neg (by rintro ⟨i, -, hi⟩; rw [hop i] at hi; cases hi)]
  refine ⟨_, rfl, ⟨Nat.le_of_not_lt hcount, fun i hi => ?_, fun i => ?_⟩, hval⟩
  · exact if_neg (by dsimp only at hi; omega)
  dsimp only
  rw [hval i]
  exact hf i

/-- **Addition** of vectors whose sums are words. -/
lemma checkedAdd_ok (h : ∀ i, v.dimensions i + w.dimensions i < 2 ^ 64) :
    ∃ u, v.checkedAdd w = .ok u ∧ Shaped u ∧ ∀ i, u.dimensions i = v.dimensions i + w.dimensions i :=
  combine_ok hv hw rfl (fun i => if_pos (h i)) h

/-- **Subtraction** of a smaller vector. -/
lemma checkedSub_ok (h : ∀ i, w.dimensions i ≤ v.dimensions i) :
    ∃ u, v.checkedSub w = .ok u ∧ Shaped u ∧ ∀ i, u.dimensions i = v.dimensions i - w.dimensions i :=
  combine_ok hv hw rfl (fun i => if_pos (h i)) fun i =>
    lt_of_le_of_lt (Nat.sub_le _ _) (hv.word i)

end

lemma checkedSub_error (hw : Shaped w) (h : ¬∀ i, w.dimensions i ≤ v.dimensions i) :
    ∃ e, v.checkedSub w = .error e := by
  push Not at h
  obtain ⟨i, hi⟩ := h
  have hlt : i.val < max v.dimensionCount w.dimensionCount := by
    by_contra hc
    rw [hw.beyond i (by omega)] at hi
    omega
  unfold checkedSub combine
  dsimp only
  split
  · exact ⟨_, rfl⟩
  rw [if_pos ⟨i, hlt, if_neg (by omega)⟩]
  exact ⟨_, rfl⟩

end DimensionCapacityVector

end ProjectZero.Libzero.Resource
