import ProjectZero.Libzero.Accounting

/-! # What the operations do to a domain

In a balanced domain, whose columns add up to the physical capacity, no arithmetic fails half way:
each operation refuses without a change, or moves an amount from one column to another
(`move_cases`, `admitAllocation_cases`), and the loss of the provider moves everything
(`quarantineOnProviderLost_ok`). -/

namespace ProjectZero.Libzero.Domain

open Resource Accounting DimensionCapacityVector AccountingDomain

variable {d d' : AccountingDomain} {amount : DimensionCapacityVector} {src dst : Column}

/-! ### Balanced domains -/

/-- The sum of the columns in a dimension. -/
def total (d : AccountingDomain) (i : Fin 8) : ℕ :=
  (d.capacity .avail).dimensions i + (d.capacity .resv).dimensions i +
    (d.capacity .alloc).dimensions i + (d.capacity .unavail).dimensions i

/-- The columns add up to the physical capacity. -/
structure Balanced (d : AccountingDomain) : Prop where
  phys : Shaped d.physCapacity
  shaped : ∀ c, Shaped (d.capacity c)
  sum_eq : ∀ i, total d i = d.physCapacity.dimensions i

lemma two_le_total (d : AccountingDomain) (h : src ≠ dst) (i : Fin 8) :
    (d.capacity src).dimensions i + (d.capacity dst).dimensions i ≤ total d i := by
  unfold total
  cases src <;> cases dst <;> first | exact absurd rfl h | omega

lemma Balanced.total_lt (h : Balanced d) (i : Fin 8) : total d i < 2 ^ 64 := by
  rw [h.sum_eq i]
  exact h.phys.word i

lemma checkedAdd_of_lt {a b : ℕ} (h : a + b < 2 ^ 64) : checkedAdd a b = some (a + b) := if_pos h

lemma checkedTotal_eq {c₁ c₂ c₃ c₄ : Column} {i : Fin 8}
    (h : (d.capacity c₁).dimensions i + (d.capacity c₂).dimensions i +
      (d.capacity c₃).dimensions i + (d.capacity c₄).dimensions i < 2 ^ 64) :
    d.checkedTotal c₁ c₂ c₃ c₄ i = some ((d.capacity c₁).dimensions i +
      (d.capacity c₂).dimensions i + (d.capacity c₃).dimensions i +
      (d.capacity c₄).dimensions i) := by
  unfold checkedTotal
  rw [checkedAdd_of_lt (by omega), Option.bind_eq_bind, Option.bind_some,
    checkedAdd_of_lt (by omega), Option.bind_some, checkedAdd_of_lt h]

lemma assertConservation_ok (h : Balanced d) : d.assertConservation = .ok () := by
  refine if_pos fun i _ => ?_
  rw [checkedTotal_eq (h.total_lt i), ← h.sum_eq i]
  rfl

/-! ### Moving an amount -/

/-- The amount has left one column and entered another. -/
structure Moved (src dst : Column) (amount : DimensionCapacityVector) (d d' : AccountingDomain) :
    Prop where
  resourceId : d'.resourceId = d.resourceId
  phys : d'.physCapacity = d.physCapacity
  locked : d'.writerLocked = d.writerLocked
  left : ∀ i, (d'.capacity src).dimensions i + amount.dimensions i = (d.capacity src).dimensions i
  entered : ∀ i, (d'.capacity dst).dimensions i =
    (d.capacity dst).dimensions i + amount.dimensions i
  other : ∀ c ≠ src, c ≠ dst → d'.capacity c = d.capacity c
  shaped : ∀ c, Shaped (d'.capacity c)

lemma Moved.balanced (hm : Moved src dst amount d d') (h : Balanced d) (hne : src ≠ dst) :
    Balanced d' where
  phys := by
    rw [hm.phys]
    exact h.phys
  shaped := hm.shaped
  sum_eq i := by
    have hcol : ∀ c, (d'.capacity c).dimensions i + (if c = src then amount.dimensions i else 0) =
        (d.capacity c).dimensions i + (if c = dst then amount.dimensions i else 0) := by
      intro c
      by_cases hs : c = src
      · rw [hs, if_pos rfl, if_neg hne, hm.left i]
        rfl
      by_cases hd : c = dst
      · rw [hd, if_pos rfl, if_neg hne.symm, hm.entered i]
        rfl
      · rw [if_neg hs, if_neg hd, hm.other c hs hd]
    have h1 := hcol .avail
    have h2 := hcol .resv
    have h3 := hcol .alloc
    have h4 := hcol .unavail
    have hold := h.sum_eq i
    rw [hm.phys, ← hold]
    unfold total
    cases src <;> cases dst <;> first
      | exact absurd rfl hne
      | (simp only [reduceCtorEq, if_true, if_false] at h1 h2 h3 h4; omega)

lemma moved_set {v w : DimensionCapacityVector} (h : Balanced d) (hne : src ≠ dst)
    (hv : Shaped v) (hw : Shaped w)
    (hleft : ∀ i, v.dimensions i + amount.dimensions i = (d.capacity src).dimensions i)
    (hentered : ∀ i, w.dimensions i = (d.capacity dst).dimensions i + amount.dimensions i) :
    Moved src dst amount d ((d.set src v).set dst w) := by
  have hcap : ∀ c, ((d.set src v).set dst w).capacity c =
      if c = dst then w else if c = src then v else d.capacity c := by
    intro c
    simp only [AccountingDomain.set, update_apply]
  refine ⟨rfl, rfl, rfl, fun i => ?_, fun i => ?_, fun c hs hd => ?_, fun c => ?_⟩
  · rw [hcap, if_neg hne, if_pos rfl]
    exact hleft i
  · rw [hcap, if_pos rfl]
    exact hentered i
  · rw [hcap, if_neg hd, if_neg hs]
  rw [hcap]
  split
  · exact hw
  split
  · exact hv
  · exact h.shaped c

lemma exists_moved (h : Balanced d) (ha : Shaped amount) (hne : src ≠ dst)
    (hle : ∀ i, amount.dimensions i ≤ (d.capacity src).dimensions i) :
    ∃ v w, (d.capacity src).checkedSub amount = .ok v ∧ (d.capacity dst).checkedAdd amount = .ok w ∧
      Moved src dst amount d ((d.set src v).set dst w) := by
  obtain ⟨v, hv, hvs, hvi⟩ := checkedSub_ok (h.shaped src) ha hle
  have hroom : ∀ i, (d.capacity dst).dimensions i + amount.dimensions i < 2 ^ 64 := by
    intro i
    have htwo := two_le_total d hne i
    have hlt := h.total_lt i
    have hi := hle i
    omega
  obtain ⟨w, hw, hws, hwi⟩ := checkedAdd_ok (h.shaped dst) ha hroom
  refine ⟨v, w, hv, hw, moved_set h hne hvs hws (fun i => ?_) hwi⟩
  have hi := hle i
  rw [hvi i]
  omega

/-- **A move** is refused, or done: it is done if the amount is there. -/
lemma move_cases (h : Balanced d) (ha : Shaped amount) (hne : src ≠ dst) :
    (¬(∀ i, amount.dimensions i ≤ (d.capacity src).dimensions i) ∧
      ∃ e, move src dst amount d = (.error e, d)) ∨
      ∃ d', move src dst amount d = (.ok (), d') ∧ Moved src dst amount d d' := by
  unfold move
  by_cases hle : ∀ i, amount.dimensions i ≤ (d.capacity src).dimensions i
  · obtain ⟨v, w, hv, hw, hmoved⟩ := exists_moved h ha hne hle
    have hdst : (d.set src v).capacity dst = d.capacity dst := by
      rw [AccountingDomain.set]
      exact update_of_ne hne.symm _ _
    refine .inr ⟨(d.set src v).set dst w, ?_, hmoved⟩
    rw [hv]
    dsimp only
    rw [hdst, hw]
    dsimp only
    rw [assertConservation_ok (hmoved.balanced h hne)]
  obtain ⟨e, he⟩ := checkedSub_error ha hle
  refine .inl ⟨hle, e, ?_⟩
  rw [he]

lemma admitAllocationInner_cases (h : Balanced d) (ha : Shaped amount)
    (coupling : Option CouplingConstraintMatrix) :
    (∃ e, admitAllocationInner amount coupling d = (.error e, d)) ∨
      ∃ d', admitAllocationInner amount coupling d = (.ok (), d') ∧
        Moved .avail .alloc amount d d' := by
  have hne : Column.avail ≠ Column.alloc := by decide
  unfold admitAllocationInner
  by_cases hfit : amount.le (d.capacity .avail) = true
  · obtain ⟨v, w, hv, hw, hmoved⟩ := exists_moved h ha hne ((le_iff ha).mp hfit)
    rw [if_neg (by rw [hfit]; simp), hw]
    dsimp only
    split
    · exact .inl ⟨_, rfl⟩
    refine .inr ⟨(d.set .avail v).set .alloc w, ?_, hmoved⟩
    rw [hv]
    dsimp only
    rw [assertConservation_ok (hmoved.balanced h hne)]
  rw [if_pos (by simpa using hfit)]
  exact .inl ⟨_, rfl⟩

lemma admitAllocation_cases (h : Balanced d) (hu : d.writerLocked = false)
    (ha : Shaped amount) (coupling : Option CouplingConstraintMatrix) :
    (∃ e, admitAllocation amount coupling d = (.error e, d)) ∨
      ∃ d', admitAllocation amount coupling d = (.ok (), d') ∧ Moved .avail .alloc amount d d' := by
  have hlock : Balanced { d with writerLocked := true } := ⟨h.phys, h.shaped, h.sum_eq⟩
  have hunlock : { d with writerLocked := false } = d := by
    cases d
    cases hu
    rfl
  unfold admitAllocation
  rw [if_neg (by rw [hu]; simp)]
  rcases admitAllocationInner_cases hlock ha coupling with ⟨e, he⟩ | ⟨d', he, hm⟩
  · refine .inl ⟨e, ?_⟩
    rw [he]
    dsimp only
    rw [hunlock]
  refine .inr ⟨{ d' with writerLocked := false }, ?_, ?_⟩
  · rw [he]
  · exact ⟨hm.resourceId, hm.phys, hu.symm, hm.left, hm.entered, hm.other, hm.shaped⟩

/-! ### The loss of the provider -/

lemma loseDimensions_ok (is : List (Fin 8)) (hlt : ∀ i, total d i < 2 ^ 64) :
    ∃ d', loseDimensions is d = (.ok (), d') ∧ d'.resourceId = d.resourceId ∧
      d'.physCapacity = d.physCapacity ∧ d'.writerLocked = d.writerLocked ∧
      ∀ c i, (d'.capacity c).dimensions i =
        if i ∈ is then (if c = .unavail then total d i else 0) else (d.capacity c).dimensions i := by
  induction is generalizing d with
  | nil => exact ⟨d, rfl, rfl, rfl, rfl, fun c i => by simp⟩
  | cons k is ih =>
    have hsum : (d.capacity .unavail).dimensions k + (d.capacity .avail).dimensions k +
        (d.capacity .resv).dimensions k + (d.capacity .alloc).dimensions k = total d k := by
      unfold total
      omega
    have hstep : d.checkedTotal .unavail .avail .resv .alloc k = some (total d k) := by
      rw [checkedTotal_eq (by rw [hsum]; exact hlt k), hsum]
    have hcap : ∀ c i, ((d.loseDimension k (total d k)).capacity c).dimensions i =
        if i = k then (if c = .unavail then total d k else 0) else (d.capacity c).dimensions i := by
      intro c i
      rw [loseDimension]
      dsimp only
      rw [update_apply]
    have htotal : ∀ i, total (d.loseDimension k (total d k)) i = total d i := by
      intro i
      rw [total, hcap, hcap, hcap, hcap]
      by_cases hi : i = k
      · rw [if_pos hi, if_pos hi, if_pos hi, if_pos hi, hi]
        simp
      rw [if_neg hi, if_neg hi, if_neg hi, if_neg hi]
      rfl
    obtain ⟨d', hd', hid, hphys, hlock, hdims⟩ := ih (d := d.loseDimension k (total d k))
      fun i => by rw [htotal i]; exact hlt i
    refine ⟨d', ?_, hid, hphys, hlock, fun c i => ?_⟩
    · rw [loseDimensions, hstep]
      exact hd'
    rw [hdims, htotal, hcap]
    by_cases hi : i = k
    · subst hi
      by_cases his : i ∈ is
      · rw [if_pos his, if_pos List.mem_cons_self]
      · rw [if_neg his, if_pos rfl, if_pos List.mem_cons_self]
    · simp [hi]

lemma quarantineOnProviderLost_ok (h : Balanced d) : ∃ d',
    quarantineOnProviderLost d = (.ok (), d') ∧ Balanced d' ∧ d'.resourceId = d.resourceId ∧
      d'.writerLocked = d.writerLocked ∧ ∀ i, (d'.capacity .alloc).dimensions i = 0 := by
  obtain ⟨d1, hloop, hid, hphys, hlock, hdims⟩ := loseDimensions_ok
    ((List.finRange 8).filter fun i => i.val < d.physCapacity.dimensionCount) (h.total_lt)
  let d2 : AccountingDomain := { d1 with capacity := fun c =>
    { d1.capacity c with dimensionCount := d.physCapacity.dimensionCount } }
  have hzero : ∀ c i, ¬i.val < d.physCapacity.dimensionCount → (d.capacity c).dimensions i = 0 := by
    intro c i hi
    have hsum := h.sum_eq i
    rw [h.phys.beyond i (by omega)] at hsum
    unfold total at hsum
    cases c <;> omega
  have hcap : ∀ c i, (d2.capacity c).dimensions i =
      if c = .unavail then d.physCapacity.dimensions i else 0 := by
    intro c i
    rw [hdims]
    by_cases hi : i.val < d.physCapacity.dimensionCount
    · rw [if_pos (by simpa using hi), h.sum_eq i]
    rw [if_neg (by simpa using hi), hzero c i hi, h.phys.beyond i (by omega)]
    simp
  have hbal : Balanced d2 := by
    refine ⟨?_, fun c => ⟨h.phys.count_le, fun i hi => ?_, fun i => ?_⟩, fun i => ?_⟩
    · rw [hphys]
      exact h.phys
    · rw [hcap, h.phys.beyond i hi]
      simp
    · rw [hcap]
      split
      · exact h.phys.word i
      · exact Nat.two_pow_pos 64
    rw [total, hcap, hcap, hcap, hcap]
    rw [hphys]
    simp
  refine ⟨d2, ?_, hbal, hid, hlock, fun i => by rw [hcap]; simp⟩
  unfold quarantineOnProviderLost
  dsimp only
  rw [hloop]
  exact Prod.ext (assertConservation_ok hbal) rfl

end ProjectZero.Libzero.Domain
