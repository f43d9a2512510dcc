import ProjectZero.Elf.Validate

/-! # Pointers from user space

`validate_user_range` checks the range of addresses that a system call was given, page by page. It
reads the flags of the entry that maps a page; the processor asks every entry on the way to it. So the
check is exact unless an entry further up forbids what the last one permits
(`validateUserRange_exact_iff`); it then accepts memory that the process cannot use
(`supervisor_table_accepted`). -/

namespace ProjectZero.Mm.UserRange

open ProjectZero.Tables Vmm Elf.Validate PageTableFlags

inductive MemoryAccess
  | read | write | execute
  deriving DecidableEq

/-- What the check asks of the flags of a page. -/
def permits (access : MemoryAccess) (flags : BitVec 64) : Bool :=
  contains flags present && contains flags userAccessible &&
  match access with
  | .read => true
  | .write => contains flags writable
  | .execute => !contains flags noExecute

section

variable (g : AddressSpaceGeometry) (table : PhysFrame → PageTable) (root : PhysFrame)
  (access : MemoryAccess)

/-- The loop over the pages, with the number of pages it has looked at; none if it has not ended after
so many rounds. -/
def checkPages (endPage : ℕ) : ℕ → ℕ → Option (Except SyscallError ℕ)
  | 0, _ => none
  | rounds + 1, curr =>
    match getPageFlags g table root curr with
    | .error _ => some (.error .badAddress)
    | .ok flags =>
      if permits access flags = false then some (.error .badAddress)
      else if curr = endPage then some (.ok 1)
      else if curr + 4096 ≥ 2 ^ 64 then some (.error .badAddress)
      else (checkPages endPage rounds (curr + 4096)).map (·.map (· + 1))

variable (ptr len : ℕ)

def validateUserRange : Option (Except SyscallError ℕ) :=
  if len = 0 then some (.ok 0)
  else if ptr + len ≥ 2 ^ 64 then some (.error .badAddress)
  else if ptr < userVaMin ∨ ptr + len > userVaMaxExclusive then some (.error .badAddress)
  else if ptr < userDevMmioEnd ∧ ptr + len > userDevMmioBase then some (.error .badAddress)
  -- there are no more than 2⁵² pages
  else checkPages g table root access (pageDown (ptr + len - 1)) (2 ^ 52) (pageDown ptr)

/-! ### What the check is for -/

/-- The range does not wrap around, and its bytes are user memory outside the aperture. -/
def InUserSpace : Prop :=
  ptr + len < 2 ^ 64 ∧ ∀ a, ptr ≤ a → a < ptr + len →
    userVaMin ≤ a ∧ a < userVaMaxExclusive ∧ ¬(userDevMmioBase ≤ a ∧ a < userDevMmioEnd)

/-- The number of pages that hold a byte of the range. -/
def pagesTouched : ℕ := (ptr + len - 1) / 4096 - ptr / 4096 + 1

/-- The pages of all bytes of the range satisfy `P`. -/
def Touched (P : ℕ → Bool) : Prop := ∀ a, ptr ≤ a → a < ptr + len → P (pageDown a)

/-- The entry that maps the page permits the access. -/
def leafPermits (page : ℕ) : Bool :=
  match getPageFlags g table root page with
  | .error _ => false
  | .ok flags => permits access flags

/-- Every entry on the way to the address permits the access. -/
def grantedFrom (v : VirtualAddress) : List (Bool × Fin 512) → PhysFrame → Bool
  | [], t => permits access (table t (p1Index v))
  | (huge, i) :: path, t =>
    permits access (table t i) &&
      (huge && isHuge (table t i) || grantedFrom v path (pointsToFrame g (table t i)))

/-- The processor grants the access. -/
def granted (page : ℕ) : Bool :=
  isCanonical g page && grantedFrom g table access page (levels page) root

/-- **Validation is exact**: the loop ends, it accepts the range if and only if all of it is user
memory that the process may use in this way, and it has then looked at each page once. -/
structure Exact : Prop where
  ends : validateUserRange g table root access ptr len ≠ none
  ok_iff : (∃ n, validateUserRange g table root access ptr len = some (.ok n)) ↔
    InUserSpace ptr len ∧ Touched ptr len (granted g table root access)
  rounds : ∀ n, validateUserRange g table root access ptr len = some (.ok n) →
    n = pagesTouched ptr len

end

variable {g : AddressSpaceGeometry} {table : PhysFrame → PageTable} {root : PhysFrame}
  {access : MemoryAccess} {ptr len : ℕ}

/-! ### The loop -/

lemma checkPages_succ (endPage rounds curr : ℕ) :
    checkPages g table root access endPage (rounds + 1) curr =
      if leafPermits g table root access curr = false then some (.error .badAddress)
      else if curr = endPage then some (.ok 1)
      else if curr + 4096 ≥ 2 ^ 64 then some (.error .badAddress)
      else (checkPages g table root access endPage rounds (curr + 4096)).map (·.map (· + 1)) := by
  rw [checkPages, leafPermits]
  cases getPageFlags g table root curr <;> rfl

/-- **The loop** over `n + 1` pages ends after as many rounds, or at one that forbids the access. -/
lemma checkPages_spec (n : ℕ) : ∀ {rounds curr : ℕ}, n < rounds → curr + 4096 * n < 2 ^ 64 →
    checkPages g table root access (curr + 4096 * n) rounds curr =
      if ∀ j < n + 1, leafPermits g table root access (curr + 4096 * j) = true then
        some (.ok (n + 1)) else some (.error .badAddress) := by
  induction n with
  | zero =>
    intro rounds curr hr _
    obtain ⟨r, rfl⟩ := Nat.exists_eq_add_one_of_ne_zero (Nat.ne_zero_of_lt hr)
    rw [checkPages_succ]
    cases hp : leafPermits g table root access curr <;> simp [hp]
  | succ n ih =>
    intro rounds curr hr hlt
    obtain ⟨r, rfl⟩ := Nat.exists_eq_add_one_of_ne_zero (Nat.ne_zero_of_lt hr)
    have hnext : ∀ j, curr + 4096 * (j + 1) = curr + 4096 + 4096 * j := fun j => by omega
    rw [checkPages_succ, if_congr Nat.forall_lt_succ_left rfl rfl, hnext,
      ih (by omega) (by omega), if_neg (by omega : ¬curr = _), if_neg (by omega : ¬curr + 4096 ≥ _)]
    simp only [hnext, Nat.mul_zero, Nat.add_zero]
    cases hp : leafPermits g table root access curr
    · simp
    simp only [true_and, Bool.true_eq_false, if_false]
    split <;> rfl

lemma inUserSpace_iff (hlen : 0 < len) : InUserSpace ptr len ↔ ptr + len < 2 ^ 64 ∧
    ¬(ptr < userVaMin ∨ ptr + len > userVaMaxExclusive) ∧
    ¬(ptr < userDevMmioEnd ∧ ptr + len > userDevMmioBase) := by
  have hapart : userDevMmioBase < userDevMmioEnd := by decide
  refine and_congr_right fun _ => ⟨fun h => ⟨?_, fun hm => ?_⟩, fun h a ha hlt => ?_⟩
  · have h1 := h ptr le_rfl (by omega)
    have h2 := h (ptr + len - 1) (by omega) (by omega)
    omega
  · exact (h (max ptr userDevMmioBase) (by omega) (by omega)).2.2 (by omega)
  · omega

lemma touched_iff (hlen : 0 < len) {P : ℕ → Bool} : Touched ptr len P ↔
    ∀ j < pagesTouched ptr len, P (pageDown ptr + 4096 * j) := by
  unfold pagesTouched
  refine ⟨fun h j hj => ?_, fun h a ha hlt => ?_⟩
  · have ha := h (max ptr (pageDown ptr + 4096 * j)) (by omega) (by unfold pageDown; omega)
    rwa [show pageDown (max ptr (pageDown ptr + 4096 * j)) = pageDown ptr + 4096 * j by
      unfold pageDown; omega] at ha
  have hj := h (a / 4096 - ptr / 4096) (by omega)
  rwa [show pageDown ptr + 4096 * (a / 4096 - ptr / 4096) = pageDown a by
    unfold pageDown; omega] at hj

/-- **What is accepted**: the range is user memory, and the leaves permit the access. -/
lemma validateUserRange_cases (hlen : 0 < len) :
    validateUserRange g table root access ptr len = some (.ok (pagesTouched ptr len)) ∧
      InUserSpace ptr len ∧ Touched ptr len (leafPermits g table root access) ∨
    validateUserRange g table root access ptr len = some (.error .badAddress) ∧
      ¬(InUserSpace ptr len ∧ Touched ptr len (leafPermits g table root access)) := by
  unfold validateUserRange
  rw [if_neg hlen.ne', inUserSpace_iff hlen, touched_iff hlen]
  split
  · exact .inr ⟨rfl, by omega⟩
  iterate 2
    split
    · exact .inr ⟨rfl, by tauto⟩
  have hend : pageDown (ptr + len - 1) =
      pageDown ptr + 4096 * ((ptr + len - 1) / 4096 - ptr / 4096) := by
    unfold pageDown; omega
  rw [hend, checkPages_spec _ (by omega) (by unfold pageDown; omega), ← pagesTouched]
  split
  next h =>
    exact .inl ⟨rfl, ⟨by omega, ‹_›, ‹_›⟩, h⟩
  rename_i h
  exact .inr ⟨rfl, fun hall => h hall.2⟩

/-! ### Leaves and the entries above them -/

lemma isPresent_of_permits {e : BitVec 64} (h : permits access e) : isPresent e := by
  have hp : e &&& present = present := by
    simp only [permits, contains, Bool.and_eq_true, decide_eq_true_eq] at h
    exact h.1.1
  rw [isPresent, hp]
  decide

lemma flagsFrom_of_granted {v : VirtualAddress} (path : List (Bool × Fin 512)) : ∀ {t : PhysFrame},
    grantedFrom g table access v path t →
    ∃ e, flagsFrom g table v path t = .ok e ∧ permits access e := by
  induction path with
  | nil =>
    intro t h
    exact ⟨_, by rw [flagsFrom, if_pos (isPresent_of_permits h)], h⟩
  | cons x path ih =>
    intro t h
    rw [grantedFrom, Bool.and_eq_true] at h
    rw [flagsFrom, isPresent_of_permits h.1, if_neg (by simp)]
    by_cases hh : (x.1 && isHuge (table t x.2)) = true
    · exact ⟨_, by rw [if_pos hh], h.1⟩
    rw [if_neg hh]
    exact ih (by simpa [hh] using h.2)

lemma leafPermits_of_granted {page : ℕ} (h : granted g table root access page) :
    leafPermits g table root access page := by
  rw [granted, Bool.and_eq_true] at h
  obtain ⟨e, he, hp⟩ := flagsFrom_of_granted _ h.2
  rw [leafPermits, getPageFlags, if_neg (by simp [h.1]), he]
  exact hp

/-- **Validation is exact** if and only if, on a range of user memory whose pages all permit the
access, no entry further up forbids it. -/
theorem validateUserRange_exact_iff (hlen : 0 < len) : Exact g table root access ptr len ↔
    (InUserSpace ptr len → Touched ptr len (leafPermits g table root access) →
      Touched ptr len (granted g table root access)) := by
  rcases @validateUserRange_cases g table root access ptr len hlen with ⟨he, hu, hl⟩ | ⟨he, hno⟩
  · refine ⟨fun h _ _ => (h.ok_iff.mp ⟨_, he⟩).2, fun h => ⟨by simp [he], ?_, by simp [he]⟩⟩
    exact ⟨fun _ => ⟨hu, h hu hl⟩, fun _ => ⟨_, he⟩⟩
  refine ⟨fun _ hu hl => absurd ⟨hu, hl⟩ hno, fun _ => ⟨by simp [he], ?_, by simp [he]⟩⟩
  simp only [he, Option.some.injEq, reduceCtorEq, exists_false, false_iff]
  exact fun hg => hno ⟨hg.1, fun a ha hlt => leafPermits_of_granted (hg.2 a ha hlt)⟩

def wideGeometry : AddressSpaceGeometry := ⟨36, 48, true, range36, range48⟩

/-- Tables in the first four frames, with these flags in the last one and in those above it. -/
def fourTables (above leaf : BitVec 64) : PhysFrame → PageTable := fun t _ =>
  if t = 12288 then leaf else above ||| BitVec.ofNat 64 (t + 4096)

theorem validateUserRange_exact_user : Exact wideGeometry (fourTables 7 7) 0 .write 0x400000 8 :=
  (validateUserRange_exact_iff (by decide)).mpr fun _ _ a ha hlt => by
    rw [show pageDown a = 0x400000 by unfold pageDown; omega]
    decide +kernel

/-- **Memory behind a table of the supervisor is accepted**, which the process cannot use. -/
theorem supervisor_table_accepted : ¬Exact wideGeometry (fourTables 3 7) 0 .write 0x400000 8 := by
  intro h
  have hok : validateUserRange wideGeometry (fourTables 3 7) 0 .write 0x400000 8 = some (.ok 1) := by
    decide +kernel
  have hgrant := (h.ok_iff.mp ⟨1, hok⟩).2 0x400000 le_rfl (by decide)
  exact absurd hgrant (by decide +kernel)

end ProjectZero.Mm.UserRange
