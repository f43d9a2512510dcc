import ProjectZero.Lib.Update
import ProjectZero.Libzero.Resource

/-! # The accounting engine of `libzero`

An `AccountingDomain` keeps the capacity of a resource in four columns: available, reserved,
allocated and unavailable. Each operation moves an amount from one column to another, except for
the loss of the provider, after which all capacity is unavailable. The manager holds the domains and
the quotas of the entities. -/

namespace ProjectZero.Libzero.Accounting

open Resource

/-! ### Coupling constraints -/

/-- Up to eight linear constraints on the allocated capacity. -/
structure CouplingConstraintMatrix where
  coefficients : Fin 8 → Fin 8 → ℤ
  limits : Fin 8 → ℤ
  constraintCount : ℕ
  count_le : constraintCount ≤ maxAccountingDimensions

/-- A sum or product that saturates at the bounds of `i64`. -/
def saturate (x : ℤ) : ℤ := max (-2 ^ 63) (min (2 ^ 63 - 1) x)

/-- The cast of a `u64` to an `i64`. -/
def asI64 (n : ℕ) : ℤ := if n < 2 ^ 63 then n else n - 2 ^ 64

def CouplingConstraintMatrix.isFeasible (a : CouplingConstraintMatrix)
    (cap : DimensionCapacityVector) : Bool :=
  decide (∀ r : Fin 8, r.val < a.constraintCount →
    ((List.finRange 8).filter fun c => c.val < cap.dimensionCount).foldl
      (fun sum c => saturate (sum + saturate (a.coefficients r c * asI64 (cap.dimensions c)))) 0
      ≤ a.limits r)

/-! ### Domains -/

/-- The columns `avail_capacity`, `resv_capacity`, `alloc_capacity` and `unavail_capacity`. -/
inductive Column
  | avail | resv | alloc | unavail
  deriving DecidableEq

structure AccountingDomain where
  resourceId : DistributedId
  physCapacity : DimensionCapacityVector
  capacity : Column → DimensionCapacityVector
  writerLocked : Bool

namespace AccountingDomain

variable (d : AccountingDomain)

def set (c : Column) (v : DimensionCapacityVector) : AccountingDomain :=
  { d with capacity := update d.capacity c v }

/-- The checked sum of the columns in one dimension, in the given order. -/
def checkedTotal (c₁ c₂ c₃ c₄ : Column) (i : Fin 8) : Option ℕ := do
  let v ← checkedAdd ((d.capacity c₁).dimensions i) ((d.capacity c₂).dimensions i)
  let v ← checkedAdd v ((d.capacity c₃).dimensions i)
  checkedAdd v ((d.capacity c₄).dimensions i)

def assertConservation : Except ZeroError Unit :=
  if ∀ i : Fin 8, i.val < d.physCapacity.dimensionCount →
      d.checkedTotal .avail .resv .alloc .unavail i = some (d.physCapacity.dimensions i) then .ok ()
  else .error .vectorConservationViolated

/-- `AccountingDomain::new`. -/
def new (resourceId : DistributedId) (phys : DimensionCapacityVector) :
    Except ZeroError AccountingDomain :=
  if maxAccountingDimensions < phys.dimensionCount then .error .unsupportedResourceShape
  else do
    let d : AccountingDomain :=
      { resourceId := resourceId, physCapacity := phys
        capacity := fun c => if c = .avail then phys else .empty
        writerLocked := false }
    d.assertConservation
    return d

/-- An amount leaves one column and enters another. -/
def move (src dst : Column) (amount : DimensionCapacityVector) (d : AccountingDomain) :
    Except ZeroError Unit × AccountingDomain :=
  match (d.capacity src).checkedSub amount with
  | .error e => (.error e, d)
  | .ok v =>
    let d := d.set src v
    match (d.capacity dst).checkedAdd amount with
    | .error e => (.error e, d)
    | .ok w => ((d.set dst w).assertConservation, d.set dst w)

def releaseAllocation := move .alloc .avail

def quarantineAllocation := move .alloc .unavail

def confirmPhysicalRelease := move .unavail .avail

def reserveCapacity := move .avail .resv

/-- `admit_allocation_inner`. -/
def admitAllocationInner (requested : DimensionCapacityVector)
    (coupling : Option CouplingConstraintMatrix) (d : AccountingDomain) :
    Except ZeroError Unit × AccountingDomain :=
  if requested.le (d.capacity .avail) = false then (.error .invalidRequest, d)
  else
    match (d.capacity .alloc).checkedAdd requested with
    | .error e => (.error e, d)
    | .ok newAlloc =>
      if coupling.any fun a => !a.isFeasible newAlloc then (.error .couplingViolation, d)
      else
        match (d.capacity .avail).checkedSub requested with
        | .error e => (.error e, d)
        | .ok newAvail =>
          let d := (d.set .avail newAvail).set .alloc newAlloc
          (d.assertConservation, d)

def admitAllocation (requested : DimensionCapacityVector)
    (coupling : Option CouplingConstraintMatrix) (d : AccountingDomain) :
    Except ZeroError Unit × AccountingDomain :=
  if d.writerLocked then (.error .wouldBlock, d)
  else
    let (r, d) := admitAllocationInner requested coupling { d with writerLocked := true }
    (r, { d with writerLocked := false })

/-- All capacity of one dimension becomes unavailable. -/
def loseDimension (i : Fin 8) (total : ℕ) : AccountingDomain :=
  { d with
    capacity := fun c =>
      { d.capacity c with
        dimensions := update (d.capacity c).dimensions i
          (if c = .unavail then total else 0) } }

/-- The loop of `quarantine_on_provider_lost`. -/
def loseDimensions : List (Fin 8) → AccountingDomain → Except ZeroError Unit × AccountingDomain
  | [], d => (.ok (), d)
  | i :: is, d =>
    match d.checkedTotal .unavail .avail .resv .alloc i with
    | none => (.error .vectorConservationViolated, d)
    | some total => loseDimensions is (d.loseDimension i total)

def quarantineOnProviderLost : Except ZeroError Unit × AccountingDomain :=
  let count := d.physCapacity.dimensionCount
  match loseDimensions ((List.finRange 8).filter fun i => i.val < count) d with
  | (.error e, d) => (.error e, d)
  | (.ok (), d) =>
    let d := { d with capacity := fun c => { d.capacity c with dimensionCount := count } }
    (d.assertConservation, d)

end AccountingDomain

/-! ### The manager -/

structure EntityQuota where
  entityId : ℕ
  maxCapacity : DimensionCapacityVector
  usedCapacity : DimensionCapacityVector
  active : Bool

structure QuarantineRecord where
  resourceId : DistributedId
  leaseId : DistributedId
  entityId : ℕ
  quarantinedCapacity : DimensionCapacityVector
  reason : ℕ
  active : Bool

structure AccountingManager where
  domains : Fin 64 → AccountingDomain
  domainCount : ℕ
  quotas : Fin 32 → EntityQuota
  quarantineLedger : Fin 64 → QuarantineRecord

namespace AccountingManager

def new : AccountingManager where
  domains _ := { resourceId := ⟨0, 0⟩, physCapacity := .empty, capacity := fun _ => .empty,
                 writerLocked := false }
  domainCount := 0
  quotas _ := { entityId := 0, maxCapacity := .empty, usedCapacity := .empty, active := false }
  quarantineLedger _ := { resourceId := ⟨0, 0⟩, leaseId := ⟨0, 0⟩, entityId := 0,
                          quarantinedCapacity := .empty, reason := 0, active := false }

def registerDomain (resourceId : DistributedId) (phys : DimensionCapacityVector)
    (m : AccountingManager) : Except ZeroError ℕ × AccountingManager :=
  if h : m.domainCount < 64 then
    match AccountingDomain.new resourceId phys with
    | .error e => (.error e, m)
    | .ok d => (.ok m.domainCount, { m with
        domains := update m.domains ⟨m.domainCount, h⟩ d
        domainCount := m.domainCount + 1 })
  else (.error .objectTableFull, m)

/-- The place of the first domain of the resource. -/
def findDomain (m : AccountingManager) (resourceId : DistributedId) : Option (Fin 64) :=
  (List.finRange 64).find? fun j =>
    j.val < m.domainCount && (m.domains j).resourceId = resourceId

/-- What `f` does to the domain that `find_domain_mut` returns; `none` if there is none. -/
def onDomain (resourceId : DistributedId)
    (f : AccountingDomain → Except ZeroError Unit × AccountingDomain) (m : AccountingManager) :
    Option (Except ZeroError Unit) × AccountingManager :=
  match m.findDomain resourceId with
  | none => (none, m)
  | some j => (some (f (m.domains j)).1,
      { m with domains := update m.domains j (f (m.domains j)).2 })

/-- The place of the quota of an entity. -/
def findQuota (m : AccountingManager) (entityId : ℕ) : Option (Fin 32) :=
  (List.finRange 32).find? fun q => (m.quotas q).active && (m.quotas q).entityId = entityId

def setQuota (entityId : ℕ) (maxCap : DimensionCapacityVector) (m : AccountingManager) :
    Except ZeroError Unit × AccountingManager :=
  match m.findQuota entityId with
  | some q => (.ok (), { m with
      quotas := update m.quotas q { m.quotas q with maxCapacity := maxCap } })
  | none =>
    match (List.finRange 32).find? fun q => !(m.quotas q).active with
    | none => (.error .objectTableFull, m)
    | some q =>
      let quota : EntityQuota :=
        { entityId := entityId, maxCapacity := maxCap
          usedCapacity := { dimensions := fun _ => 0, dimensionCount := maxCap.dimensionCount }
          active := true }
      (.ok (), { m with quotas := update m.quotas q quota })

def checkAndChargeQuota (entityId : ℕ) (amount : DimensionCapacityVector) (m : AccountingManager) :
    Except ZeroError Unit × AccountingManager :=
  match m.findQuota entityId with
  | none => (.ok (), m)
  | some q =>
    match (m.quotas q).usedCapacity.checkedAdd amount with
    | .error e => (.error e, m)
    | .ok newUsed =>
      if newUsed.le (m.quotas q).maxCapacity = false then (.error .quotaExceeded, m)
      else (.ok (), { m with
        quotas := update m.quotas q { m.quotas q with usedCapacity := newUsed } })

def releaseQuota (entityId : ℕ) (amount : DimensionCapacityVector) (m : AccountingManager) :
    Except ZeroError Unit × AccountingManager :=
  match m.findQuota entityId with
  | none => (.ok (), m)
  | some q =>
    match (m.quotas q).usedCapacity.checkedSub amount with
    | .error e => (.error e, m)
    | .ok newUsed => (.ok (), { m with
        quotas := update m.quotas q { m.quotas q with usedCapacity := newUsed } })

def recordQuarantine (record : QuarantineRecord) (m : AccountingManager) :
    Except ZeroError Unit × AccountingManager :=
  match (List.finRange 64).find? fun r => !(m.quarantineLedger r).active with
  | none => (.error .objectTableFull, m)
  | some r => (.ok (), { m with
      quarantineLedger := update m.quarantineLedger r { record with active := true } })

end AccountingManager

end ProjectZero.Libzero.Accounting
