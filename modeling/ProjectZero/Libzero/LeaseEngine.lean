import ProjectZero.Libzero.Accounting

/-! # The lease engine of `libzero`

A lease is an amount of a resource, held until a tick. `LeaseEngine` keeps the leases of the node in a
table of 256 places and moves their amounts in the accounting domains. Leases end by release, or they
are invalidated when the time authority, the provider or the holder is lost; an invalidated lease
keeps its place in the table. -/

namespace ProjectZero.Libzero.LeaseEngine

open Resource Accounting

inductive LeaseState
  | active | expired | timeAuthorityLost | providerLost | released
  deriving DecidableEq

structure ResourceLease where
  leaseId : DistributedId
  resourceId : DistributedId
  generation : BitVec 32
  state : LeaseState
  allocatedCapacity : DimensionCapacityVector
  grantedTick : ℕ
  expirationTick : ℕ
  holderEntityId : ℕ
  clientChannelHandle : ℕ

/-- The leases, and the accounting that the engine works on. -/
structure Node where
  leases : Fin 256 → Option ResourceLease
  leaseCount : ℕ
  accounting : AccountingManager

namespace Node

def new : Node := { leases := fun _ => none, leaseCount := 0, accounting := .new }

def setLease (n : Node) (i : Fin 256) (l : Option ResourceLease) : Node :=
  { n with leases := update n.leases i l }

/-- The place of the first lease with the identifier, and the lease. -/
def findLease (n : Node) (leaseId : DistributedId) : Option (Fin 256 × ResourceLease) :=
  (List.finRange 256).findSome? fun i =>
    match n.leases i with
    | some l => if l.leaseId = leaseId then some (i, l) else none
    | none => none

lemma findLease_some {n : Node} {id : DistributedId} {s : Fin 256} {l : ResourceLease}
    (h : n.findLease id = some (s, l)) : n.leases s = some l ∧ l.leaseId = id := by
  obtain ⟨t, -, ht⟩ := List.exists_of_findSome?_eq_some h
  split at ht
  next hl =>
    split at ht
    · cases ht
      exact ⟨hl, by assumption⟩
    · cases ht
  · cases ht

def freeSlot (n : Node) : Option (Fin 256) :=
  (List.finRange 256).find? fun i => (n.leases i).isNone

end Node

/-- The arguments of `request_lease`. -/
structure LeaseRequest where
  leaseId : DistributedId
  resourceId : DistributedId
  entityId : ℕ
  clientChannelHandle : ℕ
  requestedAmount : DimensionCapacityVector
  durationTicks : ℕ
  currentTick : ℕ
  callerHasCoverage : Bool
  coupling : Option CouplingConstraintMatrix

variable (q : LeaseRequest)

/-- The lease that a request is granted. -/
def LeaseRequest.lease (expirationTick : ℕ) : ResourceLease :=
  { leaseId := q.leaseId, resourceId := q.resourceId, generation := 1, state := .active,
    allocatedCapacity := q.requestedAmount, grantedTick := q.currentTick,
    expirationTick := expirationTick, holderEntityId := q.entityId,
    clientChannelHandle := q.clientChannelHandle }

/-- The amount is admitted, with the quota charged before. -/
def admitRequest (n : Node) : Except ZeroError Unit × Node :=
  match n.accounting.checkAndChargeQuota q.entityId q.requestedAmount with
  | (.error e, m) => (.error e, { n with accounting := m })
  | (.ok (), m) =>
    match m.onDomain q.resourceId (AccountingDomain.admitAllocation q.requestedAmount q.coupling) with
    | (none, m) => (.error .notFound, { n with accounting := m })
    | (some (.error e), m) =>
      (.error e, { n with accounting := (m.releaseQuota q.entityId q.requestedAmount).2 })
    | (some (.ok ()), m) => (.ok (), { n with accounting := m })

/-- The end of `request_lease` when the table is full. -/
def withdrawRequest (n : Node) : Node :=
  let m := (n.accounting.onDomain q.resourceId (AccountingDomain.releaseAllocation q.requestedAmount)).2
  { n with accounting := (m.releaseQuota q.entityId q.requestedAmount).2 }

def requestLease (n : Node) : Except ZeroError ResourceLease × Node :=
  if q.callerHasCoverage = false then (.error .permissionDenied, n)
  else
    match checkedAdd q.currentTick q.durationTicks with
    | none => (.error .deadlineExhaustion, n)
    | some expirationTick =>
      match admitRequest q n with
      | (.error e, n) => (.error e, n)
      | (.ok (), n) =>
        match n.freeSlot with
        | none => (.error .objectTableFull, withdrawRequest q n)
        | some i =>
          let lease := q.lease expirationTick
          (.ok lease, { n.setLease i (some lease) with leaseCount := n.leaseCount + 1 })

def releaseLease (leaseId : DistributedId) (presentedGen : BitVec 32) (n : Node) :
    Except ZeroError Unit × Node :=
  match n.findLease leaseId with
  | none => (.error .notFound, n)
  | some (i, l) =>
    if l.generation ≠ presentedGen then (.error .generationMismatch, n)
    else if l.state ≠ .active then (.error .invalidRequest, n)
    else
      let n := n.setLease i (some { l with state := .released })
      match n.accounting.onDomain l.resourceId
        (AccountingDomain.releaseAllocation l.allocatedCapacity) with
      | (some (.error e), m) => (.error e, { n with accounting := m })
      | (_, m) =>
        let m := (m.releaseQuota l.holderEntityId l.allocatedCapacity).2
        (.ok (), { n.setLease i none with leaseCount := n.leaseCount - 1, accounting := m })

def renewLease (leaseId : DistributedId) (presentedGen : BitVec 32)
    (additionalDuration currentTick : ℕ) (n : Node) : Except ZeroError ℕ × Node :=
  match n.findLease leaseId with
  | none => (.error .notFound, n)
  | some (i, l) =>
    if l.generation ≠ presentedGen then (.error .generationMismatch, n)
    else if l.state ≠ .active then (.error .invalidRequest, n)
    else
      match checkedAdd currentTick additionalDuration with
      | none => (.error .deadlineExhaustion, n)
      | some newExp =>
        (.ok newExp, n.setLease i
          (some { l with expirationTick := newExp, generation := l.generation + 1 }))

/-- One lease that is affected by a loss: its state changes, its amount is quarantined if it is to
be, and the ledger notes it. -/
def loseLease (affected : ResourceLease → Bool) (state : LeaseState) (reason : ℕ)
    (quarantine : Bool) (n : Node) (i : Fin 256) : Node :=
  match n.leases i with
  | none => n
  | some l =>
    if affected l then
      let m := if quarantine then
          (n.accounting.onDomain l.resourceId
            (AccountingDomain.quarantineAllocation l.allocatedCapacity)).2
        else n.accounting
      let record : QuarantineRecord :=
        { resourceId := l.resourceId, leaseId := l.leaseId, entityId := l.holderEntityId,
          quarantinedCapacity := l.allocatedCapacity, reason := reason, active := true }
      { n.setLease i (some { l with state := state }) with
        accounting := (m.recordQuarantine record).2 }
    else n

def handleTimeAuthorityLoss (n : Node) : Node :=
  (List.finRange 256).foldl
    (loseLease (fun l => l.state = .active) .timeAuthorityLost 1 true) n

def handleProviderLoss (resId : DistributedId) (n : Node) : Node :=
  let n := { n with
    accounting := (n.accounting.onDomain resId AccountingDomain.quarantineOnProviderLost).2 }
  (List.finRange 256).foldl
    (loseLease (fun l => l.resourceId = resId && l.state = .active) .providerLost 2 false) n

def handlePeerClosed (clientChannelHandle : ℕ) (n : Node) : Node :=
  (List.finRange 256).foldl
    (loseLease (fun l => l.clientChannelHandle = clientChannelHandle && l.state = .active)
      .released 3 true) n

def confirmDriverRelease (resId : DistributedId) (amount : DimensionCapacityVector) (n : Node) :
    Except ZeroError Unit × Node :=
  match n.accounting.onDomain resId (AccountingDomain.confirmPhysicalRelease amount) with
  | (none, m) => (.error .notFound, { n with accounting := m })
  | (some r, m) => (r, { n with accounting := m })

def reconcileSurvivingLease (leaseId : DistributedId) (currentTick policyMaxWindow : ℕ) (n : Node) :
    Except ZeroError ℕ × Node :=
  match n.findLease leaseId with
  | none => (.error .notFound, n)
  | some (i, l) =>
    if currentTick ≥ l.expirationTick then (.error .permissionDenied, n)
    else
      let remaining := l.expirationTick - currentTick
      (.ok (if remaining < policyMaxWindow then remaining else policyMaxWindow),
        n.setLease i (some { l with generation := l.generation + 1 }))

/-! ### Runs -/

/-- A call of the engine or of the manager. -/
inductive Call
  | registerDomain (resourceId : DistributedId) (phys : DimensionCapacityVector)
  | setQuota (entityId : ℕ) (maxCap : DimensionCapacityVector)
  | request (q : LeaseRequest)
  | release (leaseId : DistributedId) (presentedGen : BitVec 32)
  | renew (leaseId : DistributedId) (presentedGen : BitVec 32)
      (additionalDuration currentTick : ℕ)
  | timeAuthorityLoss
  | providerLoss (resId : DistributedId)
  | peerClosed (clientChannelHandle : ℕ)
  | confirmDriverRelease (resId : DistributedId) (amount : DimensionCapacityVector)
  | reserve (resId : DistributedId) (amount : DimensionCapacityVector)
  | reconcile (leaseId : DistributedId) (currentTick policyMaxWindow : ℕ)

/-- Whether the call succeeds, and the node it leaves. Losses are not answered. -/
def Call.run (n : Node) : Call → Except ZeroError Unit × Node
  | .registerDomain resourceId phys =>
    let (r, m) := n.accounting.registerDomain resourceId phys
    (r.map fun _ => (), { n with accounting := m })
  | .setQuota entityId maxCap =>
    let (r, m) := n.accounting.setQuota entityId maxCap
    (r, { n with accounting := m })
  | .request q => ((requestLease q n).1.map fun _ => (), (requestLease q n).2)
  | .release leaseId presentedGen => releaseLease leaseId presentedGen n
  | .renew leaseId presentedGen additionalDuration currentTick =>
    let (r, n) := renewLease leaseId presentedGen additionalDuration currentTick n
    (r.map fun _ => (), n)
  | .timeAuthorityLoss => (.ok (), handleTimeAuthorityLoss n)
  | .providerLoss resId => (.ok (), handleProviderLoss resId n)
  | .peerClosed handle => (.ok (), handlePeerClosed handle n)
  | .confirmDriverRelease resId amount => LeaseEngine.confirmDriverRelease resId amount n
  | .reserve resId amount =>
    let (r, m) := n.accounting.onDomain resId (AccountingDomain.reserveCapacity amount)
    (r.getD (.error .notFound), { n with accounting := m })
  | .reconcile leaseId currentTick policyMaxWindow =>
    let (r, n) := reconcileSurvivingLease leaseId currentTick policyMaxWindow n
    (r.map fun _ => (), n)

end ProjectZero.Libzero.LeaseEngine
