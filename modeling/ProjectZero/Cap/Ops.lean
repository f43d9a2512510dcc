import ProjectZero.Cap.Node
import ProjectZero.Ipc.Object

/-! # Capability operations

Installation, derivation, transfer, revocation and close of capabilities, as functions of the tables.
A function returns the new tables with its result, or stops the kernel. A function whose name ends in
`Locked` runs under `KERNEL_OBJECT_TABLE_LOCK`, and so does the part of the others that is modelled
here: each call is one atomic step. -/

namespace ProjectZero.Cap.Ops

open Lib.Linked Tables Cap.Node Ipc.Object

/-- The result of an operation with the tables it leaves. -/
abbrev Outcome (α : Type) := Except Halt (Except IpcError α × Kernel)

/-- The result `e`, with the tables `k`. -/
def fail {α : Type} (e : IpcError) (k : Kernel) : Outcome α := .ok (.error e, k)

/-- The result `a`, with the tables `k`. -/
def done {α : Type} (a : α) (k : Kernel) : Outcome α := .ok (.ok a, k)

/-! ### Handle slots -/

variable (k : Kernel)

def allocateCapabilityId : Except IpcError ℕ × Kernel :=
  if k.nextCapabilityId = 2 ^ 64 - 1 then (.error .capabilityIdExhausted, k)
  else (.ok k.nextCapabilityId, { k with nextCapabilityId := k.nextCapabilityId + 1 })

def allocateHandleSlotLocked (p : PSlot) : Except IpcError HSlot :=
  match (List.finRange 32).find? fun h => !(k.entry (p, h)).occupied with
  | none => .error .handleTableFull
  | some h => .ok h

variable (s : Slot) (i : ObjIdx)

/-- The entry of `s` is filled; its generation stays. -/
def fillEntry (objectGeneration : BitVec 16)
    (rights : Rights) (endpoint : ℕ) : Kernel :=
  let e : HandleEntry :=
    { objectIndex := i, handleGeneration := (k.entry s).handleGeneration,
      objectGeneration := objectGeneration, rights := rights, endpoint := endpoint,
      occupied := true }
  { k with entry := update k.entry s e }

/-- `count += 1` on the handle table of `p`. -/
def incrCount (p : PSlot) : Kernel :=
  { k with count := update k.count p (k.count p + 1) }

/-- The entry after its handle is invalidated. -/
def vacate (e : HandleEntry) : HandleEntry :=
  { e with occupied := false, handleGeneration := bumpGeneration e.handleGeneration }

/-- The entry of `s` is vacated, and the table's count goes down. -/
def invalidate : Kernel :=
  { k with
    entry := update k.entry s (vacate (k.entry s))
    count := update k.count s.1 (k.count s.1 - 1)
    saturated := k.saturated || decide (k.count s.1 = 0) }

/-- `handle_refs.checked_add(1)`, with the handle of `s` as result. -/
def addHandleRef (s : Slot) : Outcome Handle :=
  let header := (k.object i).header
  if header.handleRefs = 2 ^ 16 - 1 then fail .handleTableFull k
  else
    let o := { k.object i with header := { header with handleRefs := header.handleRefs + 1 } }
    done (Handle.new (BitVec.ofNat 16 s.2) (k.entry s).handleGeneration)
      { k with object := update k.object i o }

/-! ### Installation -/

/-- The tables with a new root capability in `s`, not yet counted by its object. -/
def plantRoot (rights : Rights) (endpoint capId : ℕ) :
    Kernel :=
  let k := fillEntry k s i (k.object i).generation rights endpoint
  let node : CapabilityNode :=
    { capabilityId := capId, parent := none, parentGen := 0, derivationDepth := 0,
      isRevoked := false, flags := 0, firstChild := none, nextSibling := none }
  incrCount { k with node := update k.node s node } s.1

def installRootCapabilityLocked (rights : Rights)
    (endpoint : ℕ) : Outcome Handle :=
  if (k.object i).occupied = false then .error .panic
  else
    match allocateCapabilityId k with
    | (.error e, k) => fail e k
    | (.ok capId, k) =>
      if (k.entry s).occupied then .error .panic
      else addHandleRef (plantRoot k s i rights endpoint capId) i s

/-- The tables with a capability derived from `parent` in `dst`, not yet counted by its object. -/
def plantDerived (dst parent : Slot) (rights : Rights) (capId : ℕ) : Kernel :=
  let pe := k.entry parent
  let k := fillEntry k dst pe.objectIndex pe.objectGeneration rights pe.endpoint
  let node : CapabilityNode :=
    { capabilityId := capId, parent := some parent, parentGen := pe.handleGeneration,
      derivationDepth := (k.node parent).derivationDepth + 1, isRevoked := false, flags := 0,
      firstChild := none, nextSibling := none }
  incrCount { k with node := addChildLocked (update k.node dst node) parent dst } dst.1

def installDerivedCapabilityLocked (dst parent : Slot) (requestedRights : Rights) :
    Outcome Handle :=
  let pe := k.entry parent
  let pn := k.node parent
  if pe.occupied = false then fail .invalidHandle k
  else if pn.isRevoked then fail .capabilityRevoked k
  else if pe.rights &&& (CapRights.duplicate ||| HandleRights.duplicate) = 0 then
    fail .capabilityNotDuplicable k
  else if requestedRights &&& ~~~pe.rights ≠ 0 then fail .rightsAmplificationRejected k
  else if maxDerivationDepth ≤ pn.derivationDepth then fail .maxDerivationDepthExceeded k
  else if (k.object pe.objectIndex).occupied = false ∨
      (k.object pe.objectIndex).generation ≠ pe.objectGeneration then
    fail .badHandleGeneration k
  else
    match allocateCapabilityId k with
    | (.error e, k) => fail e k
    | (.ok capId, k) =>
      if (k.entry dst).occupied then .error .panic
      else addHandleRef (plantDerived k dst parent requestedRights capId) pe.objectIndex dst

/-- A child of the moved capability follows it to the slot `dst`. -/
def follow (dst : Slot) (dstGen : BitVec 16) (child : CapabilityNode) : CapabilityNode :=
  { child with parent := some dst, parentGen := dstGen }

/-- The node a move writes into the destination. -/
def movedNode (n : CapabilityNode) (reservedCapabilityId : ℕ) : CapabilityNode :=
  { capabilityId := reservedCapabilityId, parent := n.parent, parentGen := n.parentGen,
    derivationDepth := n.derivationDepth, isRevoked := false, flags := n.flags,
    firstChild := n.firstChild, nextSibling := none }

variable (node : NodeTable)

/-- The node of `src` is written to `dst`, which takes its place in the parent's chain. -/
def spliceMoved (dst src : Slot) (reservedCapabilityId : ℕ) :
    Option NodeTable :=
  let populated := update node dst (movedNode (node src) reservedCapabilityId)
  match (node src).parent with
  | none => some populated
  | some p => replaceChildLocked populated p src dst

/-- The node of `src` goes to `dst`, its children follow, and the node of `src` is reset. -/
def moveNode (dst src : Slot) (dstGen : BitVec 16)
    (reservedCapabilityId : ℕ) : Option NodeTable := do
  let spliced ← spliceMoved node dst src reservedCapabilityId
  let (followed, _) ← mapChain CapabilityNode.nextSibling (follow dst dstGen) maxCapabilityNodes
    (node src).firstChild spliced none
  some (update followed src .empty)

def installMovedCapabilityLocked (dst src : Slot) (reservedCapabilityId : ℕ) :
    Outcome Handle :=
  let se := k.entry src
  let dstGen := (k.entry dst).handleGeneration
  if se.occupied = false ∨ (k.node src).isRevoked ∨ (k.entry dst).occupied then .error .panic
  else
    match moveNode k.node dst src dstGen reservedCapabilityId with
    | none => .error .hang
    | some node =>
      let k := fillEntry k dst se.objectIndex se.objectGeneration se.rights se.endpoint
      let k := incrCount { invalidate k src with node := node } dst.1
      done (Handle.new (BitVec.ofNat 16 dst.2) dstGen) k

/-! ### Derivation and transfer -/

/-- `capability_derive` by a thread of the process `p`. -/
def capabilityDerive (p : PSlot) (h : Handle) (requestedRights : Rights) :
    Outcome Handle :=
  if hs : h.slotIndex < 32 then
    match allocateHandleSlotLocked k p with
    | .error e => fail e k
    | .ok dst => installDerivedCapabilityLocked k (p, dst) (p, ⟨h.slotIndex, hs⟩) requestedRights
  else fail .invalidHandle k

/-- `capability_duplicate` by a thread of the process `p`. -/
def capabilityDuplicate (p : PSlot) (h : Handle) : Outcome Handle :=
  if hs : h.slotIndex < 32 then
    let src : Slot := (p, ⟨h.slotIndex, hs⟩)
    if (k.entry src).occupied = false ∨ (k.entry src).handleGeneration ≠ h.generation then
      fail .invalidHandle k
    else
      match allocateHandleSlotLocked k p with
      | .error e => fail e k
      | .ok dst => installDerivedCapabilityLocked k (p, dst) src (k.entry src).rights
  else fail .invalidHandle k

def transferMoveLocked (src : Slot) (dst : PSlot) : Outcome Handle :=
  let se := k.entry src
  if se.occupied = false then fail .invalidHandle k
  else if (k.node src).isRevoked then fail .capabilityRevoked k
  else if se.rights &&& (CapRights.transfer ||| HandleRights.transfer) = 0 then
    fail .capabilityNotTransferable k
  else
    match allocateHandleSlotLocked k dst with
    | .error e => fail e k
    | .ok h =>
      match allocateCapabilityId k with
      | (.error e, k) => fail e k
      | (.ok reservedId, k) => installMovedCapabilityLocked k (dst, h) src reservedId

def transferDelegateLocked (src : Slot) (dst : PSlot) (requestedRights : Rights) :
    Outcome Handle :=
  let se := k.entry src
  if se.occupied = false then fail .invalidHandle k
  else if (k.node src).isRevoked then fail .capabilityRevoked k
  else if se.rights &&& (CapRights.transfer ||| HandleRights.transfer) = 0 then
    fail .capabilityNotTransferable k
  else if se.rights &&& (CapRights.duplicate ||| HandleRights.duplicate) = 0 then
    fail .capabilityNotDuplicable k
  else if requestedRights &&& ~~~se.rights ≠ 0 then fail .rightsAmplificationRejected k
  else if maxDerivationDepth ≤ (k.node src).derivationDepth then
    fail .maxDerivationDepthExceeded k
  else
    match allocateHandleSlotLocked k dst with
    | .error e => fail e k
    | .ok h => installDerivedCapabilityLocked k (dst, h) src requestedRights

/-! ### Revocation -/

/-- Push the nodes of a chain onto the worklist, of which `taken` items are already worked off; an
item that does not fit is dropped. -/
def pushChain (taken : ℕ) :
    ℕ → Option Slot → List Slot → Option (List Slot)
  | _, none, todo => some todo
  | 0, some _, _ => none
  | n + 1, some c, todo =>
    pushChain taken n (node c).nextSibling
      (if taken + todo.length < maxCapabilityNodes then todo ++ [c] else todo)

/-- The object behind a revoked entry loses a reference. -/
def releaseRevoked (endpoint : ℕ) : Except Halt Kernel :=
  if (k.object i).occupied = false then .ok k
  else
    let k := dropHandleRef k i
    match (k.object i).objType with
    | .channel => do
      let c := (k.object i).poolIndex
      let k ← wakeAllWaiters (k.setChannel c ((k.channel c).dropRef endpoint)) c endpoint
      checkAndReclaimChannelLocked k i
    | .shmObject => checkAndReclaimShmLocked k i
    | _ => .ok k

/-- The node of a revoked descendant. -/
def cut (n : CapabilityNode) : CapabilityNode :=
  { n with isRevoked := true, firstChild := none, nextSibling := none }

/-- One descendant is taken off the worklist; the number says whether its entry was occupied. -/
def revokeNode (c : Slot) : Except Halt (ℕ × Kernel) :=
  let k := { k with node := update k.node c (cut (k.node c)) }
  if (k.entry c).occupied then do
    let k' ← releaseRevoked (invalidate k c) (k.entry c).objectIndex (k.entry c).endpoint
    .ok (1, k')
  else .ok (0, k)

/-- The loop over the worklist. Every round takes one of at most `MAX_CAPABILITY_NODES` items, so the
first argument is enough for the rounds it makes. -/
def revokeLoop : ℕ → Kernel → ℕ → List Slot → ℕ → Except Halt (ℕ × Kernel)
  | _, k, _, [], revoked => .ok (revoked, k)
  | 0, _, _, _ :: _, _ => .error .hang
  | n + 1, k, taken, c :: todo, revoked =>
    match pushChain k.node (taken + 1) maxCapabilityNodes (k.node c).firstChild todo with
    | none => .error .hang
    | some todo => do
      let (m, k) ← revokeNode k c
      revokeLoop n k (taken + 1) todo (revoked + m)

def revokeDescendantsTreeLocked : Except Halt (ℕ × Kernel) :=
  match pushChain k.node 0 maxCapabilityNodes (k.node s).firstChild [] with
  | none => .error .hang
  | some todo =>
    let detached := { k.node s with firstChild := none }
    revokeLoop maxCapabilityNodes { k with node := update k.node s detached } 0 todo 0

def capabilityRevokeDescendantsLocked :
    Except Halt (Except IpcError ℕ × Kernel) :=
  if (k.entry s).occupied = false then fail .invalidHandle k
  else if (k.node s).isRevoked then fail .capabilityRevoked k
  else if (k.entry s).rights &&& CapRights.revoke = 0 then fail .permissionDenied k
  else do
    let (count, k) ← revokeDescendantsTreeLocked k s
    done count k

/-! ### Close -/

/-- A child of the closed capability goes to the parent's parent. -/
def reparent (parent : Slot) (parentGen : BitVec 16) (depth : ℕ) (child : CapabilityNode) :
    CapabilityNode :=
  { child with parent := some parent, parentGen := parentGen, derivationDepth := depth }

/-- A child of the closed root becomes a root. -/
def promote (child : CapabilityNode) : CapabilityNode :=
  { child with parent := none, parentGen := 0, derivationDepth := 0 }

/-- The children from `first` to `last` are put in front of the chain of `p`. -/
def spliceChildren (p : Slot) (first : Option Slot) :
    Option Slot → NodeTable
  | none => node
  | some last =>
    let node₁ := update node last { node last with nextSibling := (node p).firstChild }
    update node₁ p { node₁ p with firstChild := first }

/-- The table after the capability of `s` is taken out of the tree, its own node not yet reset. A
depth is a byte: `saturating_add`. -/
def unlinkNode (s : Slot) : Option NodeTable :=
  let n := node s
  match n.parent with
  | some p => do
    let removed ← removeChildLocked node p s
    let depth := min ((removed p).derivationDepth + 1) 255
    let (moved, last) ← mapChain CapabilityNode.nextSibling (reparent p n.parentGen depth)
      maxCapabilityNodes n.firstChild removed none
    some (spliceChildren moved p n.firstChild last)
  | none => do
    let (promoted, _) ← mapChain CapabilityNode.nextSibling promote maxCapabilityNodes n.firstChild
      node none
    some promoted

def capabilityCloseLocked : Outcome (ObjIdx × ℕ) :=
  let e := k.entry s
  if e.occupied = false then fail .invalidHandle k
  else
    match unlinkNode k.node s with
    | none => .error .hang
    | some node =>
      let k := { invalidate k s with node := update node s .empty }
      let k := if (k.object e.objectIndex).occupied then dropHandleRef k e.objectIndex else k
      done (e.objectIndex, e.endpoint) k

/-- The endpoint loses a handle; with the last one it closes, and all waiters wake. -/
def dropEndpointRef (endpoint : ℕ) : Except Halt Kernel :=
  let c := (k.object i).poolIndex
  let ch := (k.channel c).dropRef endpoint
  if (ch.mine endpoint).handleRefs = 0 then
    let header := (k.object i).header
    let o := { k.object i with header := { header with signals := header.signals ||| 4#32 } }
    let k := { k with object := update k.object i o }
    wakeAllWaiters (k.setChannel c (ch.close endpoint)) c endpoint
  else .ok (k.setChannel c ch)

/-- The end of a close of a channel handle. -/
def releaseEndpoint (endpoint : ℕ) : Except Halt Kernel := do
  let k ← dropEndpointRef k i endpoint
  checkAndReclaimChannelLocked k i

def closeAndReclaimCapabilityLocked :
    Except Halt (Except IpcError Unit × Kernel) := do
  let (res, k) ← capabilityCloseLocked k s
  match res with
  | .error e => fail e k
  | .ok (i, endpoint) =>
    if (k.object i).occupied then
      match (k.object i).objType with
      | .channel => do
        let k ← releaseEndpoint k i endpoint
        done () k
      | .shmObject => do
        let k ← checkAndReclaimShmLocked k i
        done () k
      | _ => done () k
    else done () k

end ProjectZero.Cap.Ops
