import ProjectZero.Cap.Ops

/-! # Handles

The three functions of the handle layer: a handle for a new object, the check of a handle given by a
process, and its close. -/

namespace ProjectZero.Ipc.Handle

open Lib.Run Tables Cap.Ops

def allocateHandleEntryLocked (k : Kernel) (p : PSlot) (i : ObjIdx) (rights : Rights)
    (endpoint : ℕ) : Outcome Handle :=
  match allocateHandleSlotLocked k p with
  | .error e => fail e k
  | .ok h => installRootCapabilityLocked k (p, h) i rights endpoint

/-- The object, the endpoint and the rights of a handle. -/
def validateHandleLocked (k : Kernel) (p : PSlot) (h : Handle) (requiredRights : Rights) :
    Except IpcError (ObjIdx × ℕ × Rights) :=
  if hs : h.slotIndex < 32 then
    let s : Slot := (p, ⟨h.slotIndex, hs⟩)
    let e := k.entry s
    if e.handleGeneration ≠ h.generation then .error .badHandleGeneration
    else if e.occupied = false then .error .invalidHandle
    else if (k.node s).isRevoked then .error .capabilityRevoked
    else if (k.object e.objectIndex).occupied = false ∨
        (k.object e.objectIndex).generation ≠ e.objectGeneration then
      .error .badHandleGeneration
    else if e.rights &&& requiredRights ≠ requiredRights then .error .permissionDenied
    else .ok (e.objectIndex, e.endpoint, e.rights)
  else .error .invalidHandle

def closeHandleLocked (k : Kernel) (p : PSlot) (h : Handle) : Outcome (ObjIdx × ℕ) :=
  if hs : h.slotIndex < 32 then
    let s : Slot := (p, ⟨h.slotIndex, hs⟩)
    if (k.entry s).handleGeneration ≠ h.generation then fail .badHandleGeneration k
    else if (k.entry s).occupied = false then fail .invalidHandle k
    else capabilityCloseLocked k s
  else fail .invalidHandle k

/-! ### What a handle denotes -/

/-- The handle word `h` of the process `p` is that of the capability in the slot `s`. -/
@[mk_iff]
structure Denotes (k : Kernel) (p : PSlot) (h : Handle) (s : Slot) : Prop where
  process : s.1 = p
  index : h.slotIndex = s.2
  generation : (k.entry s).handleGeneration = h.generation
  occupied : (k.entry s).occupied

instance (k : Kernel) (p : PSlot) (h : Handle) (s : Slot) : Decidable (Denotes k p h s) :=
  decidable_of_iff' _ (denotes_iff k p h s)

variable {k : Kernel} {s : Slot}

lemma Denotes.new (h : (k.entry s).occupied) :
    Denotes k s.1 (Handle.new (BitVec.ofNat 16 s.2) (k.entry s).handleGeneration) s :=
  ⟨rfl, Handle.slotIndex_new_slot _ _, (Handle.generation_new _ _).symm, h⟩

variable {p : PSlot} {h : Handle}

lemma Denotes.close (hd : Denotes k p h s) :
    closeHandleLocked k p h = capabilityCloseLocked k s := by
  obtain ⟨hp, hi, hg, ho⟩ := hd
  have hlt : h.slotIndex < 32 := by rw [hi]; exact s.2.isLt
  have hs : (p, (⟨h.slotIndex, hlt⟩ : HSlot)) = s := Prod.ext hp.symm (Fin.ext hi)
  unfold closeHandleLocked
  rw [dif_pos hlt]
  simp only [hs]
  rw [if_neg (by simp [hg]), if_neg (by simp [ho])]

lemma capabilityClose_rest (k : Kernel) (s : Slot) :
    Ensures (fun r => r.2 = { k with
      entry := r.2.entry, count := r.2.count, node := r.2.node, object := r.2.object
      saturated := r.2.saturated }) (capabilityCloseLocked k s) := by
  unfold capabilityCloseLocked
  simp only
  split
  · exact rfl
  split
  · trivial
  split
  · exact rfl
  · exact rfl

lemma closeHandle_cases (k : Kernel) (p : PSlot) (h : Handle) :
    (∃ e, closeHandleLocked k p h = fail e k) ∨
    ∃ s, Denotes k p h s ∧ closeHandleLocked k p h = capabilityCloseLocked k s := by
  unfold closeHandleLocked
  split
  · simp only
    split
    · exact .inl ⟨_, rfl⟩
    rename_i hg
    split
    · exact .inl ⟨_, rfl⟩
    rename_i ho
    exact .inr ⟨_, ⟨rfl, rfl, by simpa using hg, by simpa using ho⟩, rfl⟩
  · exact .inl ⟨_, rfl⟩

/-- A handle that passes the check denotes a capability that is not revoked, for a current object. -/
lemma validateHandle_ok {required : Rights}
    {r : ObjIdx × ℕ × Rights} (hv : validateHandleLocked k p h required = .ok r) :
    ∃ s, Denotes k p h s ∧ (k.node s).isRevoked = false ∧
      (k.object (k.entry s).objectIndex).occupied ∧
      (k.object (k.entry s).objectIndex).generation = (k.entry s).objectGeneration ∧
      (k.entry s).rights &&& required = required ∧
      r = ((k.entry s).objectIndex, (k.entry s).endpoint, (k.entry s).rights) := by
  unfold validateHandleLocked at hv
  split at hv
  · simp only at hv
    iterate 5
      split at hv
      · cases hv
    rename_i hg ho hr hobj hright
    simp only [not_or, Bool.not_eq_false, not_not] at hobj
    exact ⟨_, ⟨rfl, rfl, by simpa using hg, by simpa using ho⟩, by simpa using hr, hobj.1, hobj.2,
      by simpa using hright, (Except.ok.inj hv).symm⟩
  · cases hv

end ProjectZero.Ipc.Handle
