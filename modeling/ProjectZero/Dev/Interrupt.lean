import ProjectZero.Dev.Tables

/-! # Interrupt bindings

A vector has four slots for bindings. The first binding decides whether the line is shared; further
ones are let in only if all of them share. -/

namespace ProjectZero.Dev.Interrupt

open Dev.Tables

/-- The line as the new binding finds it: an idle line takes over its sharing mode. -/
def configureLine (line : IrqLineState) (sharing : ResourceSharing) : Option IrqLineState :=
  if line.activeBindings = 0 then some { line with sharing := sharing }
  else if line.sharing ≠ .shared ∨ sharing ≠ .shared then none
  else some line

def registerIrqBinding (v : Vector) (sharing : ResourceSharing) (deviceId driverPid eventObjectId : ℕ)
    (d : Devices) : Except DeviceError (BitVec 16) × Devices :=
  match configureLine (d.line v) sharing with
  | none => (.error .resourceConflict, d)
  | some line =>
    let d := { d with line := update d.line v line }
    if maxSharedIrqBindings ≤ line.activeBindings then (.error .capacityExceeded, d)
    else
      match (List.finRange 4).find? fun b => !(d.binding v b).occupied with
      | none => (.error .capacityExceeded, d)
      | some b =>
        let bindingId := (BitVec.ofNat 16 v.val <<< 8) ||| BitVec.ofNat 16 b.val
        let slot : InterruptBinding :=
          { occupied := true, bindingId := bindingId, deviceId := deviceId, driverPid := driverPid,
            eventObjectId := eventObjectId, interruptCount := 0 }
        let line := { line with activeBindings := line.activeBindings + 1 }
        (.ok bindingId, { d with
          binding := update d.binding v (update (d.binding v) b slot)
          line := update d.line v line })

/-- **A registration** changes no binding, or fills a free slot for the caller. -/
lemma registerIrqBinding_cases (v : Vector) (sharing : ResourceSharing)
    (deviceId driverPid eventObjectId : ℕ) (d : Devices) :
    (∃ e line, registerIrqBinding v sharing deviceId driverPid eventObjectId d =
      (.error e, { d with line := line })) ∨
    ∃ id b slot line, (d.binding v b).occupied = false ∧ slot.occupied ∧
      slot.driverPid = driverPid ∧
      registerIrqBinding v sharing deviceId driverPid eventObjectId d = (.ok id, { d with
        binding := update d.binding v (update (d.binding v) b slot)
        line := line }) := by
  unfold registerIrqBinding
  split
  · exact .inl ⟨_, d.line, rfl⟩
  simp only
  iterate 2
    split
    · exact .inl ⟨_, _, rfl⟩
  rename_i b hb
  have hfree := List.find?_some hb
  simp only [Bool.not_eq_true'] at hfree
  exact .inr ⟨_, b, _, _, hfree, rfl, rfl, rfl⟩

end ProjectZero.Dev.Interrupt
