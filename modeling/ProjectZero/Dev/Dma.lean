import ProjectZero.Dev.Tables
import ProjectZero.Mm.Pmm

/-! # DMA buffers

A buffer takes a descriptor, and for each of its frames one from the PMM and a slot of the pin table.
A failure gives back the frames and the pins taken so far. -/

namespace ProjectZero.Dev.Dma

open ProjectZero.Tables Mm.Pmm Dev.Tables

/-- The frames taken so far are unpinned and freed. -/
def unpinFrames (taken : List (PhysFrame × PinIdx)) (pmm : Pmm) (pin : PinIdx → PhysicalFramePinRecord) :
    Pmm × (PinIdx → PhysicalFramePinRecord) :=
  taken.foldl (fun (pmm, pin) (f, j) => ((freeFrame pmm f).2, update pin j .empty)) (pmm, pin)

/-- The loop over the frames of the buffer `b`, with the number of those that are missing. -/
def pinFrames (b : DmaIdx) : ℕ → List (PhysFrame × PinIdx) → Pmm → (PinIdx → PhysicalFramePinRecord) →
    Except DeviceError (List (PhysFrame × PinIdx)) × Pmm × (PinIdx → PhysicalFramePinRecord)
  | 0, taken, pmm, pin => (.ok taken, pmm, pin)
  | n + 1, taken, pmm, pin =>
    match allocFrame pmm with
    | (none, pmm) => (.error .outOfMemory, unpinFrames taken pmm pin)
    | (some f, pmm) =>
      match (List.finRange 128).find? fun j => !(pin j).occupied with
      | none => (.error .capacityExceeded, unpinFrames taken (freeFrame pmm f).2 pin)
      | some j =>
        let record : PhysicalFramePinRecord :=
          { occupied := true, pinCount := 1, owningBufferMask := 1#32 <<< b.val, physAddr := f }
        pinFrames b n (taken ++ [(f, j)]) pmm (update pin j record)

/-- The pins of a buffer, filled up with `0xFFFF`. -/
def frameIndices (taken : List (PhysFrame × PinIdx)) (i : Fin 16) : BitVec 16 :=
  match taken[i.val]? with
  | some (_, j) => BitVec.ofNat 16 j.val
  | none => 0xFFFF#16

def allocDmaBuffer (deviceId owningPid frameCount : ℕ) (sharing : ResourceSharing) (d : Devices)
    (pmm : Pmm) : Except DeviceError (BitVec 32 × PhysFrame) × Devices × Pmm :=
  if frameCount = 0 ∨ maxFramesPerBuffer < frameCount then (.error .invalidParameter, d, pmm)
  else
    match (List.finRange 32).find? fun b => !(d.buffer b).occupied with
    | none => (.error .capacityExceeded, d, pmm)
    | some b =>
      match pinFrames b frameCount [] pmm d.pin with
      | (.error e, pmm, pin) => (.error e, { d with pin := pin }, pmm)
      | (.ok taken, pmm, pin) =>
        let physBase := (taken.map Prod.fst).headD 0
        let desc : DmaBufferDescriptor :=
          { occupied := true, bufferId := d.nextBufferId, frameCount := frameCount, sharing := sharing,
            deviceId := deviceId, owningPid := owningPid, physBase := physBase,
            frameIndices := frameIndices taken }
        (.ok (d.nextBufferId, physBase), { d with
          buffer := update d.buffer b desc
          pin := pin
          nextBufferId := d.nextBufferId + 1 }, pmm)

/-- **An allocation** changes no descriptor, or fills a free one for the caller. -/
lemma allocDmaBuffer_cases (deviceId owningPid frameCount : ℕ) (sharing : ResourceSharing)
    (d : Devices) (pmm : Pmm) :
    (∃ e pin pmm', allocDmaBuffer deviceId owningPid frameCount sharing d pmm =
      (.error e, { d with pin := pin }, pmm')) ∨
    ∃ r b desc pin next pmm', (d.buffer b).occupied = false ∧ desc.occupied ∧
      desc.owningPid = owningPid ∧
      allocDmaBuffer deviceId owningPid frameCount sharing d pmm = (.ok r, { d with
        buffer := update d.buffer b desc
        pin := pin
        nextBufferId := next }, pmm') := by
  unfold allocDmaBuffer
  iterate 2
    split
    · exact .inl ⟨_, d.pin, pmm, rfl⟩
  rename_i b hb
  have hfree := List.find?_some hb
  simp only [Bool.not_eq_true'] at hfree
  split
  · exact .inl ⟨_, _, _, rfl⟩
  · exact .inr ⟨_, b, _, _, _, _, hfree, rfl, rfl, rfl⟩

end ProjectZero.Dev.Dma
