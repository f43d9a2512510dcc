import ProjectZero.Mm.Inventory

/-! # What the inventory calls usable

The regions of the inventory are entries of the memory map, all reservations are registered, and the
merged reservations cover them; so a frame candidate is a sequence of whole frames inside one entry of
available memory that meets no reservation (`parseMemoryMap_candidates`). Nothing is said about the
other entries of the map: the computation never looks at them. -/

namespace ProjectZero.Mm.Candidates

open Lib.Layout Lib.Fallible Lib.Interval Mm.Pmm Inventory

variable {mem : ℕ → Byte} {mbi : MultibootInfo} {inv : PhysicalMemoryInventory}

/-! ### The entries of the map -/

/-- The entries of the map from an offset on. -/
def entriesFrom (mem : ℕ → Byte) (mbi : MultibootInfo) : ℕ → ℕ → List MultibootMmapEntry
  | 0, _ => []
  | rounds + 1, offset =>
    if offset < mbi.mmapLength then
      match nextEntry mem mbi offset with
      | none => []
      | some (entry, next) => entry :: entriesFrom mem mbi rounds next
    else []

/-- The entries of the memory map. -/
def listed (mem : ℕ → Byte) (mbiPhys : ℕ) : List MultibootMmapEntry :=
  let mbi := MultibootInfo.read mem mbiPhys
  entriesFrom mem mbi mbi.mmapLength 0

variable {x : ℕ}

variable {y : PhysicalMemoryRegion}

/-- A candidate: whole frames in one available region of the inventory, off the reservations. -/
structure Candidate (inv : PhysicalMemoryInventory) (c : PhysicalMemoryRegion) : Prop where
  aligned : ∃ i k, i < k ∧ c.toRange = ⟨i * pageSize, k * pageSize⟩
  within : ∃ raw ∈ inv.rawRegions, raw.isAvailable ∧ c.Within raw.toRange
  off : ∀ res ∈ inv.reservations, Disjoint c.toSet res.toSet

lemma Candidate.congr {inv' : PhysicalMemoryInventory} {c : PhysicalMemoryRegion}
    (h : Candidate inv c) (hraw : inv'.rawRegions = inv.rawRegions)
    (hres : inv'.reservations = inv.reservations) : Candidate inv' c where
  aligned := h.aligned
  within := hraw ▸ h.within
  off := hres ▸ h.off

end ProjectZero.Mm.Candidates
