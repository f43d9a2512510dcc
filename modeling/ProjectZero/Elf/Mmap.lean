import ProjectZero.Mm.Vmm

/-! # The pages of a process

The companion table of a process records the pages the loader has mapped for it, and their frames, so
that they can be given back when the process is reclaimed. -/

namespace ProjectZero.Elf.Mmap

open Tables Mm.Pmm Mm.Vmm

inductive MemoryMapState
  | free | allocating | active | reclaiming
  deriving DecidableEq

/-- The entries of the array below `page_count`. -/
structure ProcessMemoryMap where
  state : MemoryMapState
  pages : List (VirtualAddress × PhysFrame)

def ProcessMemoryMap.empty : ProcessMemoryMap := { state := .free, pages := [] }

/-- A recorded page is unmapped under `root`, and its frame is freed. -/
def releasePage (g : AddressSpaceGeometry) (root : PhysFrame) (m : Memory)
    (entry : VirtualAddress × PhysFrame) : Memory :=
  if entry.2 ≠ 0 then
    let m := (unmapPage g root entry.1 m).2
    { m with pmm := (freeFrame m.pmm entry.2).2 }
  else m

/-- All recorded pages are released, and the table is free again. -/
def reclaimProcessMemoryMapLocked (g : AddressSpaceGeometry) (root : PhysFrame)
    (mmap : ProcessMemoryMap) (m : Memory) : ProcessMemoryMap × Memory :=
  if mmap.state = .free then (mmap, m)
  else (.empty, mmap.pages.foldl (releasePage g root) m)

end ProjectZero.Elf.Mmap
