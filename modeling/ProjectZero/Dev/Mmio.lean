import ProjectZero.Dev.Tables
import ProjectZero.Ipc.Shm

/-! # Device registers in user space

Windows for device registers are cut from an aperture by a counter that only goes up, and are mapped
page by page without caching. -/

namespace ProjectZero.Dev.Mmio

open ProjectZero.Tables Mm.Pmm Mm.Vmm Ipc.Shm Dev.Tables

/-- `MAX_MMIO_MAP_SIZE`. -/
def maxMmioMapSize : ℕ := 16 * 1024 * 1024

/-- A window of the aperture. The counter moves on even if the window does not fit. -/
def allocateMmioVirtualWindow (size : ℕ) (d : Devices) : Except DeviceError VirtualAddress × Devices :=
  if size = 0 ∨ size % pageSize ≠ 0 ∨ maxMmioMapSize < size then (.error .invalidParameter, d)
  else
    let vaddr := d.nextMmioVaddr.toNat
    let d := { d with nextMmioVaddr := d.nextMmioVaddr + BitVec.ofNat 64 size }
    if userDevMmioEnd < min (vaddr + size) (2 ^ 64 - 1) then (.error .capacityExceeded, d)
    else (.ok vaddr, d)

/-- The flags of a page of device registers. -/
def mmioFlags (writable : Bool) : BitVec 64 :=
  let flags := PageTableFlags.present ||| PageTableFlags.userAccessible ||| PageTableFlags.noExecute |||
    PageTableFlags.cacheDisable ||| PageTableFlags.writeThrough
  if writable then flags ||| PageTableFlags.writable else flags

/-- The loop over the pages from `i` on, with the number of those that are missing. A page that cannot
be mapped undoes the ones before it; an address that is not a page's leaves the loop at once. -/
def mapWindow (g : AddressSpaceGeometry) (root : PhysFrame) (flags : BitVec 64) (physBase : ℕ)
    (vaddr : VirtualAddress) : ℕ → ℕ → Memory → Except Halt (Except DeviceError Unit × Memory)
  | 0, _, m => .ok (.ok (), m)
  | n + 1, i, m =>
    if 2 ^ 64 ≤ physBase + i * pageSize then .error .panic
    else
      match pageFromStartAddress g (pageAddr vaddr i) with
      | .error _ => .ok (.error .invalidParameter, m)
      | .ok page => do
        let (r, m) ← mapPage g root page (physBase + i * pageSize) flags .user m
        match r with
        | .error _ => .ok (.error .outOfMemory, unmapRange g root vaddr i m)
        | .ok () => mapWindow g root flags physBase vaddr n (i + 1) m

def mapDeviceMmio (g : AddressSpaceGeometry) (root : PhysFrame) (physBase size : ℕ) (writable : Bool)
    (d : Devices) (m : Memory) : Except Halt (Except DeviceError VirtualAddress × Devices × Memory) :=
  if physBase % pageSize ≠ 0 ∨ size % pageSize ≠ 0 ∨ size = 0 ∨ maxMmioMapSize < size then
    .ok (.error .invalidParameter, d, m)
  else
    match allocateMmioVirtualWindow size d with
    | (.error e, d) => .ok (.error e, d, m)
    | (.ok vaddr, d) => do
      let (r, m) ← mapWindow g root (mmioFlags writable) physBase vaddr (size / pageSize) 0 m
      match r with
      | .error e => .ok (.error e, d, m)
      | .ok () => .ok (.ok vaddr, d, m)

end ProjectZero.Dev.Mmio
