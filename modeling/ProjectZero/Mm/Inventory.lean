import ProjectZero.Lib.Fallible
import ProjectZero.Lib.Interval
import ProjectZero.Lib.Layout
import ProjectZero.Mm.Pmm

/-! # The inventory of physical memory

`parse_memory_map` reads the Multiboot memory map out of memory, registers the ranges the kernel and
the boot loader occupy, and computes what is left of the available memory, first as ranges of bytes
and then as pools of whole frames; `init_from_inventory` starts the frame allocator with these pools.
Arithmetic that overflows, and a reservation in the way of the allocator's own storage, stop the
kernel. The tables of the source have a fixed size: what does not fit any more is dropped. -/

namespace ProjectZero.Mm.Inventory

open Tables Lib.Layout Lib.Fallible Lib.Interval Mm.Pmm

def multibootBootloaderMagic : ℕ := 0x2BADB002
def maxInventoryRegions : ℕ := 32
def maxReservations : ℕ := 32
def maxUsableRanges : ℕ := 32
def pmmMaxTrackedFrames : ℕ := 65536

/-- Steps of the boot; an error is the text the source gives. -/
abbrev Boot := Comp Halt String

def add (w a b : ℕ) : Boot ℕ := addWord w (fault .panic) a b

def total (sizes : List ℕ) : Boot ℕ := sizes.foldlM (add 64) 0

/-! ### The Multiboot structures -/

variable (mem : ℕ → Byte)

def readU32 (addr : ℕ) : ℕ := (u32 fun i => mem (addr + i)).toNat

def readU64 (addr : ℕ) : ℕ := (u64 fun i => mem (addr + i)).toNat

/-- The fields of `MultibootInfo` that are read. -/
structure MultibootInfo where
  flags : ℕ
  modsCount : ℕ
  modsAddr : ℕ
  mmapLength : ℕ
  mmapAddr : ℕ

def sizeofMultibootInfo : ℕ := 120

def MultibootInfo.read (mbiPhys : ℕ) : MultibootInfo where
  flags := readU32 mem mbiPhys
  modsCount := readU32 mem (mbiPhys + 20)
  modsAddr := readU32 mem (mbiPhys + 24)
  mmapLength := readU32 mem (mbiPhys + 44)
  mmapAddr := readU32 mem (mbiPhys + 48)

structure MultibootMmapEntry where
  size : ℕ
  baseAddr : ℕ
  length : ℕ
  type : ℕ
  deriving DecidableEq

def MultibootMmapEntry.read (addr : ℕ) : MultibootMmapEntry where
  size := readU32 mem addr
  baseAddr := readU64 mem (addr + 4)
  length := readU64 mem (addr + 12)
  type := readU32 mem (addr + 20)

inductive MemoryRegionType
  | availableRAM | reserved | acpiReclaimable | acpiNvs | badRam | unknown (code : ℕ)
  deriving DecidableEq

def MemoryRegionType.fromMultiboot : ℕ → MemoryRegionType
  | 1 => .availableRAM
  | 2 => .reserved
  | 3 => .acpiReclaimable
  | 4 => .acpiNvs
  | 5 => .badRam
  | other => .unknown other

/-- A range of physical memory with its type. -/
structure PhysicalMemoryRegion extends Range where
  regionType : MemoryRegionType
  deriving DecidableEq

namespace PhysicalMemoryRegion

def available (start stop : ℕ) : PhysicalMemoryRegion := ⟨⟨start, stop⟩, .availableRAM⟩

def isAvailable (r : PhysicalMemoryRegion) : Bool := r.regionType = .availableRAM

/-- `saturating_sub`. -/
def size (r : PhysicalMemoryRegion) : ℕ := r.stop - r.start

end PhysicalMemoryRegion

/-- The range of an entry, and its type. -/
def MultibootMmapEntry.region (e : MultibootMmapEntry) : PhysicalMemoryRegion :=
  ⟨⟨e.baseAddr, e.baseAddr + e.length⟩, .fromMultiboot e.type⟩

/-! ### The inventory -/

structure PhysicalMemoryInventory where
  rawRegions : List PhysicalMemoryRegion
  reservations : List Range
  usableRanges : List PhysicalMemoryRegion
  frameCandidates : List PhysicalMemoryRegion
  totalAddressSpaceBytes : ℕ
  uniqueReservationUnionBytes : ℕ
  reservationIntersectionType1Bytes : ℕ
  discoverableByteLevelRam : ℕ
  pageAlignedFrameCandidateBytes : ℕ
  stage2cCandidateFramesBeforePmm : ℕ
  stage2dCandidateFramesAfterPmm : ℕ

def PhysicalMemoryInventory.new : PhysicalMemoryInventory where
  rawRegions := []
  reservations := []
  usableRanges := []
  frameCandidates := []
  totalAddressSpaceBytes := 0
  uniqueReservationUnionBytes := 0
  reservationIntersectionType1Bytes := 0
  discoverableByteLevelRam := 0
  pageAlignedFrameCandidateBytes := 0
  stage2cCandidateFramesBeforePmm := 0
  stage2dCandidateFramesAfterPmm := 0

/-- The table of `add_reservation`: an empty range is not entered. -/
def addReservation (l : List Range) (r : Range) : List Range :=
  if r.start ≥ r.stop then l else push maxReservations l r

/-! ### The memory map -/

variable (mbi : MultibootInfo)

/-- The entry at the offset, and the offset of the next one; none where the map is cut off. -/
def nextEntry (offset : ℕ) :
    Option (MultibootMmapEntry × ℕ) :=
  let entry := MultibootMmapEntry.read mem (mbi.mmapAddr + offset)
  let next := offset + entry.size + 4
  if offset + 4 > mbi.mmapLength then none
  else if entry.size < 20 then none
  else if next < 2 ^ 32 ∧ next ≤ mbi.mmapLength then some (entry, next)
  else none

variable (inv : PhysicalMemoryInventory)

/-- An entry is recorded unless its end overflows, it is empty or the table is full. -/
def recordEntry (entry : MultibootMmapEntry) :
    Boot PhysicalMemoryInventory :=
  if entry.baseAddr + entry.length < 2 ^ 64 ∧ entry.length > 0 ∧
      inv.rawRegions.length < maxInventoryRegions then do
    let bytes ← add 64 inv.totalAddressSpaceBytes entry.length
    return { inv with
      rawRegions := inv.rawRegions ++ [entry.region]
      totalAddressSpaceBytes := bytes }
  else return inv

/-- The loop over the entries. An entry takes at least 24 bytes, so the length of the map bounds the
number of rounds. -/
def parseEntries :
    ℕ → ℕ → PhysicalMemoryInventory → Boot PhysicalMemoryInventory
  | 0, _, inv => return inv
  | rounds + 1, offset, inv =>
    if offset < mbi.mmapLength then do
      demand (offset + 4 < 2 ^ 32) .panic
      match nextEntry mem mbi offset with
      | none => return inv
      | some (entry, next) => parseEntries rounds next (← recordEntry inv entry)
    else return inv

/-! ### Usable memory -/

/-- The rounds over the merged reservations from `i` on, which absorb those that `cur` touches. -/
def absorb : ℕ → ℕ → List Range → Range → List Range × Range
  | 0, _, merged, cur => (merged, cur)
  | rounds + 1, i, merged, cur =>
    match merged[i]? with
    | none => (merged, cur)
    | some ex =>
      if cur.start ≤ ex.stop ∧ cur.stop ≥ ex.start then
        absorb rounds i (swapRemove merged i) (cur.hull ex)
      else absorb rounds (i + 1) merged cur

/-- A reservation joins the merged ones. -/
def mergeReservation (merged : List Range) (r : Range) : List Range :=
  if r.start ≥ r.stop then merged
  else
    let (merged, cur) := absorb merged.length 0 merged r
    push maxReservations merged cur

/-- One range without one reservation. -/
def subtractOne (res : Range) (next : List PhysicalMemoryRegion) (wr : PhysicalMemoryRegion) :
    List PhysicalMemoryRegion :=
  if max wr.start res.start ≥ min wr.stop res.stop then push maxUsableRanges next wr
  else
    let next :=
      if wr.start < res.start ∧ min wr.stop res.start > wr.start then
        push maxUsableRanges next (.available wr.start (min wr.stop res.start))
      else next
    if wr.stop > res.stop ∧ wr.stop > max wr.start res.stop then
      push maxUsableRanges next (.available (max wr.start res.stop) wr.stop)
    else next

/-- All ranges without one reservation. -/
def subtract (working : List PhysicalMemoryRegion) (res : Range) : List PhysicalMemoryRegion :=
  working.foldl (subtractOne res) []

/-- The inner loop of the sort: `n` comparisons of neighbours. -/
def bubblePass : ℕ → List PhysicalMemoryRegion → List PhysicalMemoryRegion
  | n + 1, a :: b :: l =>
    if a.start > b.start then b :: bubblePass n (a :: l) else a :: bubblePass n (b :: l)
  | _, l => l

def bubbleSort (l : List PhysicalMemoryRegion) : List PhysicalMemoryRegion :=
  (List.range (l.length - 1)).foldl (fun l' i => bubblePass (l.length - i - 1) l') l

/-- `a & !4095`. -/
def alignDown (a : ℕ) : ℕ := a / pageSize * pageSize

/-- The whole frames of a range, if there are any. -/
def addCandidate (cands : List PhysicalMemoryRegion) (u : PhysicalMemoryRegion) :
    List PhysicalMemoryRegion :=
  let frameStart := alignDown (min (u.start + 4095) (2 ^ 64 - 1))
  let frameEnd := alignDown u.stop
  if frameStart < frameEnd then push maxUsableRanges cands (.available frameStart frameEnd)
  else cands

/-- The bytes of the merged reservations in the available regions. -/
def intersections (raw : List PhysicalMemoryRegion) (merged : List Range) : List ℕ :=
  (raw.filter (·.isAvailable)).flatMap fun r =>
    merged.map fun res => min r.stop res.stop - max r.start res.start

def computeUsableMemoryInventory :
    Boot PhysicalMemoryInventory := do
  let merged := inv.reservations.foldl mergeReservation []
  let unionBytes ← total (merged.map fun r => r.stop - r.start)
  let intersectionBytes ← total (intersections inv.rawRegions merged)
  let working := (inv.rawRegions.filter fun r => r.isAvailable && r.size > 0).take maxUsableRanges
  let usable := bubbleSort (merged.foldl subtract working)
  let discoverable ← total (usable.map (·.size))
  let candidates := usable.foldl addCandidate []
  let candidateBytes ← total (candidates.map (·.size))
  return { inv with
    usableRanges := usable
    frameCandidates := candidates
    uniqueReservationUnionBytes := unionBytes
    reservationIntersectionType1Bytes := intersectionBytes
    discoverableByteLevelRam := discoverable
    pageAlignedFrameCandidateBytes := candidateBytes }

/-! ### The whole map -/

/-- Where the linker put the parts of the kernel. -/
structure KernelRanges where
  image : Range
  bss : Range
  pageTables : Range
  stackGuard : Range
  stack : Range
  idt : Range
  ist1Stack : Range
  gdt : Range
  tss : Range
  pmmMetadata : Range

/-- The ranges registered before those of the boot loader. -/
def KernelRanges.reservations (k : KernelRanges) : List Range :=
  [⟨0, 0x100000⟩, k.image, k.bss, k.pageTables, k.stackGuard, k.stack, k.idt, k.ist1Stack, k.gdt,
    k.tss]

/-- The ranges of the boot loader's structures. -/
def MultibootInfo.reservations (mbiPhys : ℕ) : List Range :=
  [⟨mbiPhys, mbiPhys + sizeofMultibootInfo⟩, ⟨mbi.mmapAddr, mbi.mmapAddr + mbi.mmapLength⟩] ++
    if mbi.modsCount > 0 ∧ mbi.modsAddr ≠ 0 then
      [⟨mbi.modsAddr, mbi.modsAddr + mbi.modsCount * 16⟩]
    else []

def parseMemoryMap (k : KernelRanges) (mbiPhys multibootMagic : ℕ) :
    Boot PhysicalMemoryInventory := do
  rejectIf (multibootMagic ≠ multibootBootloaderMagic)
    "Invalid Multiboot 1 bootloader magic! Expected 0x2BADB002."
  rejectIf (mbiPhys = 0) "Multiboot information pointer is null (0)!"
  let mbi := MultibootInfo.read mem mbiPhys
  rejectIf (mbi.flags.testBit 6 = false)
    "Multiboot flags indicate memory map is not present (flag bit 6 is clear)!"
  rejectIf (mbi.mmapAddr = 0 ∨ mbi.mmapLength = 0)
    "Multiboot memory map address or length is zero!"
  let inv ← parseEntries mem mbi mbi.mmapLength 0 .new
  rejectIf (inv.rawRegions = []) "No valid Multiboot memory map entries were discovered!"
  demand (mbiPhys + sizeofMultibootInfo < 2 ^ 64) .panic
  let boot := (k.reservations ++ mbi.reservations mbiPhys).foldl addReservation []
  let inv ← computeUsableMemoryInventory { inv with reservations := boot }
  let stage2c := inv.pageAlignedFrameCandidateBytes / 4096
  demand (∀ res ∈ inv.reservations, ¬res.Overlaps k.pmmMetadata) .panic
  let inv ← computeUsableMemoryInventory
    { inv with reservations := addReservation inv.reservations k.pmmMetadata }
  return { inv with
    stage2cCandidateFramesBeforePmm := stage2c
    stage2dCandidateFramesAfterPmm := inv.pageAlignedFrameCandidateBytes / 4096 }

/-! ### The frame allocator -/

inductive PmmInitError
  | capacityExceeded (required max : ℕ) | zeroCandidates

/-- `for f in start..stop { set_state(f, st) }`, up to the last tracked frame. -/
def setStates (tracked : ℕ) (st : FrameState) (state : ℕ → FrameState) (start stop : ℕ) :
    ℕ → FrameState :=
  (List.range' start (min stop tracked - start)).foldl (fun s f => update s f st) state

/-- The end of the available memory and of the candidates. -/
def maxRamAddr : ℕ :=
  inv.frameCandidates.foldl (fun m c => max m c.stop)
    ((inv.rawRegions.filter (·.isAvailable)).foldl (fun m r => max m r.stop) 0)

/-- The frame number `i` starts in available memory. -/
def isType1 (i : ℕ) : Bool :=
  inv.rawRegions.any fun r =>
    r.isAvailable && decide (r.start ≤ i * pageSize) && decide (i * pageSize < r.stop)

/-- The states of the frames before reservations and candidates are entered. -/
def initialStates (tracked : ℕ) : ℕ → FrameState :=
  (List.range tracked).foldl
    (fun s i => update s i (if isType1 inv i then .reserved else .unusable))
    fun _ => .unusable

/-- The states of the frames after initialisation. -/
def frameStates (tracked : ℕ) : ℕ → FrameState :=
  let state := inv.reservations.foldl (fun s res => setStates tracked .reserved s
    (res.start / pageSize) ((res.stop + pageSize - 1) / pageSize)) (initialStates inv tracked)
  inv.frameCandidates.foldl (fun s c => setStates tracked .free s
    (c.start / pageSize) (c.stop / pageSize)) state

def countState (state : ℕ → FrameState) (tracked : ℕ) (st : FrameState) : ℕ :=
  ((List.range tracked).filter fun f => state f = st).length

/-- The counts that the allocator keeps are those of the bitmap. -/
def verifyInvariants (pmm : Pmm) : Bool :=
  decide (countState pmm.state pmm.trackedFrames .free = pmm.freeFrames) &&
    decide (countState pmm.state pmm.trackedFrames .allocated = pmm.allocatedFrames)

def initFromInventory : Comp Halt PmmInitError Pmm := do
  rejectIf (inv.frameCandidates = []) .zeroCandidates
  let rounded ← addWord 64 (fault .panic) (maxRamAddr inv) pageSize
  let requiredFrames := (rounded - 1) / pageSize
  rejectIf (requiredFrames > pmmMaxTrackedFrames)
    (.capacityExceeded requiredFrames pmmMaxTrackedFrames)
  demand (∀ res ∈ inv.reservations, res.stop + pageSize < 2 ^ 64) .panic
  let state := frameStates inv requiredFrames
  let pmm : Pmm :=
    { initialized := true, trackedFrames := requiredFrames, state := state
      freeFrames := countState state requiredFrames .free
      allocatedFrames := countState state requiredFrames .allocated }
  rejectIf (verifyInvariants pmm = false) .zeroCandidates
  return pmm

end ProjectZero.Mm.Inventory
