import ProjectZero.Mm.Pmm

/-! # Page tables

The four-level walk of a page table in memory: translation, `map_page` and `unmap_page`. The tables
live in frames of the physical memory, so a `Memory` is the frame allocator together with the content
of every frame read as a table. The steps the source makes once per level are one function here, run
over the list of the levels: PML4, PDPT and PD, of which the last two can hold huge pages. -/

namespace ProjectZero.Mm.Vmm

open Tables Mm.Pmm

inductive VmmError
  | nonCanonicalAddress | unalignedPageAddress | unalignedFrameAddress | invalidPhysicalAddress
  | alreadyMapped | notMapped | invalidFlags | nxDisabled | outOfMemory | hugePageUnsupported
  deriving DecidableEq

/-! ### Addresses -/

/-- A linear address, below `2 ^ 64`. -/
abbrev VirtualAddress := ℕ

variable (g : AddressSpaceGeometry)

def isCanonical (addr : VirtualAddress) : Bool :=
  let signExtended := (BitVec.ofNat 64 addr).sshiftRight (g.virtualBits - 1)
  signExtended = 0 || signExtended = BitVec.allOnes 64

variable (v : VirtualAddress)

def p4Index : Fin 512 := Fin.ofNat 512 (v >>> 39)

def p3Index : Fin 512 := Fin.ofNat 512 (v >>> 30)

def p2Index : Fin 512 := Fin.ofNat 512 (v >>> 21)

def p1Index : Fin 512 := Fin.ofNat 512 (v >>> 12)

/-- `Page::from_start_address`. -/
def pageFromStartAddress (addr : VirtualAddress) :
    Except VmmError VirtualAddress :=
  if addr % pageSize ≠ 0 then .error .unalignedPageAddress
  else if isCanonical g addr = false then .error .nonCanonicalAddress
  else .ok addr

def physicalMask : BitVec 64 :=
  ((1#64 <<< g.physicalBits) - 1#64) &&& ~~~0xFFF#64

def isValidPhysFrame (frame : PhysFrame) : Bool :=
  frame % pageSize = 0 && BitVec.ofNat 64 frame &&& ~~~physicalMask g = 0

/-! ### Entries -/

namespace PageTableFlags

def present : BitVec 64 := 1#64 <<< 0
def writable : BitVec 64 := 1#64 <<< 1
def userAccessible : BitVec 64 := 1#64 <<< 2
def writeThrough : BitVec 64 := 1#64 <<< 3
def cacheDisable : BitVec 64 := 1#64 <<< 4
def hugePage : BitVec 64 := 1#64 <<< 7
def noExecute : BitVec 64 := 1#64 <<< 63

def contains (flags other : BitVec 64) : Bool := flags &&& other = other

end PageTableFlags

variable (flags : BitVec 64)

/-- `validate_leaf`. -/
def validateLeaf : Except VmmError Unit :=
  if PageTableFlags.contains flags PageTableFlags.noExecute && !g.nxEnabled then
    .error .nxDisabled
  else if PageTableFlags.contains flags PageTableFlags.hugePage then .error .invalidFlags
  else .ok ()

def isPresent (e : PageTableEntry) : Bool := e &&& PageTableFlags.present ≠ 0

def isHuge (e : PageTableEntry) : Bool := PageTableFlags.contains e PageTableFlags.hugePage

def pointsToFrame (e : PageTableEntry) : PhysFrame :=
  (e &&& physicalMask g).toNat

/-- The entry that `set` writes. -/
def mkEntry (frame : PhysFrame) (flags : BitVec 64) : PageTableEntry :=
  (BitVec.ofNat 64 frame &&& physicalMask g) ||| flags

def presentCount (t : PageTable) : ℕ := ((List.finRange 512).filter fun i => isPresent (t i)).length

inductive MappingDomain
  | kernel | user
  deriving DecidableEq

def MappingDomain.intermediateFlags : MappingDomain → BitVec 64
  | .kernel => 0
  | .user => PageTableFlags.userAccessible

/-! ### Memory -/

/-- The frame allocator, and the frames read as page tables. -/
structure Memory where
  pmm : Pmm
  table : PhysFrame → PageTable

namespace Memory

def setEntry (m : Memory) (t : PhysFrame) (i : Fin 512) (e : PageTableEntry) : Memory :=
  { m with table := update m.table t (update (m.table t) i e) }

def zero (m : Memory) (t : PhysFrame) : Memory :=
  { m with table := update m.table t fun _ => 0 }

end Memory

/-- An entry of the table `parent`, and the table in `frame` it leads to. -/
structure Link where
  parent : PhysFrame
  index : Fin 512
  frame : PhysFrame

/-- The entry is cleared, and the table it led to is freed. -/
def Link.release (m : Memory) (l : Link) : Memory :=
  let m := m.setEntry l.parent l.index 0
  { m with pmm := (freeFrame m.pmm l.frame).2 }

/-! ### Translation -/

/-- The levels above the leaf tables on the way to `v`: the index, and whether the entry there can be
a huge page. -/
def levels : List (Bool × Fin 512) :=
  [(false, p4Index v), (true, p3Index v), (true, p2Index v)]

variable (table : PhysFrame → PageTable)

/-- The walk down the tables. The last argument is the number of bytes that an entry of the current
table covers. -/
def translateFrom (v : VirtualAddress) :
    List (Bool × Fin 512) → PhysFrame → ℕ → Except VmmError PhysFrame
  | [], t, _ =>
    if isPresent (table t (p1Index v)) then .ok (pointsToFrame g (table t (p1Index v)))
    else .error .notMapped
  | (huge, i) :: path, t, size =>
    let e := table t i
    if isPresent e = false then .error .notMapped
    else if huge && isHuge e then
      -- the base loses the bits below the page size, the offset those below 4 KiB
      .ok (pointsToFrame g e / size * size + v % size / pageSize * pageSize)
    else translateFrom v path (pointsToFrame g e) (size / 512)

variable (root : PhysFrame) (page : VirtualAddress)

def translate : Except VmmError PhysFrame :=
  if isCanonical g page = false then .error .nonCanonicalAddress
  else translateFrom g table page (levels page) root (2 ^ 39)

/-- The walk of `get_page_flags`: the entry that maps the page, all bits of which are its flags. -/
def flagsFrom (v : VirtualAddress) :
    List (Bool × Fin 512) → PhysFrame → Except VmmError (BitVec 64)
  | [], t => if isPresent (table t (p1Index v)) then .ok (table t (p1Index v)) else .error .notMapped
  | (huge, i) :: path, t =>
    let e := table t i
    if isPresent e = false then .error .notMapped
    else if huge && isHuge e then .ok e
    else flagsFrom v path (pointsToFrame g e)

def getPageFlags : Except VmmError (BitVec 64) :=
  if isCanonical g page = false then .error .nonCanonicalAddress
  else flagsFrom g table page (levels page) root

/-! ### Mapping -/

/-- The tables made by the call so far are given back, the last one first. -/
def rollback (m : Memory) (fresh : List Link) : Memory := fresh.foldl Link.release m

/-- One level of the descent of `map_page`: the table behind an entry, made if there is none. -/
def nextTable (huge : Bool) (t : PhysFrame)
    (i : Fin 512) (fresh : List Link) (m : Memory) :
    Except Halt (Except VmmError (PhysFrame × List Link) × Memory) :=
  let e := m.table t i
  if isPresent e = false then
    match allocFrame m.pmm with
    | (none, _) => .ok (.error .outOfMemory, rollback m fresh)
    | (some f, pmm) =>
      if isValidPhysFrame g f then
        let m := ({ m with pmm := pmm }.zero f).setEntry t i (mkEntry g f flags)
        .ok (.ok (f, ⟨t, i, f⟩ :: fresh), m)
      else .error .panic
  else if huge && isHuge e then .ok (.error .hugePageUnsupported, m)
  else .ok (.ok (pointsToFrame g e, fresh), m)

/-- The descent of `map_page` to the leaf table, with the tables it made. -/
def descend :
    List (Bool × Fin 512) → PhysFrame → List Link → Memory →
      Except Halt (Except VmmError (PhysFrame × List Link) × Memory)
  | [], t, fresh, m => .ok (.ok (t, fresh), m)
  | (huge, i) :: path, t, fresh, m => do
    let (r, m) ← nextTable g flags huge t i fresh m
    match r with
    | .error e => .ok (.error e, m)
    | .ok (t, fresh) => descend path t fresh m

/-- The flags of a leaf entry. -/
def leafFlags : MappingDomain → BitVec 64
  | .kernel => (flags ||| PageTableFlags.present) &&& ~~~PageTableFlags.userAccessible
  | .user => flags ||| PageTableFlags.present

/-- The last step of `map_page`, at the leaf table. -/
def mapLeaf (frame : PhysFrame)
    (flags : BitVec 64) (domain : MappingDomain) (pt : PhysFrame) (fresh : List Link)
    (m : Memory) : Except VmmError Unit × Memory :=
  if isPresent (m.table pt (p1Index page)) then (.error .alreadyMapped, rollback m fresh)
  else (.ok (), m.setEntry pt (p1Index page) (mkEntry g frame (leafFlags flags domain)))

def mapPage
    (frame : PhysFrame) (flags : BitVec 64) (domain : MappingDomain) (m : Memory) :
    Except Halt (Except VmmError Unit × Memory) :=
  if isCanonical g page = false then .ok (.error .nonCanonicalAddress, m)
  else if isValidPhysFrame g frame = false then .ok (.error .invalidPhysicalAddress, m)
  else
    match validateLeaf g flags with
    | .error e => .ok (.error e, m)
    | .ok () => do
      let intermediate := PageTableFlags.present ||| PageTableFlags.writable |||
        domain.intermediateFlags
      let (r, m) ← descend g intermediate (levels page) root [] m
      match r with
      | .error e => .ok (.error e, m)
      | .ok (pt, fresh) => .ok (mapLeaf g page frame flags domain pt fresh m)

/-! ### Unmapping -/

/-- The descent of `unmap_page`, with the links it went along, the last one first. -/
def findTable :
    List (Bool × Fin 512) → PhysFrame → List Link → Except VmmError (PhysFrame × List Link)
  | [], t, links => .ok (t, links)
  | (huge, i) :: path, t, links =>
    let e := table t i
    if isPresent e = false then .error .notMapped
    else if huge && isHuge e then .error .hugePageUnsupported
    else findTable path (pointsToFrame g e) (⟨t, i, pointsToFrame g e⟩ :: links)

/-- Tables that became empty are given back, from the leaf table upwards. -/
def reclaimEmpty (m : Memory) : List Link → Memory
  | [] => m
  | l :: links =>
    if presentCount (m.table l.frame) = 0 then reclaimEmpty (l.release m) links else m

def unmapPage (m : Memory) :
    Except VmmError PhysFrame × Memory :=
  if isCanonical g page = false then (.error .nonCanonicalAddress, m)
  else
    match findTable g m.table (levels page) root [] with
    | .error e => (.error e, m)
    | .ok (pt, links) =>
      let e := m.table pt (p1Index page)
      if isPresent e = false then (.error .notMapped, m)
      else (.ok (pointsToFrame g e), reclaimEmpty (m.setEntry pt (p1Index page) 0) links)

end ProjectZero.Mm.Vmm
