import ProjectZero.Mm.Vmm

/-! # Destroying address spaces

`AddressSpace::destroy` frees the tables of the user half, each after those behind it, and the root. -/

namespace ProjectZero.Mm.Spaces

open Tables Mm.Pmm Vmm

variable (g : AddressSpaceGeometry)

/-- The tables behind the entries of a table that are present and not huge, each after those that
`below` gives for it. -/
def tablesBehind (below : PhysFrame → List PhysFrame) (t : PageTable) :
    List PhysFrame :=
  (List.finRange 512).flatMap fun i =>
    if isPresent (t i) && !isHuge (t i) then
      below (pointsToFrame g (t i)) ++ [pointsToFrame g (t i)]
    else []

/-- The page directories and page tables under a table of the third level, in the order in which
`destroy` frees them. -/
def tablesUnder (table : PhysFrame → PageTable) (pdpt : PhysFrame) :
    List PhysFrame :=
  tablesBehind g (fun pd => tablesBehind g (fun _ => []) (table pd)) (table pdpt)

/-- The tables behind the entry `i` of the root are freed, and the entry is cleared. -/
def destroyEntry (root : PhysFrame) (m : Memory) (i : Fin 512) : Memory :=
  let e := m.table root i
  if isPresent e then
    let pdpt := pointsToFrame g e
    { m with pmm := freeFrames m.pmm (tablesUnder g m.table pdpt ++ [pdpt]) }.setEntry root i 0
  else m

/-- `AddressSpace::destroy`, with the root that `CR3` holds before and after. -/
def destroy (master cr3 root : PhysFrame) (m : Memory) :
    Except Halt (PhysFrame × Memory) :=
  if root = 0 then .ok (cr3, m)
  else if root = master then .error .panic
  else
    let m := ((List.finRange 512).take 256).foldl (destroyEntry g root) m
    .ok (if cr3 = root then master else cr3, { m with pmm := (freeFrame m.pmm root).2 })

end ProjectZero.Mm.Spaces
