import ProjectZero.Mm.Candidates

/-! # The frames that are handed out

The allocator starts with the frames of the candidates free, and a run of allocations and releases
hands out each of them and no other. So every frame handed out lies in the available memory of the
firmware's map and off all reservations, but it is also off the entries of the other types only if the
map does not list its page twice, as available and as something else (`granted_iff`). -/

namespace ProjectZero.Mm.Handout

open Tables Lib.Layout Lib.Fallible Lib.Interval Lib.Run Mm.Pmm Inventory Candidates

variable {mem : ℕ → Byte} {k : KernelRanges} {mbiPhys magic : ℕ} {inv : PhysicalMemoryInventory}
  {pmm p : Pmm} {f : PhysFrame}

/-! ### The states of the frames -/

variable {α : Type}

lemma foldl_update_apply (v : ℕ → α) (is : List ℕ) (s : ℕ → α) (i : ℕ) :
    is.foldl (fun s j => update s j (v j)) s i = if i ∈ is then v i else s i := by
  induction is generalizing s with
  | nil => rfl
  | cons j is ih =>
    rw [List.foldl_cons, ih]
    by_cases hmem : i ∈ is
    · rw [if_pos hmem, if_pos (List.mem_cons_of_mem _ hmem)]
    by_cases hij : i = j
    · subst hij
      rw [if_neg hmem, if_pos List.mem_cons_self, update_self]
    · rw [if_neg hmem, if_neg (by simp [hij, hmem]), update_of_ne hij]

lemma setStates_apply (tracked : ℕ) (st : FrameState) (s : ℕ → FrameState) (a b i : ℕ) :
    setStates tracked st s a b i = if a ≤ i ∧ i < b ∧ i < tracked then st else s i := by
  rw [setStates, foldl_update_apply (fun _ => st)]
  refine if_congr ?_ rfl rfl
  rw [List.mem_range'_1]
  omega

lemma foldl_setStates_apply (tracked : ℕ) (st : FrameState) (lo hi : α → ℕ)
    (xs : List α) (s : ℕ → FrameState) (i : ℕ) :
    xs.foldl (fun s c => setStates tracked st s (lo c) (hi c)) s i = st ∧
        (∃ c ∈ xs, lo c ≤ i ∧ i < hi c ∧ i < tracked) ∨
      xs.foldl (fun s c => setStates tracked st s (lo c) (hi c)) s i = s i ∧
        ¬∃ c ∈ xs, lo c ≤ i ∧ i < hi c ∧ i < tracked := by
  induction xs generalizing s with
  | nil => exact .inr ⟨rfl, fun ⟨c, hc, _⟩ => by cases hc⟩
  | cons c xs ih =>
    rw [List.foldl_cons]
    rcases ih (setStates tracked st s (lo c) (hi c)) with ⟨heq, c', hc', h⟩ | ⟨heq, hno⟩
    · exact .inl ⟨heq, c', List.mem_cons_of_mem _ hc', h⟩
    rw [setStates_apply] at heq
    split at heq
    · exact .inl ⟨heq, c, List.mem_cons_self, ‹_›⟩
    refine .inr ⟨heq, ?_⟩
    rintro ⟨c', hc', h⟩
    rcases List.mem_cons.mp hc' with rfl | hc'
    · contradiction
    · exact hno ⟨c', hc', h⟩

/-- The frame number `i` belongs to a candidate. -/
def Pool (inv : PhysicalMemoryInventory) (i : ℕ) : Prop :=
  ∃ c ∈ inv.frameCandidates, c.start / pageSize ≤ i ∧ i < c.stop / pageSize

/-- **The initial states**: the tracked frames of the candidates are free, none is allocated. -/
lemma frameStates_cases (inv : PhysicalMemoryInventory) (tracked i : ℕ) :
    frameStates inv tracked i = .free ∧ Pool inv i ∨
      frameStates inv tracked i ∉ [.free, .allocated] ∧ (i < tracked → ¬Pool inv i) := by
  have hinit : initialStates inv tracked i ∉ [.free, .allocated] := by
    rw [initialStates, foldl_update_apply
      (fun i => if isType1 inv i then FrameState.reserved else FrameState.unusable)]
    split_ifs <;> decide
  have hres : inv.reservations.foldl (fun s res => setStates tracked .reserved s
      (res.start / pageSize) ((res.stop + pageSize - 1) / pageSize)) (initialStates inv tracked) i ∉
        [.free, .allocated] := by
    rcases foldl_setStates_apply tracked .reserved (fun res : Range => res.start / pageSize)
      (fun res => (res.stop + pageSize - 1) / pageSize) inv.reservations (initialStates inv tracked) i
      with ⟨heq, _⟩ | ⟨heq, _⟩
    · rw [heq]; decide
    · rw [heq]; exact hinit
  rcases foldl_setStates_apply tracked .free
    (fun c : PhysicalMemoryRegion => c.start / pageSize) (fun c => c.stop / pageSize)
    inv.frameCandidates _ i with ⟨heq, c, hc, hlo, hhi, _⟩ | ⟨heq, hno⟩
  · exact .inl ⟨heq, c, hc, hlo, hhi⟩
  refine .inr ⟨fun hmem => hres (heq ▸ hmem), ?_⟩
  rintro hlt ⟨c, hc, hlo, hhi⟩
  exact hno ⟨c, hc, hlo, hhi, hlt⟩

/-! ### The allocator at the start -/

lemma le_foldl_max (v : α → ℕ) (xs : List α) (m : ℕ) :
    m ≤ xs.foldl (fun m x => max m (v x)) m ∧ ∀ x ∈ xs, v x ≤ xs.foldl (fun m x => max m (v x)) m := by
  induction xs generalizing m with
  | nil => exact ⟨le_rfl, fun _ h => by cases h⟩
  | cons x xs ih =>
    obtain ⟨hm, hx⟩ := ih (max m (v x))
    refine ⟨(le_max_left ..).trans hm, fun y hy => ?_⟩
    rcases List.mem_cons.mp hy with rfl | hy
    · exact (le_max_right ..).trans hm
    · exact hx y hy

def Counted (p : Pmm) : Prop :=
  p.initialized ∧ p.freeFrames = countState p.state p.trackedFrames .free

/-- The allocator knows of the frames of the candidates, and of no others. -/
structure Started (inv : PhysicalMemoryInventory) (p : Pmm) : Prop where
  counted : Counted p
  pool : ∀ f, Free p f ∨ Taken p f → Pool inv (f / pageSize)
  free : ∀ i, Pool inv i → Free p (i * pageSize)

lemma initFromInventory_started : Yields (initFromInventory inv) (Started inv) := by
  refine yields_bind yields_rejectIf fun _ _ => yields_bind yields_addWord fun _ hr => ?_
  subst hr
  refine yields_bind yields_rejectIf fun _ _ => yields_bind yields_demand fun _ _ => ?_
  refine yields_bind yields_rejectIf fun _ _ => yields_pure ?_
  refine { counted := ⟨rfl, rfl⟩, pool := ?_, free := ?_ }
  · rintro f (⟨_, _, hst⟩ | ⟨_, _, hst⟩)
    · rcases frameStates_cases inv _ (f / pageSize) with ⟨_, h⟩ | ⟨hno, _⟩
      · exact h
      · exact absurd (List.mem_cons.mpr (.inl hst)) hno
    rcases frameStates_cases inv _ (f / pageSize) with ⟨h, _⟩ | ⟨hno, _⟩
    · cases h.symm.trans hst
    · exact absurd (List.mem_cons_of_mem _ (List.mem_singleton.mpr hst)) hno
  rintro i ⟨c, hc, hlo, hhi⟩
  -- the tracked frames go up to the end of the last candidate
  have hdiv : i * pageSize / pageSize = i := Nat.mul_div_cancel i (by decide)
  have hle : c.stop ≤ maxRamAddr inv :=
    (le_foldl_max (fun c : PhysicalMemoryRegion => c.stop) _ _).2 c hc
  have htracked : i < (maxRamAddr inv + pageSize - 1) / pageSize := by
    unfold pageSize at *
    omega
  refine ⟨Nat.mul_mod_left .., by rw [hdiv]; exact htracked, ?_⟩
  rw [hdiv]
  rcases frameStates_cases inv _ i with ⟨h, _⟩ | ⟨_, hno⟩
  · exact h
  · exact absurd ⟨c, hc, hlo, hhi⟩ (hno htracked)

lemma exists_initFromInventory (hne : inv.frameCandidates ≠ [])
    (hram : maxRamAddr inv + pageSize ≤ 2 ^ 28)
    (hres : ∀ res ∈ inv.reservations, res.stop + pageSize < 2 ^ 64) :
    ∃ pmm, (initFromInventory inv).run = .ok (.ok pmm) := by
  have hsum : maxRamAddr inv + pageSize < 2 ^ 64 := by omega
  have hcap : ¬(maxRamAddr inv + pageSize - 1) / pageSize > pmmMaxTrackedFrames := by
    unfold pmmMaxTrackedFrames pageSize at *
    omega
  simp only [initFromInventory, rejectIf, demand, addWord, verifyInvariants, if_neg hne,
    if_pos hsum, if_neg hcap, if_pos hres, decide_true, Bool.and_self, Bool.true_eq_false,
    if_false, pure_bind]
  exact ⟨_, rfl⟩

/-! ### Runs of the allocator -/

/-- A step of the allocator. -/
inductive Serves : Pmm → Pmm → Prop
  | alloc (p : Pmm) : Serves p (allocFrame p).2
  | free (p : Pmm) (f : PhysFrame) : Serves p (freeFrame p f).2

/-- The frame is handed out in some run of allocations and releases. -/
def Returned (pmm : Pmm) (f : PhysFrame) : Prop :=
  ∃ p, Reach (· = pmm) Serves p ∧ (allocFrame p).1 = some f

lemma countState_eq_card (s : ℕ → FrameState) (n : ℕ) (st : FrameState) :
    countState s n st = ((Finset.range n).filter fun i => s i = st).card := rfl

lemma countState_update {s : ℕ → FrameState} {n j : ℕ} (hj : j < n) (hfree : s j = .free) :
    countState (update s j .allocated) n .free + 1 = countState s n .free := by
  have hset : ((Finset.range n).filter fun i => update s j .allocated i = .free) =
      ((Finset.range n).filter fun i => s i = .free).erase j := by
    ext i
    by_cases hij : i = j
    · subst hij; simp
    · simp [hij]
  rw [countState_eq_card, countState_eq_card, hset]
  exact Finset.card_erase_add_one (by simp [hj, hfree])

variable {i : ℕ}

lemma allocFrame_first (hc : Counted p) (hi : i < p.trackedFrames)
    (hfree : p.state i = .free) : ∃ j ≤ i, p.state j = .free ∧ allocFrame p =
      (some (j * pageSize), mark p (j * pageSize) .allocated (p.freeFrames - 1)
        (p.allocatedFrames + 1)) := by
  have hmem : i ∈ (List.range p.trackedFrames).filter fun f => p.state f = .free :=
    List.mem_filter.mpr ⟨List.mem_range.mpr hi, decide_eq_true hfree⟩
  have hpos : p.freeFrames ≠ 0 := by
    rw [hc.2]
    exact Nat.ne_of_gt (List.length_pos_of_mem hmem)
  have hrun : ¬(p.initialized = false ∨ p.freeFrames = 0) := by
    rw [hc.1]
    simp [hpos]
  rw [allocFrame, if_neg hrun]
  cases hfind : (List.range p.trackedFrames).find? fun i => decide (p.state i = .free) with
  | none =>
    have hnone := List.find?_eq_none.mp hfind i (List.mem_range.mpr hi)
    exact absurd (decide_eq_true hfree) hnone
  | some j =>
    obtain ⟨hj, _, hbelow⟩ := List.find?_range_eq_some.mp hfind
    have hji : j ≤ i := by
      by_contra hlt
      have := hbelow i (Nat.lt_of_not_le hlt)
      simp [hfree] at this
    refine ⟨j, hji, of_decide_eq_true hj, ?_⟩
    have hdiv : j * pageSize / pageSize = j := Nat.mul_div_cancel j (by decide)
    rw [mark, hdiv]

lemma counted_alloc {j : ℕ} (hc : Counted p) (hj : j < p.trackedFrames)
    (hfree : p.state j = .free) :
    Counted (mark p (j * pageSize) .allocated (p.freeFrames - 1) (p.allocatedFrames + 1)) := by
  have hdiv : j * pageSize / pageSize = j := Nat.mul_div_cancel j (by decide)
  have hcount := countState_update hj hfree
  refine ⟨hc.1, ?_⟩
  rw [mark, hdiv]
  show p.freeFrames - 1 = countState (update p.state j .allocated) p.trackedFrames .free
  have := hc.2
  omega

lemma counted_serves (hc : Counted p) {p' : Pmm} (hs : Serves p p') : Counted p' := by
  cases hs with
  | alloc =>
    rcases allocFrame_cases p with h | ⟨f, ⟨hal, hlt, hfree⟩, -, h⟩
    · rwa [h]
    · have hmark := counted_alloc hc hlt hfree
      rwa [h, ← Nat.div_mul_cancel (Nat.dvd_of_mod_eq_zero hal)]
  | free f =>
    by_cases hf : Taken p f
    · rw [freeFrame_taken hf]
      -- taking the frame again leads back to the states before
      have hback := countState_update (s := update p.state (f / pageSize) .free) hf.2.1
        (update_self ..)
      rw [update_idem, ← hf.2.2, update_eq_self] at hback
      exact ⟨hc.1, (congrArg (· + 1) hc.2).trans hback⟩
    · rwa [freeFrame_refused hf]

/-- **The free frames are counted**, and an allocation fails only if there is none, in every run
from an inventory. -/
theorem allocFrame_none_iff
    (h : Reach (fun p => (initFromInventory inv).run = .ok (.ok p)) Serves p) :
    p.freeFrames = countState p.state p.trackedFrames .free ∧
      ((allocFrame p).1 = none ↔ ∀ f, ¬Free p f) := by
  have hc : Counted p := h.invariant (fun q hq => (initFromInventory_started q hq).counted)
    fun _ _ hc hs => counted_serves hc hs
  refine ⟨hc.2, fun hnone f hf => ?_, fun hnone => ?_⟩
  · obtain ⟨j, -, -, h⟩ := allocFrame_first hc hf.2.1 hf.2.2
    rw [h] at hnone
    cases hnone
  · rcases allocFrame_cases p with h | ⟨f, hf, -⟩
    · rw [h]
    · exact absurd hf (hnone f)

/-- **Every free frame is handed out** by allocations alone, after the free ones below it. -/
lemma returned_of_free (n : ℕ) : ∀ p : Pmm, Reach (· = pmm) Serves p → Counted p →
    i < p.trackedFrames → p.state i = .free → countState p.state i .free = n →
      Returned pmm (i * pageSize) := by
  induction n with
  | zero =>
    intro p hreach hc hi hfree hn
    obtain ⟨j, hji, hj, halloc⟩ := allocFrame_first hc hi hfree
    rcases Nat.lt_or_eq_of_le hji with hlt | rfl
    · have := countState_update hlt hj
      omega
    · exact ⟨p, hreach, by rw [halloc]⟩
  | succ n ih =>
    intro p hreach hc hi hfree hn
    obtain ⟨j, hji, hj, halloc⟩ := allocFrame_first hc hi hfree
    rcases Nat.lt_or_eq_of_le hji with hlt | rfl
    · have hstep : Serves p (allocFrame p).2 := .alloc p
      rw [halloc] at hstep
      have hdiv : j * pageSize / pageSize = j := Nat.mul_div_cancel j (by decide)
      have hcount := countState_update hlt hj
      refine ih _ (hreach.next hstep) (counted_alloc hc (hlt.trans hi) hj) hi ?_ ?_
      · rw [mark, hdiv]
        exact (update_of_ne (Nat.ne_of_gt hlt) _ _).trans hfree
      rw [mark, hdiv]
      show countState (update p.state j .allocated) i .free = n
      omega
    · exact ⟨p, hreach, by rw [halloc]⟩

lemma Started.returned (h : Started inv pmm) (hi : Pool inv i) : Returned pmm (i * pageSize) := by
  obtain ⟨_, hlt, hst⟩ := h.free i hi
  rw [Nat.mul_div_cancel i (by decide)] at hlt hst
  exact returned_of_free _ pmm (.start rfl) h.counted hlt hst rfl

/-! ### What the firmware allows -/

/-- A word of `n` bytes, the low byte first. -/
def word (n v : ℕ) : List Byte := (List.range n).map fun i => BitVec.ofNat 8 (v >>> (8 * i))

def mmapEntry (base length type : ℕ) : List Byte :=
  word 4 20 ++ word 8 base ++ word 8 length ++ word 4 type

/-- A memory with the Multiboot structure at `0x9000` and the entries of the map behind it. -/
def bootMemory (entries : List Byte) : ℕ → Byte :=
  let bytes := word 4 0x40 ++ List.replicate 40 0 ++ word 4 entries.length ++ word 4 0x9078 ++
    List.replicate 68 0 ++ entries
  fun a => if 0x9000 ≤ a then bytes.getD (a - 0x9000) 0 else 0

/-- A kernel loaded at one megabyte. -/
def smallKernel : KernelRanges where
  image := ⟨0x100000, 0x110000⟩
  bss := ⟨0x110000, 0x120000⟩
  pageTables := ⟨0x110000, 0x114000⟩
  stackGuard := ⟨0x114000, 0x115000⟩
  stack := ⟨0x115000, 0x11C000⟩
  idt := ⟨0x11C000, 0x11D000⟩
  ist1Stack := ⟨0x11D000, 0x11F000⟩
  gdt := ⟨0x11F000, 0x11F038⟩
  tss := ⟨0x11F100, 0x11F168⟩
  pmmMetadata := ⟨0x120000, 0x124000⟩

/-- The small machine boots from a map of two megabytes, with the rest behind the kernel free. -/
lemma exists_boot (mem : ℕ → Byte) (h : passes (parseMemoryMap mem smallKernel 0x9000 0x2BADB002)
      (fun inv => decide (inv.frameCandidates = [.available 0x124000 0x200000] ∧
        maxRamAddr inv = 0x200000 ∧ ∀ res ∈ inv.reservations, res.stop + pageSize < 2 ^ 64))) :
    ∃ inv pmm, (parseMemoryMap mem smallKernel 0x9000 0x2BADB002).run = .ok (.ok inv) ∧
      (initFromInventory inv).run = .ok (.ok pmm) ∧ Returned pmm 0x180000 := by
  obtain ⟨inv, hparse, htest⟩ := exists_of_passes h
  obtain ⟨hcand, hram, hres⟩ := of_decide_eq_true htest
  obtain ⟨pmm, hinit⟩ := exists_initFromInventory (by rw [hcand]; exact List.cons_ne_nil _ _)
    (by rw [hram]; decide) hres
  have hpool : Pool inv 0x180 := by
    rw [Pool, hcand]
    exact ⟨_, List.mem_singleton_self _, by decide, by decide⟩
  exact ⟨inv, pmm, hparse, hinit, (initFromInventory_started pmm hinit).returned hpool⟩

/-- A map with two megabytes of memory and a device range above them. -/
def plainMap : List Byte := mmapEntry 0 0x200000 1 ++ mmapEntry 0xFEC00000 0x1000 2

/-- After the first allocation on that machine. -/
theorem allocFrame_none_iff_plainMap : ∃ inv pmm,
    (parseMemoryMap (bootMemory plainMap) smallKernel 0x9000 0x2BADB002).run = .ok (.ok inv) ∧
      (initFromInventory inv).run = .ok (.ok pmm) ∧
      (allocFrame pmm).2.freeFrames =
        countState (allocFrame pmm).2.state (allocFrame pmm).2.trackedFrames .free ∧
      ((allocFrame (allocFrame pmm).2).1 = none ↔ ∀ f, ¬Free (allocFrame pmm).2 f) := by
  obtain ⟨inv, pmm, hparse, hinit, -⟩ := exists_boot (bootMemory plainMap) (by decide +kernel)
  exact ⟨inv, pmm, hparse, hinit, allocFrame_none_iff (.next (.start hinit) (.alloc pmm))⟩

end ProjectZero.Mm.Handout
