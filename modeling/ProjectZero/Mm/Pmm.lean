import ProjectZero.Tables

/-! # The physical memory manager

Allocation takes the first free frame; freeing accepts only an allocated frame. -/

namespace ProjectZero.Mm.Pmm

open Tables

def pageSize : ℕ := 4096

inductive PmmError
  | frameMisaligned | frameOutOfRange | doubleFree | frameReserved | frameUnusable
  deriving DecidableEq

def allocFrame (pmm : Pmm) : Option PhysFrame × Pmm :=
  if pmm.initialized = false ∨ pmm.freeFrames = 0 then (none, pmm)
  else
    match (List.range pmm.trackedFrames).find? fun i => pmm.state i = .free with
    | none => (none, pmm)
    | some i => (some (i * pageSize), { pmm with
        state := update pmm.state i .allocated
        freeFrames := pmm.freeFrames - 1
        allocatedFrames := pmm.allocatedFrames + 1 })

def freeFrame (pmm : Pmm) (frame : PhysFrame) : Except PmmError Unit × Pmm :=
  if frame % pageSize ≠ 0 then (.error .frameMisaligned, pmm)
  else if frame / pageSize ≥ pmm.trackedFrames then (.error .frameOutOfRange, pmm)
  else
    match pmm.state (frame / pageSize) with
    | .allocated => (.ok (), { pmm with
        state := update pmm.state (frame / pageSize) .free
        allocatedFrames := pmm.allocatedFrames - 1
        freeFrames := pmm.freeFrames + 1 })
    | .free => (.error .doubleFree, pmm)
    | .reserved => (.error .frameReserved, pmm)
    | .unusable => (.error .frameUnusable, pmm)

/-- Frees the frames of a list in order; refusals are ignored. -/
def freeFrames (pmm : Pmm) (frames : List PhysFrame) : Pmm :=
  frames.foldl (fun pmm f => (freeFrame pmm f).2) pmm

/-! ### The state of a frame -/

/-- The frame is tracked, and in the state `st`. -/
def Is (pmm : Pmm) (f : PhysFrame) (st : FrameState) : Prop :=
  f % pageSize = 0 ∧ f / pageSize < pmm.trackedFrames ∧ pmm.state (f / pageSize) = st

abbrev Free (pmm : Pmm) (f : PhysFrame) : Prop := Is pmm f .free

abbrev Taken (pmm : Pmm) (f : PhysFrame) : Prop := Is pmm f .allocated

variable {pmm : Pmm} {f f' : PhysFrame} {st st' : FrameState}

lemma index_ne {a b : ℕ} (ha : a % pageSize = 0) (hb : b % pageSize = 0) (h : a ≠ b) :
    a / pageSize ≠ b / pageSize := by
  unfold pageSize at *
  omega

lemma Is.unique (h : Is pmm f st) (h' : Is pmm f st') : st = st' := h.2.2.symm.trans h'.2.2

lemma Taken.not_free (h : Taken pmm f) : ¬Free pmm f := fun hf => by cases h.unique hf

/-- The frame passes to the state `st`. -/
def mark (pmm : Pmm) (f : PhysFrame) (st : FrameState) (free allocated : ℕ) : Pmm :=
  { pmm with
    state := update pmm.state (f / pageSize) st
    freeFrames := free
    allocatedFrames := allocated }

lemma is_mark_self (h : Is pmm f st') {a b : ℕ} : Is (mark pmm f st a b) f st :=
  ⟨h.1, h.2.1, update_self ..⟩

lemma is_mark_of_ne (h : Is pmm f st') (hne : f' ≠ f) {a b : ℕ} {st₁ : FrameState} :
    Is (mark pmm f st a b) f' st₁ ↔ Is pmm f' st₁ := by
  unfold Is
  by_cases hal : f' % pageSize = 0
  · have hdiv : f' / pageSize ≠ f / pageSize := index_ne hal h.1 hne
    simp only [mark, update_of_ne hdiv]
  · simp [hal]

/-- **Allocation** takes a free frame, if it gives one. -/
lemma allocFrame_cases (pmm : Pmm) : allocFrame pmm = (none, pmm) ∨
    ∃ f, Free pmm f ∧ pmm.freeFrames ≠ 0 ∧ allocFrame pmm =
      (some f, mark pmm f .allocated (pmm.freeFrames - 1) (pmm.allocatedFrames + 1)) := by
  unfold allocFrame
  split
  · exact .inl rfl
  rename_i hn
  split
  · exact .inl rfl
  rename_i i hi
  have hlt : i < pmm.trackedFrames := List.mem_range.mp (List.mem_of_find?_eq_some hi)
  have hfree : pmm.state i = .free := by simpa using List.find?_some hi
  have hdiv : i * pageSize / pageSize = i := Nat.mul_div_cancel _ (by decide)
  refine .inr ⟨i * pageSize, ⟨Nat.mul_mod_left _ _, by rw [hdiv]; exact hlt,
    by rw [hdiv]; exact hfree⟩, fun h0 => hn (.inr h0), ?_⟩
  rw [mark, hdiv]

/-- **Freeing** a taken frame. -/
lemma freeFrame_taken (h : Taken pmm f) : freeFrame pmm f =
    (.ok (), mark pmm f .free (pmm.freeFrames + 1) (pmm.allocatedFrames - 1)) := by
  obtain ⟨hal, hlt, hst⟩ := h
  unfold freeFrame
  rw [if_neg (by simpa using hal), if_neg (Nat.not_le.mpr hlt), hst]
  rfl

lemma freeFrame_refused (h : ¬Taken pmm f) : (freeFrame pmm f).2 = pmm := by
  unfold freeFrame
  split
  · rfl
  split
  · rfl
  rename_i hal hlt
  split
  next hst =>
    exact absurd ⟨by simpa using hal, Nat.lt_of_not_le hlt, hst⟩ h
  all_goals rfl

lemma trackedFrames_freeFrame (pmm : Pmm) (f : PhysFrame) :
    (freeFrame pmm f).2.trackedFrames = pmm.trackedFrames := by
  by_cases h : Taken pmm f
  · rw [freeFrame_taken h]; rfl
  · rw [freeFrame_refused h]

lemma is_freeFrame_of_ne (hne : f' ≠ f) : Is (freeFrame pmm f).2 f' st ↔ Is pmm f' st := by
  by_cases h : Taken pmm f
  · rw [freeFrame_taken h]; exact is_mark_of_ne h hne
  · rw [freeFrame_refused h]

lemma trackedFrames_freeFrames (pmm : Pmm) (frames : List PhysFrame) :
    (freeFrames pmm frames).trackedFrames = pmm.trackedFrames := by
  induction frames generalizing pmm with
  | nil => rfl
  | cons f frames ih => exact (ih _).trans (trackedFrames_freeFrame pmm f)

lemma is_freeFrames_of_not_mem {frames : List PhysFrame} (h : f ∉ frames) :
    Is (freeFrames pmm frames) f st ↔ Is pmm f st := by
  induction frames generalizing pmm with
  | nil => rfl
  | cons x frames ih =>
    rw [List.mem_cons, not_or] at h
    exact (ih h.2).trans (is_freeFrame_of_ne h.1)

lemma mark_mark (h : Free pmm f) (hn : pmm.freeFrames ≠ 0) :
    mark (mark pmm f .allocated (pmm.freeFrames - 1) (pmm.allocatedFrames + 1)) f .free
      (pmm.freeFrames - 1 + 1) (pmm.allocatedFrames + 1 - 1) = pmm := by
  have hst : update pmm.state (f / pageSize) .free = pmm.state := by
    rw [← h.2.2, update_eq_self]
  unfold mark
  simp only [update_idem, hst, Nat.add_sub_cancel, Nat.sub_add_cancel
    (Nat.one_le_iff_ne_zero.mpr hn)]

end ProjectZero.Mm.Pmm
