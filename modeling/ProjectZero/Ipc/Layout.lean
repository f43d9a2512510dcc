import ProjectZero.Ipc.Still
import ProjectZero.Ipc.Ranges

/-! # Address spaces and shared memory

`Paged` is what the kernel keeps about the memory of its processes: the user halves are well formed,
no frame is a table of two of them, the frames of shared-memory objects are neither free nor tables,
and a leaf entry that points to one of them lies in a mapping of `SHM_MAPPING_TABLE`. It is stated
over the `Books` and the pools of the shared-memory objects, and shown for the changes of the memory:
frames are taken and given back, ranges mapped and unmapped. -/

namespace ProjectZero.Ipc.Layout

open Lib.Update Tables Mm.Pmm Mm.Vmm Mm.AddressSpace Mm.Changes Mm.Paging Ipc.Shm Ranges Ipc.Still

/-! ### The invariant -/

def Books.memory (b : Books) : Memory := { pmm := b.pmm, table := b.pageTable }

def Books.setMemory (b : Books) (m : Memory) : Books :=
  { b with pmm := m.pmm, pageTable := m.table }

def OwnOf (b : Books) (p : PSlot) (f : PhysFrame) : Prop :=
  Own b.geometry (Books.memory b) (b.root p) f

/-- The leaf entry of the process at the place `P` points to `f`. -/
structure Points (b : Books) (p : PSlot) (P : Place) (f : PhysFrame) : Prop where
  user : P.IsUser
  present : isPresent (entryAt b.geometry (Books.memory b) (b.root p) P)
  frame : pointsToFrame b.geometry (entryAt b.geometry (Books.memory b) (b.root p) P) = f

/-- The object is shared memory, with the entry `c` of `SHM_TABLE`. -/
def Shm (k : Kernel) (i : ObjIdx) (c : ℕ) : Prop := IsShm k i ∧ (k.object i).poolIndex = c

/-- **The address spaces are in order.** `S` tells the shared-memory objects with their pool
entries. -/
structure Laid (b : Books) (S : ObjIdx → ℕ → Prop) : Prop where
  tracked : b.pmm.trackedFrames ≤ 65536
  space : ∀ p, b.occupied p → Space b.geometry (Books.memory b) (b.root p)
  full : ∀ p, b.occupied p → Full b.geometry (Books.memory b) (b.root p)
  apart : ∀ p q f, b.occupied p → b.occupied q → OwnOf b p f → OwnOf b q f → p = q
  pid : ∀ p q, b.occupied p → b.occupied q → b.id p = b.id q → p = q
  target : ∀ p P f, b.occupied p → Points b p P f →
    ¬Free b.pmm f ∧ ∀ q, b.occupied q → ¬OwnOf b q f
  frames : ∀ i c f, S i c → f ∈ (b.shm c).pages →
    Taken b.pmm f ∧ ∀ q, b.occupied q → ¬OwnOf b q f
  apartShm : ∀ i c j d f, S i c → S j d → f ∈ (b.shm c).pages → f ∈ (b.shm d).pages → i = j
  range : ∀ j, (b.mapping j).occupied →
    InUser (b.mapping j).virtualBase (b.mapping j).pageCount
  freed : ∀ f tables, (f, tables) ∈ b.shmFreed → ∀ p, b.occupied p → ∀ v < userTop,
    Mm.Vmm.translate b.geometry tables (b.root p) v ≠ .ok f

/-- The place `P` lies in the mapping, which is one of the object `i` in the process `pid`. -/
structure Covers (mp : ShmMapping) (i : ObjIdx) (pid : ℕ) (P : Place) : Prop where
  occupied : mp.occupied
  object : mp.objectIndex = i
  process : mp.processId = pid
  pages : Pages mp.virtualBase mp.pageCount P

/-- A leaf entry that points to a frame of shared memory lies in a mapping of the process. -/
def Covered (b : Books) (S : ObjIdx → ℕ → Prop) : Prop :=
  ∀ p P f i c, b.occupied p → Points b p P f → S i c → f ∈ (b.shm c).pages →
    ∃ j, Covers (b.mapping j) i (b.id p) P

/-- The memory of the processes is in order. -/
structure Paged (k : Kernel) : Prop where
  laid : Laid (books k) (Shm k)
  covered : Covered (books k) (Shm k)

variable {b b' : Books} {S S' : ObjIdx → ℕ → Prop}

lemma Laid.mono (h : Laid b S) (hS : ∀ i c, S' i c → S i c) : Laid b S' :=
  { h with
    frames := fun i c f hi => h.frames i c f (hS i c hi)
    apartShm := fun i c j d f hi hj => h.apartShm i c j d f (hS i c hi) (hS j d hj) }

lemma Covered.mono (h : Covered b S) (hS : ∀ i c, S' i c → S i c) : Covered b S' :=
  fun p P f i c hp hP hi => h p P f i c hp hP (hS i c hi)

/-- **Steps that leave the memory alone.** -/
lemma Paged.of_quiet {k k' : Kernel} (h : Paged k) (hq : Quiet k k') : Paged k' := by
  have hS : ∀ i c, Shm k' i c → Shm k i c := fun i c hi =>
    ⟨(hq.object i hi.1).1, (hq.object i hi.1).2.symm.trans hi.2⟩
  refine ⟨?_, ?_⟩
  · rw [hq.same]; exact h.laid.mono hS
  · rw [hq.same]; exact h.covered.mono hS

/-! ### Frames change hands -/

/-- The frame allocator and frames outside of the address spaces change. -/
structure Outside (b : Books) (m : Memory) : Prop where
  agree : ∀ p, b.occupied p → Agree b.geometry (b.root p) (Books.memory b) m
  tracked : m.pmm.trackedFrames = b.pmm.trackedFrames

section Outside

variable {m : Memory} (ho : Outside b m) {p : PSlot}
include ho

lemma Outside.own (hp : b.occupied p) (f : PhysFrame) :
    OwnOf (Books.setMemory b m) p f ↔ OwnOf b p f := (ho.agree p hp).own f

lemma Outside.points (hp : b.occupied p) {P : Place} {f : PhysFrame} :
    Points (Books.setMemory b m) p P f ↔ Points b p P f := by
  constructor
  · rintro ⟨hu, h1, h2⟩
    have he := (ho.agree p hp).entryAt hu
    exact ⟨hu, by rw [← he]; exact h1, by rw [← he]; exact h2⟩
  rintro ⟨hu, h1, h2⟩
  have he := (ho.agree p hp).entryAt hu
  exact ⟨hu, by rw [← he] at h1; exact h1, by rw [← he] at h2; exact h2⟩

/-- The address spaces are as they were. The frames they point to and those of shared memory are the
ones to look at. -/
lemma Laid.outside (h : Laid b S) (htarget : ∀ p P f, b.occupied p → Points b p P f → ¬Free m.pmm f)
    (hframes : ∀ i c f, S i c → f ∈ (b.shm c).pages → Taken m.pmm f) :
    Laid (Books.setMemory b m) S where
  tracked := le_of_eq_of_le ho.tracked h.tracked
  space p hp := (ho.agree p hp).space (h.space p hp)
  full p hp := (ho.agree p hp).full (h.full p hp)
  apart p q f hp hq h1 h2 := h.apart p q f hp hq ((ho.own hp f).mp h1) ((ho.own hq f).mp h2)
  pid := h.pid
  target p P f hp hP :=
    ⟨htarget p P f hp ((ho.points hp).mp hP), fun q hq hown =>
      (h.target p P f hp ((ho.points hp).mp hP)).2 q hq ((ho.own hq f).mp hown)⟩
  frames i c f hi hf :=
    ⟨hframes i c f hi hf, fun q hq hown => (h.frames i c f hi hf).2 q hq ((ho.own hq f).mp hown)⟩
  apartShm := h.apartShm
  range := h.range
  freed := h.freed

lemma Covered.outside (h : Covered b S) : Covered (Books.setMemory b m) S :=
  fun p P f i c hp hP hi hf => h p P f i c hp ((ho.points hp).mp hP) hi hf

end Outside

/-! ### Frames that nothing refers to -/

/-- The frames are taken, but no table, and nothing points to them. -/
structure Spare (b : Books) (S : ObjIdx → ℕ → Prop) (frames : List PhysFrame) : Prop where
  taken : ∀ f ∈ frames, Taken b.pmm f
  unowned : ∀ f ∈ frames, ∀ p, b.occupied p → ¬OwnOf b p f
  untargeted : ∀ f ∈ frames, ∀ p P, b.occupied p → ¬Points b p P f
  unshared : ∀ f ∈ frames, ∀ i c, S i c → f ∉ (b.shm c).pages

lemma spare_nil : Spare b S [] := ⟨by simp, by simp, by simp, by simp⟩

variable {frames : List PhysFrame}

variable {shm : ℕ → ShmObject}

lemma Spare.reshare (h : Spare b S frames)
    (hS : ∀ j d, S' j d → S j d ∧ shm d = b.shm d) : Spare { b with shm := shm } S' frames :=
  ⟨h.taken, h.unowned, fun f hf p P hp hP => h.untargeted f hf p P hp ⟨hP.user, hP.present, hP.frame⟩,
    fun f hf j d hj hmem => h.unshared f hf j d (hS j d hj).1 ((hS j d hj).2 ▸ hmem)⟩

variable {f : PhysFrame} {m : Memory}

variable {x y c : ℕ}

lemma draw_outside (h : Laid b S) (hf : Free b.pmm f) (hm : m.pmm = mark b.pmm f .allocated x y)
    (ht : ∀ f', f' ≠ f → m.table f' = b.pageTable f') : Outside b m where
  agree p hp := by
    have hne : ∀ f', OwnOf b p f' → f' ≠ f := fun f' hown he =>
      (h.space p hp).own_not_free hown (he ▸ hf)
    refine ⟨fun f' hown => ht f' (hne f' hown), fun hr => ?_, fun f' hown htk => ?_⟩
    · rw [hm]
      exact fun hc => hr ((is_mark_of_ne hf (hne _ (own_root _ _ _))).mp hc)
    rw [hm]
    exact (is_mark_of_ne hf (hne f' hown)).mpr htk
  tracked := by rw [hm]; rfl

/-- **A frame is allocated**, and perhaps cleared. -/
lemma Laid.draw (h : Laid b S) (hsp : Spare b S frames)
    (hf : Free b.pmm f) (hm : m.pmm = mark b.pmm f .allocated x y)
    (ht : ∀ f', f' ≠ f → m.table f' = b.pageTable f') :
    Laid (Books.setMemory b m) S ∧ Spare (Books.setMemory b m) S (frames ++ [f]) := by
  have ho := draw_outside h hf hm ht
  have hnot : ∀ f', Taken b.pmm f' → f' ≠ f := fun f' htk he => htk.not_free (he ▸ hf)
  have htaken : ∀ f', Taken b.pmm f' → Taken m.pmm f' := fun f' htk => by
    rw [hm]
    exact (is_mark_of_ne hf (hnot f' htk)).mpr htk
  refine ⟨h.outside ho (fun p P f' hp hP => ?_) fun i c f' hi hf' => ?_, ?_⟩
  · have hfree := (h.target p P f' hp hP).1
    have hne : f' ≠ f := fun he => hfree (he ▸ hf)
    rw [hm]
    exact fun hc => hfree ((is_mark_of_ne hf hne).mp hc)
  · exact htaken f' (h.frames i c f' hi hf').1
  refine ⟨fun f' hf' => ?_, fun f' hf' p hp hown => ?_, fun f' hf' p P hp hP => ?_,
    fun f' hf' i c hi hmem => ?_⟩
  all_goals rcases List.mem_append.mp hf' with hold | hnew
  · exact htaken f' (hsp.taken f' hold)
  · rw [List.mem_singleton.mp hnew]
    change Taken m.pmm f
    rw [hm]
    exact is_mark_self hf
  · exact hsp.unowned f' hold p hp ((ho.own hp f').mp hown)
  · rw [List.mem_singleton.mp hnew] at hown
    exact (h.space p hp).own_not_free ((ho.own hp f).mp hown) hf
  · exact hsp.untargeted f' hold p P hp ((ho.points hp).mp hP)
  · rw [List.mem_singleton.mp hnew] at hP
    exact (h.target p P f hp ((ho.points hp).mp hP)).1 hf
  · exact hsp.unshared f' hold i c hi hmem
  rw [List.mem_singleton.mp hnew] at hmem
  exact (h.frames i c f hi hmem).1.not_free hf

lemma Laid.discard (h : Laid b S) (hsp : Spare b S frames) :
    Outside b { pmm := freeFrames b.pmm frames, table := b.pageTable } ∧
      Laid (Books.setMemory b { pmm := freeFrames b.pmm frames, table := b.pageTable }) S := by
  have ho : Outside b { pmm := freeFrames b.pmm frames, table := b.pageTable } := by
    refine ⟨fun p hp => ?_, trackedFrames_freeFrames _ _⟩
    have hne : ∀ f, OwnOf b p f → f ∉ frames := fun f hown hf => hsp.unowned f hf p hp hown
    exact ⟨fun _ _ => rfl,
      fun hr hc => hr ((is_freeFrames_of_not_mem (hne _ (own_root _ _ _))).mp hc),
      fun f hown ht => (is_freeFrames_of_not_mem (hne f hown)).mpr ht⟩
  refine ⟨ho, h.outside ho (fun p P f hp hP hc => ?_) fun i c f hi hf => ?_⟩
  · have hne : f ∉ frames := fun hf => hsp.untargeted f hf p P hp hP
    exact (h.target p P f hp hP).1 ((is_freeFrames_of_not_mem hne).mp hc)
  have hne : f ∉ frames := fun hc => hsp.unshared f hc i c hi hf
  exact (is_freeFrames_of_not_mem hne).mpr (h.frames i c f hi hf).1

/-! ### Allocation of the frames of an object -/

/-- The end of the allocation: the frames are spare ones. -/
def AllocEnd (b : Books) (S : ObjIdx → ℕ → Prop) (n : ℕ) (r : Option (List PhysFrame) × Memory) :
    Prop :=
  Laid (Books.setMemory b r.2) S ∧ Covered (Books.setMemory b r.2) S ∧
    ∀ frames, r.1 = some frames → Spare (Books.setMemory b r.2) S frames ∧ frames.length = n

lemma clearFrame_table (m : Memory) {f' : PhysFrame} (h : f' ≠ f) :
    (clearFrame m f).table f' = m.table f' := by
  unfold clearFrame
  split
  · exact update_of_ne h _ _
  · rfl

lemma clearFrame_pmm (m : Memory) (f : PhysFrame) : (clearFrame m f).pmm = m.pmm := by
  unfold clearFrame
  split <;> rfl

/-- **`n` frames are allocated**, or as before. -/
lemma allocateFrames_spec : ∀ (n : ℕ) (frames : List PhysFrame) (m : Memory),
    Laid (Books.setMemory b m) S → Covered (Books.setMemory b m) S →
      Spare (Books.setMemory b m) S frames →
      AllocEnd b S (frames.length + n) (allocateFrames m n frames)
  | 0, frames, m, hl, hc, hsp => by
    refine ⟨hl, hc, fun fr he => ?_⟩
    cases he
    exact ⟨hsp, rfl⟩
  | n + 1, frames, m, hl, hc, hsp => by
    unfold allocateFrames
    rcases allocFrame_cases m.pmm with he | ⟨f, hfree, -, he⟩
    · rw [he]
      obtain ⟨ho, hl'⟩ := hl.discard hsp
      have hc' := hc.outside ho
      exact ⟨hl', hc', fun fr he' => by cases he'⟩
    rw [he]
    obtain ⟨pmm, hpmm⟩ : ∃ pmm, pmm = mark m.pmm f .allocated (m.pmm.freeFrames - 1)
      (m.pmm.allocatedFrames + 1) := ⟨_, rfl⟩
    obtain ⟨m', hm'⟩ : ∃ m', m' = clearFrame { m with pmm := pmm } f := ⟨_, rfl⟩
    have hp' : m'.pmm = mark m.pmm f .allocated (m.pmm.freeFrames - 1)
        (m.pmm.allocatedFrames + 1) := by
      rw [hm', clearFrame_pmm, ← hpmm]
    have ht' : ∀ f', f' ≠ f → m'.table f' = m.table f' := fun f' hne => by
      rw [hm', clearFrame_table _ hne]
    have hnext := hl.draw hsp hfree hp' ht'
    have hcov := hc.outside (draw_outside hl hfree hp' ht')
    have hend := allocateFrames_spec n (frames ++ [f]) m' hnext.1 hcov hnext.2
    rw [List.length_append, List.length_singleton, Nat.add_assoc, Nat.add_comm 1 n] at hend
    rw [← hpmm]
    simp only
    rw [← hm']
    exact hend

/-! ### Objects come and go -/

lemma Laid.reshare (h : Laid b S) (hold : ∀ j d, S j d → shm d = b.shm d) :
    Laid { b with shm := shm } S where
  tracked := h.tracked
  space := h.space
  full := h.full
  apart := h.apart
  pid := h.pid
  target p P f hp hP := h.target p P f hp ⟨hP.user, hP.present, hP.frame⟩
  frames j d f hj hf := h.frames j d f hj (hold j d hj ▸ hf)
  apartShm j d j' d' f hj hj' hf hf' :=
    h.apartShm j d j' d' f hj hj' (hold j d hj ▸ hf) (hold j' d' hj' ▸ hf')
  range := h.range
  freed := h.freed

lemma Covered.reshare (h : Covered b S)
    (hold : ∀ j d, S j d → shm d = b.shm d) : Covered { b with shm := shm } S :=
  fun p P f j d hp hP hj hf =>
    h p P f j d hp ⟨hP.user, hP.present, hP.frame⟩ hj (hold j d hj ▸ hf)

variable {i : ObjIdx}

lemma Laid.share (h : Laid b S) (hcov : Covered b S)
    (hsp : Spare b S frames) (hc : ∀ j, ¬S j c) {shm : ShmObject}
    (hshm : ∀ f ∈ shm.pages, f ∈ frames) (hS : ∀ j d, S' j d → S j d ∨ (j = i ∧ d = c)) :
    Laid { b with shm := update b.shm c shm } S' ∧
      Covered { b with shm := update b.shm c shm } S' := by
  have hold : ∀ j d, S j d → update b.shm c shm d = b.shm d := fun j d hj =>
    update_of_ne (fun he : d = c => hc j (he ▸ hj)) _ _
  have hnew : update b.shm c shm c = shm := update_self ..
  have hl := h.reshare hold
  have hfr : ∀ j d f, S' j d → f ∈ (update b.shm c shm d).pages →
      (S j d ∧ f ∈ (b.shm d).pages) ∨ (j = i ∧ f ∈ frames) := by
    intro j d f hj hf
    rcases hS j d hj with hj | ⟨hji, rfl⟩
    · exact .inl ⟨hj, hold j d hj ▸ hf⟩
    · exact .inr ⟨hji, hshm f (hnew ▸ hf)⟩
  refine ⟨⟨hl.tracked, hl.space, hl.full, hl.apart, hl.pid, hl.target, fun j d f hj hf => ?_,
    fun j d j' d' f hj hj' hf hf' => ?_, hl.range, hl.freed⟩, fun p P f j d hp hP hj hf => ?_⟩
  · rcases hfr j d f hj hf with ⟨h1, h2⟩ | ⟨-, h2⟩
    · exact h.frames j d f h1 h2
    · exact ⟨hsp.taken f h2, hsp.unowned f h2⟩
  · rcases hfr j d f hj hf with ⟨h1, h2⟩ | ⟨h1, h2⟩ <;>
      rcases hfr j' d' f hj' hf' with ⟨h3, h4⟩ | ⟨h3, h4⟩
    · exact h.apartShm j d j' d' f h1 h3 h2 h4
    · exact absurd h2 (hsp.unshared f h4 j d h1)
    · exact absurd h4 (hsp.unshared f h2 j' d' h3)
    · rw [h1, h3]
  rcases hfr j d f hj hf with ⟨h1, h2⟩ | ⟨-, h2⟩
  · exact hcov p P f j d hp ⟨hP.user, hP.present, hP.frame⟩ h1 h2
  · exact absurd ⟨hP.user, hP.present, hP.frame⟩ (hsp.untargeted f h2 p P hp)

lemma Laid.spare (h : Laid b S) (hcov : Covered b S) (hi : S i c)
    (hno : ∀ j, (b.mapping j).occupied → (b.mapping j).objectIndex ≠ i)
    (hS : ∀ j d, S' j d → S j d ∧ j ≠ i) : Spare b S' (b.shm c).pages := by
  refine ⟨fun f hf => (h.frames i c f hi hf).1, fun f hf => (h.frames i c f hi hf).2,
    fun f hf p P hp hP => ?_, fun f hf j d hj hmem => ?_⟩
  · obtain ⟨j, hj⟩ := hcov p P f i c hp hP hi hf
    exact hno j hj.occupied hj.object
  · exact (hS j d hj).2 (h.apartShm j d i c f (hS j d hj).1 hi hmem hf)

lemma Laid.log (h : Laid b S) (hcov : Covered b S) (hsp : Spare b S frames) :
    Laid { b with shmFreed := frames.map (·, b.pageTable) ++ b.shmFreed } S ∧
      Covered { b with shmFreed := frames.map (·, b.pageTable) ++ b.shmFreed } S ∧
      Spare { b with shmFreed := frames.map (·, b.pageTable) ++ b.shmFreed } S frames := by
  refine ⟨⟨h.tracked, h.space, h.full, h.apart, h.pid,
    fun p P f hp hP => h.target p P f hp ⟨hP.user, hP.present, hP.frame⟩, h.frames, h.apartShm,
    h.range, fun f tables hmem p hp v hv hok => ?_⟩,
    fun p P f i c hp hP => hcov p P f i c hp ⟨hP.user, hP.present, hP.frame⟩,
    ⟨hsp.taken, hsp.unowned,
      fun f hf p P hp hP => hsp.untargeted f hf p P hp ⟨hP.user, hP.present, hP.frame⟩,
      hsp.unshared⟩⟩
  rcases List.mem_append.mp hmem with hnew | hold
  · obtain ⟨f', hf', he⟩ := List.mem_map.mp hnew
    cases he
    have hpoint := (translate_eq_ok (h.space p hp) hv).mp hok
    exact hsp.untargeted f hf' p (place v) hp ⟨place_isUser hv, hpoint.1, hpoint.2⟩
  · exact h.freed f tables hold p hp v hv hok

/-! ### The user half of one process changes -/

lemma within_agree {g : AddressSpaceGeometry} {root root' : PhysFrame} {m' : Memory}
    (hw : Within g root m m') (hs : Space g m root')
    (hap : ∀ f, Own g m root' f → ¬Own g m root f) : Agree g root' m m' where
  table f ho := hw.table f (hap f ho) (hs.own_not_free ho)
  used hr := (hw.outside (hap root' (own_root g m root')) hr).2
  taken f ho ht := (hw.taken f (hap f ho) (hs.own_not_free ho)).mpr ht

section Inside

variable {m : Memory} {p q : PSlot}

section

variable (h : Laid b S) (hp : b.occupied p = true)
  (hw : Within b.geometry (b.root p) (Books.memory b) m)

include h hp hw

lemma Laid.agree (hq : b.occupied q)
    (hne : q ≠ p) : Agree b.geometry (b.root q) (Books.memory b) m :=
  within_agree hw (h.space q hq) fun f h1 h2 => hne (h.apart q p f hq hp h1 h2)

lemma Laid.own_within (hq : b.occupied q) {f : PhysFrame} (ho : OwnOf (Books.setMemory b m) q f) :
    OwnOf b q f ∨ (q = p ∧ Free b.pmm f) := by
  by_cases hqp : q = p
  · subst hqp
    rcases hw.same f (.inl ho) with h1 | h1
    · exact .inl h1
    · exact .inr ⟨rfl, h1⟩
  · exact .inl (((h.agree hp hw hq hqp).own f).mp ho)

lemma Laid.untouched {f : PhysFrame}
    (hfree : ¬Free b.pmm f) (hown : ∀ q, b.occupied q → ¬OwnOf b q f) :
    ¬Free m.pmm f ∧ ∀ q, b.occupied q → ¬OwnOf (Books.setMemory b m) q f := by
  refine ⟨(hw.outside (hown p hp) hfree).2, fun q hq ho => ?_⟩
  rcases h.own_within hp hw hq ho with h1 | ⟨-, h1⟩
  · exact hown q hq h1
  · exact hfree h1

lemma Laid.points_other (hq : b.occupied q)
    (hne : q ≠ p) {P : Place} {f : PhysFrame} (hP : Points (Books.setMemory b m) q P f) :
    Points b q P f := by
  have he := (h.agree hp hw hq hne).entryAt hP.user
  exact ⟨hP.user, by rw [← he]; exact hP.present, by rw [← he]; exact hP.frame⟩

/-- **A change of the user half of one process**, whose leaf entries point where they pointed, or to
frames of shared memory. -/
lemma Laid.inside (hs : Space b.geometry m (b.root p)) (hf : Full b.geometry m (b.root p))
    (hnew : ∀ P f, Points (Books.setMemory b m) p P f →
      Points b p P f ∨ ∃ i c, S i c ∧ f ∈ (b.shm c).pages) :
    Laid (Books.setMemory b m) S where
  tracked := le_of_eq_of_le hw.tracked h.tracked
  space q hq := by
    by_cases hqp : q = p
    · subst hqp; exact hs
    · exact (h.agree hp hw hq hqp).space (h.space q hq)
  full q hq := by
    by_cases hqp : q = p
    · subst hqp; exact hf
    · exact (h.agree hp hw hq hqp).full (h.full q hq)
  apart q q' f hq hq' h1 h2 := by
    rcases h.own_within hp hw hq h1 with h1 | ⟨rfl, h1⟩ <;>
      rcases h.own_within hp hw hq' h2 with h2 | ⟨rfl, h2⟩
    · exact h.apart q q' f hq hq' h1 h2
    · exact absurd h2 ((h.space q hq).own_not_free h1)
    · exact absurd h1 ((h.space q' hq').own_not_free h2)
    · rfl
  pid := h.pid
  target q P f hq hP := by
    have hout : ¬Free b.pmm f ∧ ∀ q, b.occupied q → ¬OwnOf b q f := by
      by_cases hqp : q = p
      · subst hqp
        rcases hnew P f hP with hold | ⟨i, c, hi, hmem⟩
        · exact h.target q P f hq hold
        · exact ⟨(h.frames i c f hi hmem).1.not_free, (h.frames i c f hi hmem).2⟩
      · exact h.target q P f hq (h.points_other hp hw hq hqp hP)
    exact h.untouched hp hw hout.1 hout.2
  frames i c f hi hmem := by
    obtain ⟨ht, hown⟩ := h.frames i c f hi hmem
    exact ⟨(hw.taken f (hown p hp) ht.not_free).mpr ht, (h.untouched hp hw ht.not_free hown).2⟩
  apartShm := h.apartShm
  range := h.range
  freed := h.freed

end

lemma Covered.inside (hcov : Covered b S) (h : Laid b S) (hp : b.occupied p)
    (hw : Within b.geometry (b.root p) (Books.memory b) m)
    (hold : ∀ P f, Points (Books.setMemory b m) p P f → Points b p P f) :
    Covered (Books.setMemory b m) S := fun q P f i c hq hP hi hmem => by
  refine hcov q P f i c hq ?_ hi hmem
  by_cases hqp : q = p
  · subst hqp
    exact hold P f hP
  · exact h.points_other hp hw hq hqp hP

lemma Laid.setMapping (h : Laid b S) {j : Fin 64} {w : ShmMapping}
    (hw : w.occupied → InUser w.virtualBase w.pageCount) :
    Laid { b with mapping := update b.mapping j w } S :=
  ⟨h.tracked, h.space, h.full, h.apart, h.pid,
    fun q P f hq hP => h.target q P f hq ⟨hP.user, hP.present, hP.frame⟩, h.frames, h.apartShm,
    update_all (P := fun _ (x : ShmMapping) => x.occupied → InUser x.virtualBase x.pageCount) hw
      fun j' _ => h.range j', h.freed⟩

lemma Laid.map_range (h : Laid b S) (hcov : Covered b S) (hp : b.occupied p) {i : ObjIdx}
    {c : ℕ} (hi : S i c) {vaddr : ℕ} (hr : InUser vaddr (b.shm c).pageCount)
    (he : Entered b.geometry (b.root p) (Pages vaddr (b.shm c).pages.length) (b.shm c).pages
      (Books.memory b) m) {j : Fin 64} (hj : (b.mapping j).occupied = false) {w : ShmMapping}
    (hocc : w.occupied) (hobj : w.objectIndex = i) (hpid : w.processId = b.id p)
    (hbase : w.virtualBase = vaddr) (hcount : w.pageCount = (b.shm c).pageCount) :
    Laid { Books.setMemory b m with mapping := update b.mapping j w } S ∧
      Covered { Books.setMemory b m with mapping := update b.mapping j w } S := by
  have hlen : (b.shm c).pages.length ≤ (b.shm c).pageCount := by
    unfold ShmObject.pages
    rw [List.length_map, List.length_take]
    exact Nat.min_le_left _ _
  -- a leaf entry after the call is an old one, or one of the new pages
  have hcases : ∀ P f, Points (Books.setMemory b m) p P f → Points b p P f ∨
      (Pages vaddr (b.shm c).pageCount P ∧ f ∈ (b.shm c).pages) := by
    intro P f hP
    by_cases hS : Pages vaddr (b.shm c).pages.length P
    · refine .inr ⟨?_, ?_⟩
      · obtain ⟨n, hn, hP'⟩ := hS
        exact ⟨n, lt_of_lt_of_le hn hlen, hP'⟩
      rw [← hP.frame]
      exact he.points P hP.user hS
    have hkept := he.kept P hP.user hS
    exact .inl ⟨hP.user, by rw [← hkept]; exact hP.present, by rw [← hkept]; exact hP.frame⟩
  have hl := h.inside hp he.within he.space he.full fun P f hP =>
    (hcases P f hP).imp id fun hn => ⟨i, c, hi, hn.2⟩
  have hother : ∀ j', (b.mapping j').occupied →
      update b.mapping j w j' = b.mapping j' := fun j' hj' => by
    refine update_of_ne (fun hc => ?_) _ _
    rw [hc, hj] at hj'
    cases hj'
  refine ⟨hl.setMapping fun _ => ?_, fun q P f i' c' hq hP' hi' hmem => ?_⟩
  · rw [hbase, hcount]
    exact hr
  have hP : Points (Books.setMemory b m) q P f := ⟨hP'.user, hP'.present, hP'.frame⟩
  have hold : Points b q P f → ∃ j', Covers (update b.mapping j w j') i' (b.id q) P :=
    fun hP0 => by
      obtain ⟨j', hj'⟩ := hcov q P f i' c' hq hP0 hi' hmem
      exact ⟨j', by rw [hother j' hj'.occupied]; exact hj'⟩
  by_cases hqp : q = p
  · subst hqp
    rcases hcases P f hP with hP0 | ⟨hpage, hmem'⟩
    · exact hold hP0
    refine ⟨j, ?_⟩
    change Covers (update b.mapping j w j) i' (b.id q) P
    rw [update_self]
    refine ⟨hocc, ?_, hpid, by rw [hbase, hcount]; exact hpage⟩
    rw [hobj]
    exact h.apartShm i c i' c' f hi hi' hmem' hmem
  · exact hold (h.points_other hp he.within hq hqp hP)

lemma Laid.unmap_range (h : Laid b S) (hcov : Covered b S) (hp : b.occupied p)
    {j : Fin 64} (hpid : (b.mapping j).processId = b.id p)
    (hc : Cleared b.geometry (b.root p)
      (Pages (b.mapping j).virtualBase (b.mapping j).pageCount) (Books.memory b) m)
    {w : ShmMapping} (hocc : w.occupied = false) :
    Laid { Books.setMemory b m with mapping := update b.mapping j w } S ∧
      Covered { Books.setMemory b m with mapping := update b.mapping j w } S := by
  have hcases : ∀ P f, Points (Books.setMemory b m) p P f → Points b p P f ∧
      ¬Pages (b.mapping j).virtualBase (b.mapping j).pageCount P := by
    intro P f hP
    have hout : ¬Pages (b.mapping j).virtualBase (b.mapping j).pageCount P := fun hin => by
      have hpr := hP.present
      change isPresent (entryAt b.geometry m (b.root p) P) = true at hpr
      rw [hc.gone P hP.user hin, isPresent_zero] at hpr
      cases hpr
    have hkept := hc.kept P hP.user hout
    exact ⟨⟨hP.user, by rw [← hkept]; exact hP.present, by rw [← hkept]; exact hP.frame⟩, hout⟩
  have hl := h.inside hp hc.within hc.space hc.full fun P f hP => .inl (hcases P f hP).1
  refine ⟨hl.setMapping fun hw => ?_, fun q P f i' c' hq hP' hi' hmem => ?_⟩
  · rw [hocc] at hw
    cases hw
  have hP : Points (Books.setMemory b m) q P f := ⟨hP'.user, hP'.present, hP'.frame⟩
  have hboth : Points b q P f ∧
      (q = p → ¬Pages (b.mapping j).virtualBase (b.mapping j).pageCount P) := by
    by_cases hqp : q = p
    · subst hqp
      exact ⟨(hcases P f hP).1, fun _ => (hcases P f hP).2⟩
    · exact ⟨h.points_other hp hc.within hq hqp hP, fun hc' => absurd hc' hqp⟩
  obtain ⟨j', hj'⟩ := hcov q P f i' c' hq hboth.1 hi' hmem
  -- the mapping taken out covers no leaf entry that is left
  have hne : j' ≠ j := by
    rintro rfl
    exact hboth.2 (h.pid q p hq hp (hj'.process.symm.trans hpid)) hj'.pages
  refine ⟨j', ?_⟩
  change Covers (update b.mapping j w j') i' (b.id q) P
  rw [update_of_ne hne]
  exact hj'

end Inside

end ProjectZero.Ipc.Layout
