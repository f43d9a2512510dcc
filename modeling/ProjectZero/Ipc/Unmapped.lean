import ProjectZero.Ipc.Layout
import ProjectZero.Task.Accounting

/-! # Frames of shared memory are freed unmapped

Every operation keeps the memory of the processes in order, as long as `shm_map` is asked for ranges
that end in the user half. Then a shared-memory object loses its frames only when no page of any
process is mapped to them, and a call of `shm_map` that fails leaves the page tables as it found them. -/

namespace ProjectZero.Ipc.Unmapped

open Lib.Run Tables Mm.Pmm Mm.Vmm Mm.AddressSpace Mm.Paging Cap.Ops Cap.RevokeLoop Object Queues
open Accounts Keeping Ipc.Channel Ipc.Handle Ipc.Shm Steps Ranges Footprint Ipc.Still Layout
open Task.Process Task.Lifecycle Task.Exit Task.Accounting

variable {L : ObjIdx → Prop} {k : Kernel} {i : ObjIdx}

/-! ### Reclamation -/

lemma shm_freed (k' : Kernel) (ho : k'.object = update k.object i (freed (k.object i)))
    (j : ObjIdx) (d : ℕ) (hj : Shm k' j d) : Shm k j d ∧ j ≠ i := by
  have hji : j ≠ i := by
    rintro rfl
    have hocc := hj.1.1
    rw [ho, update_self] at hocc
    simp [freed] at hocc
  unfold Shm IsShm at hj ⊢
  rw [ho, update_of_ne hji] at hj
  exact ⟨hj, hji⟩

lemma reclaimShm_paged (hl : Ledger k) (h : Paged k) :
    Ensures Paged (checkAndReclaimShmLocked k i) := by
  rcases reclaimShm_cases k i with ⟨hocc, htype, hz, he⟩ | ⟨-, he⟩
  · rw [he]
    obtain ⟨k', hk'⟩ : ∃ k' : Kernel, k' = { k with
      pmm := freeFrames k.pmm (k.shm (k.object i).poolIndex).pages
      shm := update k.shm (k.object i).poolIndex .empty
      shmFreed := (k.shm (k.object i).poolIndex).pages.map (·, k.pageTable) ++ k.shmFreed
      object := update k.object i (freed (k.object i)) } := ⟨_, rfl⟩
    have hi : Shm k i (k.object i).poolIndex := ⟨⟨hocc, htype⟩, rfl⟩
    have hS := shm_freed k' (k := k) (i := i) (by rw [hk'])
    -- no reference is left, so none of a mapping
    have hsp := h.laid.spare h.covered hi (hl.tallied.unnamed hz).2.1 hS
    obtain ⟨hl1, hc1, hsp1⟩ := (h.laid.mono fun j d hj => (hS j d hj).1).log
      (h.covered.mono fun j d hj => (hS j d hj).1) hsp
    obtain ⟨ho, hl2⟩ := hl1.discard hsp1
    have hc2 := hc1.outside ho
    have hpool : ∀ j d, Shm k' j d →
        update k.shm (k.object i).poolIndex .empty d = k.shm d := fun j d hj => by
      refine update_of_ne (fun hd : d = (k.object i).poolIndex => (hS j d hj).2 ?_) _ _
      obtain ⟨⟨⟨hocc', htype'⟩, hp⟩, -⟩ := hS j d hj
      exact hl.kinds.pool j i hocc' hocc (htype'.trans htype.symm) (hp.trans hd)
    have hend : Paged k' := by
      rw [hk'] at hl2 hc2 hpool ⊢
      exact ⟨hl2.reshare hpool, hc2.reshare hpool⟩
    rw [hk'] at hend
    exact hend
  rw [he]
  exact h

lemma releaseRevoked_paged (hl : Ledger k) (hb : Busy L k) (h : Paged k) {c : Slot}
    (hc : Live k.entry c) :
    Ensures Paged (releaseRevoked (cutAt k c) (k.entry c).objectIndex (k.entry c).endpoint) := by
  obtain ⟨i, hi⟩ : ∃ i, i = (k.entry c).objectIndex := ⟨_, rfl⟩
  obtain ⟨k1, hk1⟩ : ∃ k1, k1 = dropHandleRef (cutAt k c) i := ⟨_, rfl⟩
  have hd := dropHandle_drops hl hb hc (update k.node c (cut (k.node c))) k1 (by rw [hk1, hi]; rfl)
  have hq : Quiet k k1 := .of_alike (by rw [hk1]; rfl) hd.alike
  rw [← hi]
  unfold releaseRevoked
  split
  · exact h.of_quiet (.of_alike rfl (.refl _))
  rw [← hk1]
  simp only
  split
  · exact (wakeRevoked_moves (A := fun _ => False) k1 i _ _).mono fun _ hm =>
      h.of_quiet (hq.trans (.of_moves id id hm))
  · exact reclaimShm_paged hd.ledger (h.of_quiet hq)
  · exact h.of_quiet hq

lemma shm_of_alike {k' : Kernel} {i : ObjIdx} {c : ℕ} (ha : Alike k.object k'.object)
    (h : Shm k' i c) : Shm k i c :=
  ⟨⟨(ha i).1.symm.trans h.1.1, (ha i).2.1.symm.trans h.1.2⟩, (ha i).2.2.2.symm.trans h.2⟩

lemma revokeDescendants_paged (hg : Good L k) (h : Paged k) (s : Slot) :
    Leaves Paged (capabilityRevokeDescendantsLocked k s) := by
  unfold capabilityRevokeDescendantsLocked
  split
  · exact h
  rename_i hs
  split
  · exact h
  split
  · exact h
  have hlive : Live k.entry s := by simpa [Live] using hs
  have h0 : Kept L k (detached k s) ∧ Paged (detached k s) :=
    ⟨kept_detached hg s, h.of_quiet (.of_alike rfl (.refl _))⟩
  refine .bind (revokeTree_spec (Q := fun _ k' => Kept L k k' ∧ Paged k')
    hg.sound.forest hlive h0 ?_) fun r hr => ?_
  · rintro dn c k' hP ⟨hk, hp⟩ hc hcd
    have hlive' := hP.live hc hcd
    rw [← hP.entry_out c hcd]
    exact ((releaseRevoked_keeps hk.ledger hk.busy hlive').mono fun _ hk' =>
      Kept.trans hk.carries hk').both (releaseRevoked_paged hk.ledger hk.busy hp hlive')
  · obtain ⟨_, _, _, _, hk, _⟩ := hr
    exact hk.2

/-! ### Close -/

lemma closeAndReclaim_paged (hg : Good L k) (h : Paged k) (s : Slot) :
    Leaves Paged (closeAndReclaimCapabilityLocked k s) := by
  refine .bind ((capabilityClose_drops hg s).both
    (capabilityClose_moves rfl hg.sound s)) fun ⟨res, k1⟩ ⟨hr, hm⟩ => ?_
  have hp := h.of_quiet (.of_moves (by decide) (by decide) hm)
  rcases hr with hr | ⟨hs, hres, hd⟩
  · cases hr
    exact h
  subst hres
  simp only
  split
  · split
    · exact .bind (releaseEndpoint_moves rfl k1 _ _) fun _ hm' =>
        hp.of_quiet (.of_moves (by decide) (by decide) hm')
    · exact .bind (reclaimShm_paged hd.ledger hp) fun _ hk => hk
    · exact hp
  · exact hp

lemma shmClose_paged (hg : Good L k) (h : Paged k) (t : TSlot) (hd : Handle) :
    Leaves Paged (shmClose k t hd) := by
  unfold shmClose
  split
  · exact h
  rename_i p _
  rcases closeHandle_cases k p hd with ⟨e, he⟩ | ⟨s, -, he⟩
  · rw [he]; exact h
  rw [he]
  refine .bind ((capabilityClose_drops hg s).both
    (capabilityClose_moves rfl hg.sound s)) fun ⟨res, k1⟩ hr => ?_
  obtain ⟨hr | ⟨hs, hres, hdr⟩, hm⟩ := hr
  · cases hr
    exact h
  subst hres
  have hp := h.of_quiet (.of_moves (by decide) (by decide) hm)
  exact Holds.bind (reclaimShm_paged hdr.ledger hp) fun _ hk => hk

/-! ### Creation -/

variable {frames : List PhysFrame} {pid : ℕ}

lemma mem_pages_of_getD {pageCount : ℕ} (hlen : frames.length = pageCount) {f : PhysFrame}
    (hf : f ∈ ShmObject.pages
      { pageCount := pageCount, frames := fun n => frames.getD n 0, creatorPid := pid }) :
    f ∈ frames := by
  obtain ⟨n, hn, rfl⟩ := List.mem_map.mp hf
  obtain ⟨m, hm, rfl⟩ := List.mem_take_iff_getElem.mp hn
  have hlt : m < frames.length := by
    rw [hlen]
    exact lt_of_lt_of_le hm (Nat.min_le_left _ _)
  simp only [List.getElem_finRange, Fin.cast_mk]
  rw [List.getD_eq_getElem?_getD, List.getElem?_eq_getElem hlt]
  exact List.getElem_mem hlt

lemma freeObjectSlot_freed (k : Kernel) (i : ObjIdx) :
    Ensures (fun k' => Quiet k k' ∧ (k'.object i).occupied = false) (freeObjectSlotLocked k i) := by
  refine ((freeObjectSlot_moves (A := fun _ => False) k i).mono fun _ =>
    Quiet.of_moves id id).both ?_
  unfold freeObjectSlotLocked
  split
  · simp [freed]
  · trivial

lemma failFreeing_paged {α : Type} {e : IpcError} (h : Paged k)
    (hsp : Spare (books k) (Shm k) frames) :
    Ensures (fun r : Except IpcError α × Kernel => Paged r.2) (failFreeing e frames k) := by
  obtain ⟨ho, hl⟩ := h.laid.discard hsp
  exact ⟨hl, h.covered.outside ho⟩

lemma shmObject_paged (h : Paged k) (p : PSlot) {pageCount : ℕ}
    (hsp : Spare (books k) (Shm k) frames) (hlen : frames.length = pageCount) (pid : ℕ) :
    Leaves Paged (shmObject k p pid pageCount frames) := by
  rcases shmObject_cases k p pid pageCount frames with ⟨e, n, he⟩ | ⟨i, o, n, hnew, he⟩
  · rw [he]
    exact failFreeing_paged (h.of_quiet (.of_alike rfl (.refl _))) hsp
  rw [he]
  obtain ⟨c, hc⟩ : ∃ c, c = o.poolIndex := ⟨_, rfl⟩
  have hnone : ∀ j, ¬Shm k j c := fun j hj =>
    poolFree_iff.mp hnew.unused j hj.1.1 hj.1.2 (hj.2.trans hc)
  obtain ⟨shm, hshm⟩ : ∃ shm : ShmObject, shm =
    { pageCount := pageCount, frames := fun n => frames.getD n 0, creatorPid := pid } := ⟨_, rfl⟩
  obtain ⟨k1, hk1⟩ : ∃ k1 : Kernel, k1 =
    { k with nextObjectId := n, object := update k.object i o,
             shm := update k.shm c shm } := ⟨_, rfl⟩
  have hS : ∀ j d, Shm k1 j d → Shm k j d ∨ (j = i ∧ d = c) := by
    intro j d hj
    unfold Shm IsShm at hj ⊢
    rw [hk1] at hj
    by_cases hji : j = i
    · subst hji
      simp only [update_self] at hj
      exact .inr ⟨rfl, hj.2.symm.trans hc.symm⟩
    simp only [update_of_ne hji] at hj
    exact .inl hj
  have hpages : ∀ f ∈ shm.pages, f ∈ frames := fun f hf => by
    rw [hshm] at hf
    exact mem_pages_of_getD hlen hf
  have hshare := h.laid.share h.covered hsp hnone hpages hS
  have hp1 : Paged k1 := by
    rw [hk1] at hshare ⊢
    exact ⟨hshare.1, hshare.2⟩
  rw [← hc, ← hshm, ← hk1]
  refine .bind ((allocateHandleEntry_moves rfl k1 p i shmRights
    0).mono fun _ hm => Quiet.of_moves (by decide) (by decide) hm) fun ⟨r, k2⟩ hq2 => ?_
  cases r with
  | ok h0 => exact hp1.of_quiet hq2
  | error e =>
    refine .bind (freeObjectSlot_freed k2 i) fun k3 ⟨hq3, hgone⟩ => ?_
    have hq := hq2.trans hq3
    -- the object is gone again, and with it the only one that had the pool entry
    have hS' : ∀ j d, Shm k3 j d → Shm k j d := fun j d hj => by
      have hj1 : Shm k1 j d := ⟨(hq.object j hj.1).1, (hq.object j hj.1).2.symm.trans hj.2⟩
      refine (hS j d hj1).resolve_right fun ⟨hji, _⟩ => ?_
      rw [hji] at hj
      rw [hj.1.1] at hgone
      cases hgone
    have hold : ∀ j d, Shm k3 j d → update k.shm c .empty d = k.shm d := fun j d hj =>
      update_of_ne (fun he : d = c => hnone j (he ▸ hS' j d hj)) _ _
    have hbooks : books { k3 with shm := update k3.shm c .empty } =
        { books k with shm := update k.shm c .empty } := by
      have he : books k3 = { books k with shm := update k.shm c shm } := by
        rw [hq.same, hk1]
        rfl
      have hshm3 : k3.shm = update k.shm c shm := congrArg Books.shm he
      change { books k3 with shm := update k3.shm c .empty } = _
      rw [he, hshm3, update_idem]
    refine failFreeing_paged ⟨?_, ?_⟩ ?_
    · rw [hbooks]
      exact (h.laid.mono hS').reshare hold
    · rw [hbooks]
      exact (h.covered.mono hS').reshare hold
    rw [hbooks]
    exact hsp.reshare fun j d hj => ⟨hS' j d hj, hold j d hj⟩

lemma shmCreate_paged (h : Paged k) (t : TSlot) (pageCount : ℕ) :
    Leaves Paged (shmCreate k t pageCount) := by
  unfold shmCreate
  split
  · exact h
  split
  · exact h
  rename_i p _
  have hend := allocateFrames_spec (b := books k) (S := Shm k) pageCount [] (memory k) h.laid
    h.covered spare_nil
  split
  next hm =>
    rw [hm] at hend
    exact ⟨hend.1, hend.2.1⟩
  rename_i frames m hm
  rw [hm] at hend
  obtain ⟨hsp, hlen⟩ := hend.2.2 frames rfl
  exact shmObject_paged (k := setMemory k m) ⟨hend.1, hend.2.1⟩ p hsp (by simpa using hlen) _

/-! ### Mapping -/

variable {p : PSlot}

lemma resolveCurrentProcessSlot_ok (h : resolveCurrentProcessSlot k pid = .ok p) :
    (k.process p).occupied ∧ (k.process p).id = pid := by
  unfold resolveCurrentProcessSlot at h
  split at h
  · cases h
  rename_i hq
  cases h
  simpa using List.find?_some hq

lemma taken_lt {pmm : Pmm} {f : ℕ} (h : Taken pmm f) (ht : pmm.trackedFrames ≤ 65536) :
    f < 2 ^ 64 := by
  have hlt : f / 4096 < pmm.trackedFrames := h.2.1
  omega

lemma pages_length_le (shm : ShmObject) : shm.pages.length ≤ shm.pageCount := by
  unfold ShmObject.pages
  rw [List.length_map, List.length_take]
  exact Nat.min_le_left _ _

/-- The mapping that `shm_map` makes ends in the user half. -/
def MapFits (k : Kernel) (t : TSlot) (h : Handle) (vaddr : ℕ) : Prop :=
  ∀ p s, resolveCurrentProcessSlot k (k.thread t).processId = .ok p → Denotes k p h s →
    vaddr + (k.shm (k.object (k.entry s).objectIndex).poolIndex).pageCount * 4096 ≤ userTop
  deriving Decidable

/-- The end of a call of `shm_map`: memory is in order, and after an error as it was. -/
structure MapDone (k : Kernel) (r : Except IpcError Unit × Kernel) : Prop where
  paged : Paged r.2
  restored : ∀ e, r.1 = .error e → Restored (memory k) (memory r.2)

lemma MapDone.failed (h : Paged k) (e : IpcError) : MapDone k (.error e, k) :=
  ⟨h, fun _ _ => ⟨fun _ => Iff.rfl, fun _ _ => rfl⟩⟩

lemma shmMap_done (h : Paged k) {t : TSlot} {hd : Handle} {vaddr : ℕ}
    (hfits : MapFits k t hd vaddr) (writable : Bool) :
    Ensures (MapDone k) (shmMap k t hd vaddr writable) := by
  unfold shmMap
  split
  · exact .failed h _
  rename_i hv
  split
  · exact .failed h _
  rename_i p hp
  split
  · exact .failed h _
  rename_i i endpoint rights hval
  obtain ⟨s, hden, -, hocc, -, -, hr⟩ := validateHandle_ok hval
  cases hr
  split
  · exact .failed h _
  split
  · trivial
  rename_i htype
  split
  · exact .failed h _
  rename_i j hj
  have hslot : (k.mapping j).occupied = false := by simpa using List.find?_some hj
  obtain ⟨i, hi⟩ : ∃ i, i = (k.entry s).objectIndex := ⟨_, rfl⟩
  obtain ⟨c, hc⟩ : ∃ c, c = (k.object i).poolIndex := ⟨_, rfl⟩
  have hfit := hfits p s hp hden
  rw [← hi] at hocc htype hfit ⊢
  rw [← hc] at hfit ⊢
  have hshm : Shm k i c := ⟨⟨hocc, not_not.mp htype⟩, hc.symm⟩
  obtain ⟨hpo, hid⟩ := resolveCurrentProcessSlot_ok hp
  have hrange : InUser vaddr (k.shm c).pageCount := ⟨not_not.mp (not_or.mp hv).1, hfit⟩
  have hle := pages_length_le (k.shm c)
  have hrange' : InUser vaddr (k.shm c).pages.length :=
    ⟨hrange.aligned, le_trans (Nat.add_le_add_left (Nat.mul_le_mul_right _ hle) _) hfit⟩
  refine .bind (mapPages_spec hrange' (h.laid.space p hpo) (h.laid.full p hpo)
    (le_trans h.laid.tracked (by decide))
    (fun f hf => taken_lt (h.laid.frames i c f hshm hf).1 h.laid.tracked) writable)
    fun ⟨r, m⟩ hend => ?_
  cases r with
  | error e =>
    have hu : Undone k.geometry (k.process p).addressSpace (memory k) m := hend
    have hold : ∀ P f, Points (Books.setMemory (books k) m) p P f → Points (books k) p P f :=
      fun P f hP => by
        have he := hu.entries P hP.user
        exact ⟨hP.user, by rw [← hP.present]; exact congrArg isPresent he.symm,
          by rw [← hP.frame]; exact congrArg (pointsToFrame k.geometry) he.symm⟩
    exact ⟨⟨h.laid.inside hpo hu.within hu.space hu.full fun P f hP => .inl (hold P f hP),
      h.covered.inside h.laid hpo hu.within hold⟩, fun _ _ => hu.restored⟩
  | ok u =>
    have hin : Entered k.geometry (k.process p).addressSpace
      (Pages vaddr (k.shm c).pages.length) (k.shm c).pages (memory k) m := hend
    obtain ⟨k', hk'⟩ : ∃ k', k' = recordMapping (setMemory k m) j i (mapRights writable)
      (k.thread t).processId vaddr (k.shm c).pageCount := ⟨_, rfl⟩
    have hS : ∀ i' c', Shm k' i' c' → Shm k i' c' := fun _ _ hi' => by
      rw [hk'] at hi'
      exact shm_of_alike (alike_withHeader k.object i _) hi'
    have hmap := h.laid.map_range h.covered hpo hshm hrange hin hslot
      (w := { occupied := true, objectIndex := i, objectGeneration := (k.object i).generation,
               rights := mapRights writable, processId := (k.thread t).processId,
               virtualBase := vaddr, pageCount := (k.shm c).pageCount })
      rfl rfl hid.symm rfl rfl
    have hpaged : Paged k' := by
      refine ⟨?_, ?_⟩
      · rw [hk'] at hS ⊢
        exact hmap.1.mono hS
      rw [hk'] at hS ⊢
      exact hmap.2.mono hS
    simp only
    rw [← hk']
    exact ⟨hpaged, fun e he => by cases he⟩

/-! ### Unmapping -/

lemma dropMapping_paged (hl : Ledger k) (h : Paged k)
    (hp : (k.process p).occupied) {j : Fin 64} (hj : (k.mapping j).occupied)
    (hpid : (k.mapping j).processId = (k.process p).id) :
    Ensures Paged (dropMapping k (k.process p).addressSpace j) := by
  obtain ⟨m, hm⟩ : ∃ m, m = unmapRange k.geometry (k.process p).addressSpace
    (k.mapping j).virtualBase (k.mapping j).pageCount (memory k) := ⟨_, rfl⟩
  obtain ⟨i, hi⟩ : ∃ i, i = (k.mapping j).objectIndex := ⟨_, rfl⟩
  obtain ⟨k1, hk1⟩ : ∃ k1, k1 = dropMappingRef { setMemory k m with
    mapping := update k.mapping j { k.mapping j with occupied := false } } i := ⟨_, rfl⟩
  obtain ⟨hl1, ha⟩ := unmapped_ledger hl hj m hi hk1
  have hS : ∀ i' c', Shm k1 i' c' → Shm k i' c' := fun _ _ => shm_of_alike ha
  have hcl := unmapRange_spec (h.laid.range j hj) (h.laid.space p hp) (h.laid.full p hp)
  have hun := h.laid.unmap_range h.covered hp hpid (m := m) (by rw [hm]; exact hcl)
    (w := { k.mapping j with occupied := false }) rfl
  have hp1 : Paged k1 := by
    refine ⟨?_, ?_⟩
    · rw [hk1] at hS ⊢
      exact hun.1.mono hS
    rw [hk1] at hS ⊢
    exact hun.2.mono hS
  have heq : dropMapping k (k.process p).addressSpace j = checkAndReclaimShmLocked k1 i := by
    rw [hk1, hi, hm]
    rfl
  rw [heq]
  exact reclaimShm_paged hl1 hp1

lemma shmUnmap_paged (hl : Ledger k) (h : Paged k) (t : TSlot) (hd : Handle)
    (vaddr : VirtualAddress) : Leaves Paged (shmUnmap k t hd vaddr) := by
  unfold shmUnmap
  split
  · exact h
  rename_i hp
  obtain ⟨hpo, hid⟩ := resolveCurrentProcessSlot_ok hp
  split
  · exact h
  rename_i j hj
  obtain ⟨hocc, hpid⟩ : (k.mapping j).occupied ∧
      (k.mapping j).processId = (k.thread t).processId := by
    have := List.find?_some hj
    simp only [Bool.and_eq_true, decide_eq_true_eq] at this
    exact this.1
  have hdrop := dropMapping_paged hl h hpo hocc (hpid.trans hid.symm)
  simp only
  split
  · exact h
  split
  · split
    · exact h
    · exact .bind hdrop fun _ hk => hk
  · exact .bind hdrop fun _ hk => hk

/-! ### Exit -/

/-- While a process exits: the accounts and the memory are in order, and the processes are those of
the start. -/
structure Leaving (L : ObjIdx → Prop) (k k' : Kernel) : Prop where
  fine : Fine L k k'
  paged : Paged k'
  same : SameSpaces k.process k'.process

lemma sweepMapping_leaving {k₁ : Kernel} (h : Leaving L k k₁)
    (hp : (k.process p).occupied) (j : Fin 64) :
    Ensures (Leaving L k) (sweepMapping (k.process p).id (k.process p).addressSpace k₁ j) := by
  have hfine := sweepMapping_fine h.fine (k.process p).id (k.process p).addressSpace j
  unfold sweepMapping at hfine ⊢
  split
  next hj =>
    rw [if_pos hj] at hfine
    have hdrop := dropMapping_paged h.fine.good.ledger h.paged ((h.same.occupied p).trans hp) hj.1
      (hj.2.trans (h.same.id p).symm)
    rw [h.same.root p] at hdrop
    exact ((hfine.both hdrop).both (dropMapping_moves trivial k₁ _ j)).mono fun _ hk =>
      ⟨hk.1.1, hk.1.2, h.same.trans (sameSpaces_of_moves (A := fun _ => True) hk.2)⟩
  · exact h

lemma sweepHandle_leaving {k₁ : Kernel} (h : Leaving L k k₁) (p : PSlot) (n : HSlot) :
    Ensures (Leaving L k) (sweepHandle p k₁ n) := by
  have hfine := sweepHandle_fine h.fine p n
  unfold sweepHandle at hfine ⊢
  split
  next hn =>
    rw [if_pos hn] at hfine
    have hrest := (closeAndReclaim_paged h.fine.good h.paged (p, n)).both
      (closeAndReclaim_moves (A := fun _ => True) trivial trivial trivial h.fine.good.sound (p, n))
    refine (hfine.both (Holds.bind hrest (R := fun k' => Paged k' ∧ Moves (fun _ => True) k₁ k')
      fun _ hk => hk)).mono fun _ hk =>
        ⟨hk.1, hk.2.1, h.same.trans (sameSpaces_of_moves hk.2.2)⟩
  · exact h

lemma findProcess_eq_some (h : findProcess k pid = some p) :
    (k.process p).occupied ∧ (k.process p).id = pid := by
  have := List.find?_some h
  simp only [Bool.and_eq_true, decide_eq_true_eq] at this
  exact ⟨this.1.2, this.2⟩

lemma processExit_paged (hg : Good L k) (h : Paged k)
    (hocc : ∀ t, Active k t → (k.thread t).occupied) {t : TSlot}
    (hrun : (k.thread t).state ≠ .blocked) : Ensures Paged (processExit k t) := by
  unfold processExit
  simp only
  split
  · trivial
  split
  · trivial
  rename_i p hfind
  split
  · trivial
  obtain ⟨hp, hid⟩ := findProcess_eq_some hfind
  obtain ⟨k1, hk1⟩ : ∃ k1, k1 =
    setProcessState (cancelProcessThreadsLocked k (k.thread t).processId t) p .zombie := ⟨_, rfl⟩
  have hm1 : Moves (Eq .threads) k k1 := by
    rw [hk1]
    exact cancelled_moves rfl k _ t p .zombie
  have hfine := releaseCancelled_fine hg hocc hrun (k.thread t).processId p
  rw [← hk1] at hfine ⊢
  refine .bind (hfine.both (holds_foldlM (I := Moves (Eq .threads) k)
    (fun k' u hk => (releaseCancelled_moves _ k' u).mono fun _ => hk.trans) _ hm1))
    fun k2 ⟨hc2, hm2⟩ => ?_
  have hsame := sameSpaces_of_moves hm2
  have hp2 : (k2.process p).occupied := (hsame.occupied p).trans hp
  have hpid : (k.thread t).processId = (k2.process p).id := hid.symm.trans (hsame.id p).symm
  rw [hpid]
  unfold processExitCapabilityCleanupLocked
  have h2 : Leaving L k2 k2 :=
    ⟨.refl hc2.good, h.of_quiet (.of_moves (by decide) (by decide) hm2), .refl _⟩
  simp only [bind_assoc]
  refine .bind (holds_foldlM (fun k' j hk => sweepMapping_leaving hk hp2 j) _ h2) fun k3 h3 => ?_
  refine .bind (holds_foldlM (fun k' n hk => sweepHandle_leaving hk p n) _ h3) fun k4 h4 => ?_
  split
  · exact h4.paged.of_quiet (.of_alike rfl (.refl _))
  · trivial

/-! ### Runs -/

/-- The kernel at boot, with the address spaces of its processes in order. -/
structure Started (σ : System) : Prop where
  boot : Boot σ
  laid : Laid (books σ.kernel) fun _ _ => False

/-- `shm_map` is called for ranges that end in the user half. -/
def Fits (σ : System) : Op → Prop
  | .call t (.shmMap h vaddr _) => MapFits σ.kernel t h vaddr
  | _ => True

instance (σ : System) (op : Op) : Decidable (Fits σ op) := by
  unfold Fits
  split <;> infer_instance

/-- What the steps keep. -/
structure Tidy (σ : System) : Prop where
  orderly : Orderly (fun _ => True) σ
  paged : Paged σ.kernel

lemma tidy_started {σ : System} (h : Started σ) : Tidy σ := by
  have hno : ∀ i c, ¬Shm σ.kernel i c := fun i c hi => by
    have hocc := hi.1.1
    rw [h.boot.kernel] at hocc
    simp [Kernel.boot, KernelObjectSlot.empty] at hocc
  exact ⟨orderly_boot h.boot, h.laid.mono fun i c hi => hno i c hi,
    fun _ _ _ i c _ _ hi => absurd hi (hno i c)⟩

section Step

variable {σ : System}

/-- **A step that leaves the memory alone.** -/
lemma exec_quiet (h : Tidy σ) {op : Op} (hm : .memory ∉ needs op)
    (hs : .create .shmObject ∉ needs op) : Ensures (fun r => Paged r.2.kernel) (op.exec σ) :=
  (exec_moves (A := (· ∈ needs op)) h.orderly.good.sound op fun _ ha => ha).mono fun _ hk =>
    h.paged.of_quiet (.of_moves hm hs hk)

lemma syscall_paged (h : Tidy σ) {t : TSlot} (ht : (σ.kernel.thread t).state = .running)
    {c : Syscall} (hc : Fits σ (.call t c)) : Ensures (fun r => Paged r.2.kernel) (c.exec σ t) := by
  have hg := h.orderly.good
  have hp := h.paged
  have hquiet (hm : .memory ∉ callNeeds c) (hs : .create .shmObject ∉ callNeeds c) :
      Ensures (fun r => Paged r.2.kernel) (Op.exec σ (.call t c)) := exec_quiet h hm hs
  cases c with
  | shmCreate n => exact ensures_only (shmCreate_paged hp t n)
  | shmMap hd vaddr writable =>
    exact ensures_only ((shmMap_done hp hc writable).mono fun _ hr => hr.paged)
  | shmUnmap hd vaddr => exact ensures_only (shmUnmap_paged hg.ledger hp t hd vaddr)
  | shmClose hd => exact ensures_only (shmClose_paged hg hp t hd)
  | exit =>
    refine ensures_only ((processExit_paged hg hp h.orderly.occupied ?_).map fun _ hk => hk)
    rw [ht]
    simp
  | _ => exact hquiet (by simp [callNeeds]) (by simp [callNeeds])

lemma exec_paged (h : Tidy σ) {op : Op} (hen : op.enabled σ) (hc : Fits σ op) :
    Ensures (fun r => Paged r.2.kernel) (op.exec σ) := by
  have hg := h.orderly.good
  have hp := h.paged
  cases op with
  | call t c =>
    simp only [Op.enabled, Bool.and_eq_true, decide_eq_true_eq] at hen
    exact syscall_paged h hen.1 hc
  | revoke s => exact ensures_only (revokeDescendants_paged hg hp s)
  | closeAndReclaim s => exact ensures_only (closeAndReclaim_paged hg hp s)
  | _ => exact exec_quiet h (by simp [needs]) (by simp [needs])

lemma tidy_of_reach (h : Reach Started (Next Fits) σ) : Tidy σ := by
  refine Reach.invariant (I := Tidy) (fun _ hb => tidy_started hb) (fun σ σ' ht hn => ?_) h
  obtain ⟨op, d, hc, hen, hex⟩ := hn
  exact ⟨(exec_orderly ht.orderly hen (.inl fun _ => trivial)).of_ok hex,
    (exec_paged ht hen hc).of_ok hex⟩

/-- **Frames of shared memory are freed unmapped**, and a call of `shm_map` that fails leaves the page
tables and the free frames as it found them. -/
theorem shm_frames_unmapped (h : Reach Started (Next Fits) σ) :
    (∀ f tables, (f, tables) ∈ σ.kernel.shmFreed →
      ∀ p, (σ.kernel.process p).occupied = true → ∀ v < userTop,
        Mm.Vmm.translate σ.kernel.geometry tables (σ.kernel.process p).addressSpace v ≠ .ok f) ∧
    ∀ t hd vaddr writable e k', MapFits σ.kernel t hd vaddr →
      shmMap σ.kernel t hd vaddr writable = .ok (.error e, k') →
      Restored (memory σ.kernel) (memory k') := by
  have ht := tidy_of_reach h
  refine ⟨ht.paged.laid.freed, fun t hd vaddr writable e k' hfits hm => ?_⟩
  exact ((shmMap_done ht.paged hfits writable).of_ok hm).restored e rfl

end Step

lemma twoProcesses_tableAt {g : AddressSpaceGeometry} {root f : PhysFrame}
    {p : List (Fin 512)} (h : tableAt g (memory twoProcesses.kernel) root p = some f) :
    p = [] ∧ f = root := by
  cases p with
  | nil =>
    cases h
    exact ⟨rfl, rfl⟩
  | cons i p =>
    have hnext : next g (memory twoProcesses.kernel).table root i = none :=
      next_of_absent isPresent_zero
    unfold tableAt Lib.Radix.walk at h
    rw [hnext] at h
    cases h

lemma started_twoProcesses : Started twoProcesses := by
  have hroot : ∀ p : PSlot, (twoProcesses.kernel.process p).occupied →
      (twoProcesses.kernel.process p).addressSpace = (p.val + 1) * 4096 ∧
        (twoProcesses.kernel.process p).id = p.val ∧
        ¬Free twoProcesses.kernel.pmm (twoProcesses.kernel.process p).addressSpace := by
    unfold Free Is
    decide
  have hown : ∀ p f, OwnOf (books twoProcesses.kernel) p f →
      f = (twoProcesses.kernel.process p).addressSpace := fun p f ⟨_, _, hw⟩ =>
    (twoProcesses_tableAt hw).2
  have hsame : ∀ p q : PSlot, (p.val + 1) * 4096 = (q.val + 1) * 4096 → p = q :=
    fun p q he => Fin.ext (by omega)
  refine ⟨boot_twoProcesses,
    { tracked := by decide
      space := fun p hp => ⟨?_, ?_, fun _ _ _ _ _ _ _ => rfl, (hroot p hp).2.2, ?_,
        fun _ _ _ hne hi => (hi fun hnil => absurd hnil hne).elim⟩
      full := ?_
      apart := ?_
      pid := fun p q hp hq he => Fin.ext ?_
      target := fun p P f _ hP => absurd hP.present ?_
      frames := fun _ _ _ hS => hS.elim
      apartShm := fun _ _ _ _ _ hS => hS.elim
      range := fun j hj => ?_
      freed := fun f tables hf => ?_ }⟩
  · intro p q f _ _ hp hq
    rw [(twoProcesses_tableAt hp).1, (twoProcesses_tableAt hq).1]
  · intro p f i _ hne hw
    exact absurd (twoProcesses_tableAt hw).1 hne
  · intro p f _ hne hw
    exact absurd (twoProcesses_tableAt hw).1 hne
  · intro p _ q f _ hne hw
    exact absurd (twoProcesses_tableAt hw).1 hne
  · intro p q f hp hq h1 h2
    refine hsame p q ?_
    rw [← (hroot p hp).1, ← (hroot q hq).1, ← hown p f h1, ← hown q f h2]
  · rw [← (hroot p hp).2.1, ← (hroot q hq).2.1]
    exact he
  · unfold entryAt
    split
    · exact Bool.eq_false_iff.mp isPresent_zero
    · exact Bool.eq_false_iff.mp isPresent_zero
  · cases hj
  · cases hf

/-- Shared memory is mapped, its handle closed, and its frames are freed with the mapping. -/
theorem shm_frames_unmapped_closed : ∃ σ, Reach Started (Next Fits) σ ∧
    σ.kernel.shmFreed.map Prod.fst = [16384, 20480] ∧
    ∀ f tables, (f, tables) ∈ σ.kernel.shmFreed →
      ∀ p, (σ.kernel.process p).occupied = true → ∀ v < userTop,
        Mm.Vmm.translate σ.kernel.geometry tables (σ.kernel.process p).addressSpace v ≠ .ok f := by
  refine (exists_reach started_twoProcesses [.call 1 (.shmCreate 2),
    .call 1 (.shmMap (Handle.new 0 1) 0x400000 true), .call 1 (.shmClose (Handle.new 0 1)),
    .call 1 (.shmUnmap (Handle.new 0 1) 0x400000)] ?_).imp fun σ h =>
      ⟨h.1, h.2, (shm_frames_unmapped h.1).1⟩
  decide +kernel

/-- **A range over the end of the user half**: the second page has no address, so the call fails with
the first page mapped. Then the close of the handle frees the frame that this page still leads to. -/
theorem shm_frame_freed_mapped : ∃ σ, Reach Started (Next fun _ _ => True) σ ∧
    ∃ f tables p v, (f, tables) ∈ σ.kernel.shmFreed ∧ (σ.kernel.process p).occupied = true ∧
      v < userTop ∧
      Mm.Vmm.translate σ.kernel.geometry tables (σ.kernel.process p).addressSpace v = .ok f := by
  obtain ⟨σ, hσ, h⟩ : ∃ σ, runOps (fun _ _ => True) twoProcesses
      [.call 1 (.shmCreate 2), .call 1 (.shmMap (Handle.new 0 1) 0x00007ffffffff000 true),
        .call 1 (.shmClose (Handle.new 0 1))] = .ok σ ∧
      σ.kernel.shmFreed.any (fun e => e.1 = 16384 && (σ.kernel.process 1).occupied &&
        (Mm.Vmm.translate σ.kernel.geometry e.2 (σ.kernel.process 1).addressSpace
          0x00007ffffffff000).toOption = some e.1) = true := exists_ok (by decide +kernel)
  obtain ⟨⟨f, tables⟩, hmem, he⟩ := List.any_eq_true.mp h
  simp only [Bool.and_eq_true, decide_eq_true_eq] at he
  refine ⟨σ, reach_runOps started_twoProcesses hσ, f, tables, 1, 0x00007ffffffff000, hmem, he.1.2,
    by decide, ?_⟩
  revert he
  cases Mm.Vmm.translate σ.kernel.geometry tables (σ.kernel.process 1).addressSpace 0x00007ffffffff000
  · simp [Except.toOption]
  · simp [Except.toOption]

end ProjectZero.Ipc.Unmapped
