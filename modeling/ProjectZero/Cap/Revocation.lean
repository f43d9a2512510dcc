import ProjectZero.Cap.Authority
import ProjectZero.Ipc.Handle
import ProjectZero.Ipc.Queues

/-! # Revocation is complete and exact

In a well-formed state the object of a capability counts the handles that name it. The capability on
which the descendants are revoked stays, so its object keeps a reference through the whole loop and is
never reclaimed on the way: the loop ends without a failed assertion, and the counter falls by one for
every descendant. -/

namespace ProjectZero.Cap.Revocation

open Lib.Tree Lib.Run Tables Cap.Node Ops RevokeLoop Calls Ipc.Object Ipc.Queues Ipc.Handle

/-- The entry is a handle to the object in slot `i` with generation `g`. -/
def Names (e : HandleEntry) (i : ObjIdx) (g : BitVec 16) : Prop :=
  e.occupied ∧ e.objectIndex = i ∧ e.objectGeneration = g
  deriving Decidable

/-- The number of handles to the object in slot `i`. -/
def handleCount (k : Kernel) (i : ObjIdx) : ℕ :=
  (Finset.univ.filter fun s => Names (k.entry s) i (k.object i).generation).card

/-- The well-formed capability states: the tree is well-formed, every handle names a current object,
every object counts its handles, and who waits on a channel is blocked and waits once. -/
structure CapState (k : Kernel) : Prop where
  sound : Sound k
  current : ∀ s, Live k.entry s → (k.object (k.entry s).objectIndex).occupied ∧
    (k.object (k.entry s).objectIndex).generation = (k.entry s).objectGeneration
  counted : ∀ i, (k.object i).occupied → (k.object i).header.handleRefs = handleCount k i
  queued : ∀ i, (k.object i).occupied → (k.object i).objType = .channel →
    (queued (k.channel (k.object i).poolIndex)).Nodup ∧
    ∀ t ∈ queued (k.channel (k.object i).poolIndex), (k.thread t).state = .blocked

/-! ### Releasing one reference of several -/

@[simp] lemma dropHandleRef_objType (k : Kernel) (i : ObjIdx) :
    ((dropHandleRef k i).object i).objType = (k.object i).objType := by simp [dropHandleRef]

@[simp] lemma dropHandleRef_poolIndex (k : Kernel) (i : ObjIdx) :
    ((dropHandleRef k i).object i).poolIndex = (k.object i).poolIndex := by simp [dropHandleRef]

@[simp] lemma dropHandleRef_handleRefs (k : Kernel) (i : ObjIdx) :
    ((dropHandleRef k i).object i).header.handleRefs = (k.object i).header.handleRefs - 1 := by
  simp [dropHandleRef]

variable {k : Kernel}

/-- **An object with another reference** survives the release: only its counter changes, and on a
channel the waiters wake. -/
lemma releaseRevoked_busy {i : ObjIdx} (endpoint : ℕ)
    (hocc : (k.object i).occupied) (hrefs : 1 < (k.object i).header.handleRefs)
    (hq : (k.object i).objType = .channel → (queued (k.channel (k.object i).poolIndex)).Nodup ∧
      ∀ t ∈ queued (k.channel (k.object i).poolIndex), (k.thread t).state = .blocked) :
    ∃ thread channel, releaseRevoked k i endpoint =
        .ok { dropHandleRef k i with thread := thread, channel := channel } ∧
      ((k.object i).objType = .channel → queued (channel (k.object i).poolIndex) = []) := by
  have href : ∀ k' : Kernel, k'.object = (dropHandleRef k i).object →
      (k'.object i).header.refCount ≠ 0 := by
    intro k' h
    have := dropHandleRef_handleRefs k i
    rw [h]
    unfold KernelObjectHeader.refCount
    omega
  unfold releaseRevoked
  rw [if_neg (by simp [hocc])]
  simp only [dropHandleRef_objType, dropHandleRef_poolIndex]
  cases htype : (k.object i).objType with
  | channel =>
    obtain ⟨hnd, hb⟩ := hq htype
    obtain ⟨k1, hk1⟩ : ∃ k1, k1 = (dropHandleRef k i).setChannel (k.object i).poolIndex
      (((dropHandleRef k i).channel (k.object i).poolIndex).dropRef endpoint) := ⟨_, rfl⟩
    have hqk : queued (k1.channel (k.object i).poolIndex) =
        queued (k.channel (k.object i).poolIndex) := by
      rw [hk1, Kernel.setChannel]
      simp only [update_self]
      exact queued_dropRef _ endpoint
    have hthread : k1.thread = k.thread := by rw [hk1]; rfl
    obtain ⟨thread, hw, -⟩ := wakeAllWaiters_ok endpoint (hqk ▸ hnd)
      (by rw [hqk, hthread]; exact hb)
    refine ⟨thread, update k1.channel (k.object i).poolIndex
      (k1.channel (k.object i).poolIndex).drain, ?_, fun _ => by simp⟩
    simp only [← hk1, hw, ok_bind]
    rw [reclaimChannel_busy (href _ (by rw [hk1]; rfl)), hk1]
    rfl
  | shmObject =>
    refine ⟨k.thread, k.channel, ?_, fun h => by cases h⟩
    rw [reclaimShm_busy (href _ rfl)]
    rfl
  | free | event | process | storageObject | device | socket =>
    exact ⟨k.thread, k.channel, rfl, fun h => by cases h⟩

/-! ### The whole loop -/

/-- The object `i` after the handles of `dn`, all below `x`, are revoked. -/
structure Released (k : Kernel) (x : Slot) (dn : List Slot) (k' : Kernel) : Prop where
  nodup : dn.Nodup
  below : ∀ s ∈ dn, Desc (Live k.entry) (links k.node) x s
  object : k'.object = update k.object (k.entry x).objectIndex
    { k.object (k.entry x).objectIndex with
      header := { (k.object (k.entry x).objectIndex).header with
        handleRefs := (k.object (k.entry x).objectIndex).header.handleRefs - dn.length } }
  queued : (k.object (k.entry x).objectIndex).objType = .channel →
    (queued (k'.channel (k.object (k.entry x).objectIndex).poolIndex)).Nodup ∧
    ∀ t ∈ queued (k'.channel (k.object (k.entry x).objectIndex).poolIndex),
      (k'.thread t).state = .blocked

variable {x : Slot} {dn : List Slot}

/-- The capability `x` and those below it are among the handles its object counts. -/
lemma CapState.length_lt (h : CapState k) (hx : Live k.entry x) (hnd : dn.Nodup)
    (hb : ∀ s ∈ dn, Desc (Live k.entry) (links k.node) x s) :
    dn.length < (k.object (k.entry x).objectIndex).header.handleRefs := by
  obtain ⟨hocc, hgen⟩ := h.current x hx
  rw [h.counted _ hocc, handleCount]
  have hxd : x ∉ dn := fun e => h.sound.forest.desc_irrefl (hb x e)
  have hnd' : (x :: dn).Nodup := List.nodup_cons.mpr ⟨hxd, hnd⟩
  have hsub : (x :: dn).toFinset ⊆ Finset.univ.filter fun s =>
      Names (k.entry s) (k.entry x).objectIndex (k.object (k.entry x).objectIndex).generation := by
    intro s hs
    rw [Finset.mem_filter]
    refine ⟨Finset.mem_univ s, ?_⟩
    rcases List.mem_cons.mp (List.mem_toFinset.mp hs) with rfl | hs
    · exact ⟨hx, rfl, hgen.symm⟩
    have hi := Authority.inherits_ancestor h.sound (hb s hs)
    have hl : Live k.entry s := desc_live (hb s hs)
    exact ⟨hl, hi.objectIndex, hi.objectGeneration.trans hgen.symm⟩
  have hcard := Finset.card_le_card hsub
  rw [List.toFinset_card_of_nodup hnd', List.length_cons] at hcard
  omega

lemma Released.step {k' : Kernel} (h : CapState k) {c : Slot} (hx : Live k.entry x)
    (hr : Released k x dn k') (hc : Desc (Live k.entry) (links k.node) x c) (hcd : c ∉ dn) :
    Holds (fun _ => False) (Released k x (dn ++ [c]))
      (releaseRevoked (cutAt k' c) (k.entry c).objectIndex (k.entry c).endpoint) := by
  have hi : (k.entry c).objectIndex = (k.entry x).objectIndex :=
    (Authority.inherits_ancestor h.sound hc).objectIndex
  have hnd : (dn ++ [c]).Nodup := by
    rw [List.nodup_append]
    refine ⟨hr.nodup, by simp, fun a ha b hb e => ?_⟩
    rw [List.mem_singleton] at hb
    exact hcd (hb ▸ e ▸ ha)
  have hbelow : ∀ s ∈ dn ++ [c], Desc (Live k.entry) (links k.node) x s := by
    intro s hs
    rcases List.mem_append.mp hs with hs | hs
    · exact hr.below s hs
    · rw [List.mem_singleton.mp hs]; exact hc
  have hlt := h.length_lt hx hnd hbelow
  rw [List.length_append, List.length_singleton] at hlt
  rw [hi]
  obtain ⟨hocc, -⟩ := h.current x hx
  obtain ⟨i, hieq⟩ : ∃ i, i = (k.entry x).objectIndex := ⟨_, rfl⟩
  have hobj := hr.object
  have hqueued := hr.queued
  rw [← hieq] at hobj hqueued hocc hlt ⊢
  have hk : (cutAt k' c).object i = { k.object i with
      header := { (k.object i).header with
        handleRefs := (k.object i).header.handleRefs - dn.length } } := by
    change k'.object i = _
    rw [hobj, update_self]
  obtain ⟨thread, channel, he, hq⟩ := releaseRevoked_busy (k := cutAt k' c) (i := i)
    (k.entry c).endpoint (by rw [hk]; exact hocc) (by rw [hk]; simp only; omega)
    (by rw [hk]; exact hqueued)
  rw [he]
  rw [hk] at hq
  refine ⟨hnd, hbelow, ?_, fun ht => ?_⟩
  · rw [← hieq]
    unfold dropHandleRef
    simp only [hk]
    change update k'.object i _ = _
    rw [hobj, update_idem, List.length_append, List.length_singleton, Nat.sub_add_eq]
  rw [← hieq] at ht ⊢
  rw [hq ht]
  simp

lemma validateHandle_stale {s : Slot} {g : BitVec 16}
    (hg : (k.entry s).handleGeneration ≠ g) (required : Rights) :
    validateHandleLocked k s.1 (Handle.new (BitVec.ofNat 16 s.2) g) required =
      .error .badHandleGeneration := by
  have hs := Handle.slotIndex_new_slot s.2 g
  have hlt : (Handle.new (BitVec.ofNat 16 s.2) g).slotIndex < 32 := by rw [hs]; exact s.2.isLt
  have hslot : (s.1, (⟨(Handle.new (BitVec.ofNat 16 s.2) g).slotIndex, hlt⟩ : HSlot)) = s :=
    Prod.ext rfl (Fin.ext hs)
  unfold validateHandleLocked
  rw [dif_pos hlt]
  simp only [hslot, Handle.generation_new]
  rw [if_pos hg]

/-- **Revocation is complete and exact.** -/
theorem revocation_exact (h : CapState k) (hx : Live k.entry x)
    (hright : (k.entry x).rights &&& CapRights.revoke ≠ 0) :
    ∃ n k', capabilityRevokeDescendantsLocked k x = .ok (.ok n, k') ∧
      (∀ s, Desc (Live k.entry) (links k.node) x s →
        ¬ Live k'.entry s ∧ (k'.node s).isRevoked = true ∧
        ∀ required, ∃ e, validateHandleLocked k' s.1
          (Handle.new (BitVec.ofNat 16 s.2) (k.entry s).handleGeneration) required = .error e) ∧
      (∀ s, ¬ Desc (Live k.entry) (links k.node) x s → k'.entry s = k.entry s) ∧
      n = {s | Desc (Live k.entry) (links k.node) x s}.ncard ∧
      (k'.object (k.entry x).objectIndex).header.handleRefs + n =
        (k.object (k.entry x).objectIndex).header.handleRefs := by
  have h0 : Released k x [] (detached k x) := by
    refine ⟨List.nodup_nil, by simp, ?_, fun ht => h.queued _ (h.current x hx).1 ht⟩
    exact (update_eq_self _ _).symm
  have hspec := revokeTree_spec h.sound.forest hx h0
    fun dn c k' _ hr hc hcd => hr.step h hx hc hcd
  cases hrun : revokeDescendantsTreeLocked k x with
  | error e => exact (hspec.of_error hrun).elim
  | ok r =>
    obtain ⟨dn, hnd, hdn, hP, hr, hlen⟩ := hspec.of_ok hrun
    refine ⟨r.1, r.2, ?_, fun s hs => ⟨?_, ?_, fun required => ⟨.badHandleGeneration, ?_⟩⟩,
      fun s hs => ?_, ?_, ?_⟩
    · have hocc : ¬ (k.entry x).occupied = false := by
        rw [show (k.entry x).occupied = true from hx]
        simp
      unfold capabilityRevokeDescendantsLocked
      rw [if_neg hocc, if_neg (by simp [h.sound.unrevoked x hx]), if_neg hright, hrun]
      rfl
    · rw [Live, hP.entry_in s ((hdn s).mpr hs)]
      simp [vacate]
    · rw [hP.node_in s ((hdn s).mpr hs)]
      rfl
    · refine validateHandle_stale ?_ required
      rw [hP.entry_in s ((hdn s).mpr hs)]
      exact bumpGeneration_ne _
    · exact hP.entry_out s fun e => hs ((hdn s).mp e)
    · have hset : {s | Desc (Live k.entry) (links k.node) x s} = ↑dn.toFinset := by
        ext s
        simp [hdn s]
      rw [hset, Set.ncard_coe_finset, List.toFinset_card_of_nodup hnd, hlen]
    have hlt := h.length_lt hx hr.nodup hr.below
    rw [hr.object, update_self, hlen]
    simp only
    omega

/-- Two descendants of a root are revoked. -/
theorem revocation_exact_delegated :
    ∃ k, CapState k ∧ Desc (Live k.entry) (links k.node) (0, 0) (1, 1) ∧
      ∃ n k', capabilityRevokeDescendantsLocked k (0, 0) = .ok (.ok n, k') ∧
        ¬ Live k'.entry (1, 1) := by
  obtain ⟨k, hk, hl, hp, hl', hp', hl0, hright, hcur, hcount, hq⟩ :
      ∃ k, Authority.delegated.foldlM Authority.Call.exec Authority.oneObject = .ok k ∧
        (k.entry (1, 1)).occupied = true ∧ (k.node (1, 1)).parent = some (1, 0) ∧
        (k.entry (1, 0)).occupied = true ∧ (k.node (1, 0)).parent = some (0, 0) ∧
        (k.entry (0, 0)).occupied = true ∧ (k.entry (0, 0)).rights &&& CapRights.revoke ≠ 0 ∧
        (∀ s, (k.entry s).occupied = true → (k.object (k.entry s).objectIndex).occupied = true ∧
          (k.object (k.entry s).objectIndex).generation = (k.entry s).objectGeneration) ∧
        (∀ i, (k.object i).occupied = true → (k.object i).header.handleRefs = handleCount k i) ∧
        ∀ i, (k.object i).occupied = true → (k.object i).objType ≠ .channel :=
    exists_ok (by decide +kernel)
  have hstate : CapState k :=
    ⟨Authority.reach_sound (Authority.reach_calls hk), hcur, hcount,
      fun i hi ht => absurd ht (hq i hi)⟩
  have hd : Desc (Live k.entry) (links k.node) (0, 0) (1, 1) :=
    .tail (.single ⟨hl', hp'⟩) ⟨hl, hp⟩
  obtain ⟨n, k', hrun, hdesc, -⟩ := revocation_exact hstate hl0 hright
  exact ⟨k, hstate, hd, n, k', hrun, (hdesc (1, 1) hd).1⟩

end ProjectZero.Cap.Revocation
