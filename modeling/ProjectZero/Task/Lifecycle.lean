import ProjectZero.Ipc.Traffic

/-! # Creation, mapping, close and exit keep the accounts -/

namespace ProjectZero.Task.Lifecycle

open Lib.Run Tables Mm.Vmm Cap.Ops Cap.RevokeLoop Cap.Calls Ipc.Object Ipc.Queues Ipc.Accounts
open Ipc.Keeping Ipc.Channel Ipc.Handle Ipc.Shm

variable {L : ObjIdx → Prop} {k : Kernel} {i : ObjIdx}

/-- The tables are in order after an operation, and the calls in flight are carried on. -/
structure Fine (L : ObjIdx → Prop) (k k' : Kernel) : Prop where
  good : Good L k'
  carries : Carries k k'

lemma Fine.refl (h : Good L k) : Fine L k k := ⟨h, .refl k⟩

variable {k₁ : Kernel}

lemma Fine.trans {k₂ k₃ : Kernel} (h₁ : Carries k₁ k₂) (h₂ : Fine L k₂ k₃) : Fine L k₁ k₃ :=
  ⟨h₂.good, h₁.trans h₂.carries⟩

variable {α : Type}

lemma fine_of {src : Source} {x : Except Halt (α × Kernel)}
    (hs : Ends (fun r => Safe src k r.2) x) (hk : Leaves (Kept L k) x) : Leaves (Fine L k) x :=
  (hk.and hs.ensures).mono fun _ h => ⟨⟨h.2.sound, h.1.ledger, h.1.busy⟩, h.1.carries⟩

lemma fine_of_same {k' : Kernel} (h : Good L k) (hs : SameBooks k k') (hn : k'.node = k.node)
    (hch : k'.channel = k.channel) (hth : k'.thread = k.thread) : Fine L k k' := by
  refine ⟨⟨?_, h.ledger.of_same hs (fun c => ?_) fun c t _ => ?_, h.busy.of_same hs⟩,
    hs.carries hth⟩
  · exact h.sound.of_same ⟨hs.entry, hn, hs.count⟩
  · rw [hch]
  · rw [hth]

/-! ### New objects -/

lemma poolFree_iff {objType : KernelObjectType} {c : ℕ} : poolFree k objType c ↔
    ∀ j, (k.object j).occupied → (k.object j).objType = objType → (k.object j).poolIndex ≠ c := by
  simp only [poolFree, List.all_eq_true, List.mem_finRange, true_imp_iff]
  refine forall_congr' fun j => ?_
  simp only [Bool.not_eq_true', Bool.and_eq_false_iff, decide_eq_false_iff_not]
  cases (k.object j).occupied
  · simp
  · simp [imp_iff_not_or]

/-- **A new object** has no references yet. -/
lemma newObject_ledger (h : Ledger k) (hb : Busy L k) (hi : (k.object i).occupied = false)
    {o : KernelObjectSlot} (hr : o.header.refCount = 0)
    (htype : o.objType = .channel ∨ o.objType = .shmObject)
    (hpool : poolFree k o.objType o.poolIndex) (hk : Replaced k k' i o)
    (hq : ∀ c, (queued (k'.channel c)).Sublist (queued (k.channel c))) :
    Ledger k' ∧ BusyBut L k' i ∧ Carries k k' ∧ (k'.object i).header.refCount = 0 := by
  have hold := poolFree_iff.mp hpool
  obtain ⟨hl, hcar⟩ := Ledger.object h (h.tallied.vacant i hi) hr hk (fun _ => htype)
    (fun _ => hold) hq
  refine ⟨hl, fun j hj hjo => ?_, hcar, hk.self ▸ hr⟩
  rw [hk.other j hj] at hjo ⊢
  exact hb j hjo

/-- **A handle for a new object**: the tables stay as they are, or the handle is installed. -/
lemma allocateHandleEntry_keeps (hs : Sound k) (h : Ledger k) (hb : BusyBut L k i) (p : PSlot)
    (rights : Rights) (endpoint : ℕ) :
    Ensures (fun r => (∃ e, r = (.error e, k)) ∨ ∃ n, Installed L k (p, n) i r ∧ Sound r.2)
      (allocateHandleEntryLocked k p i rights endpoint) := by
  unfold allocateHandleEntryLocked
  split
  · exact .inl ⟨_, rfl⟩
  rename_i n hn
  refine ((installRoot_keeps h hb (p, n) rights endpoint).and
    (installRoot_safe hs (p, n) i rights endpoint).ensures).mono fun r hr => ?_
  exact hr.1.imp id fun hi => ⟨n, hi, hr.2.sound⟩

lemma freeObjectSlot_fine (hs : Sound k) (h : Ledger k) (hb : BusyBut L k i)
    (hz : (k.object i).header.refCount = 0) : Ensures (Fine L k) (freeObjectSlotLocked k i) := by
  refine ((freeObjectSlot_same k i).ensures.both (Q := Kept L k) ?_).mono
    fun k' hk => ⟨⟨hs.of_same hk.1, hk.2.ledger, hk.2.busy⟩, hk.2.carries⟩
  unfold freeObjectSlotLocked
  split
  · exact freed_keeps h hb hz ⟨rfl, rfl, rfl, rfl, rfl, rfl, rfl⟩ fun _ => .refl _
  · trivial

/-- The first handle of a channel is closed again when there is no second one. -/
lemma close_installed (hz : (k.object i).header.refCount = 0) {s : Slot} {h : Handle}
    (hi : Installed L k s i (.ok h, k₁)) (hs : Sound k₁) :
    Ensures (fun r => Sound r.2 ∧ Ledger r.2 ∧ BusyBut L r.2 i ∧ Carries k₁ r.2 ∧
      (r.2.object i).header.refCount = 0) (closeHandleLocked k₁ s.1 h) := by
  obtain ⟨hh, hl, ht, ho, hk⟩ := hi
  have hgood : Good L k₁ := ⟨hs, hk.ledger, hk.busy⟩
  simp only at hl ht ho hk
  rw [Except.ok.inj hh, (Denotes.new hl).close]
  refine ((capabilityClose_safe hs s).ensures.both
    (Q := fun r => Dropped L k₁ i r.2 ∧ (r.2.object i).header.refCount = 0) ?_).mono
    fun r hr => ⟨hr.1.sound, hr.2.1.ledger, hr.2.1.busy, hr.2.1.carries, hr.2.2⟩
  rcases capabilityClose_cases hs s with ⟨hn, -⟩ | ⟨node, -, -, he⟩
  · exact absurd hl hn
  rw [he, if_pos (hk.ledger.tallied.live_occupied hl)]
  have hd := dropHandle_drops hgood.ledger hgood.busy hl (update node s .empty) _ rfl
  rw [ht] at hd
  simp only [ht]
  refine ⟨hd, ?_⟩
  rw [hd.refCount, ho, withHeader_self]
  unfold KernelObjectHeader.refCount at hz ⊢
  simp only
  omega

/-- **The handles of a new channel.** -/
lemma channelHandles_fine (hs : Sound k) (h : Ledger k) (hb : BusyBut L k i)
    (hz : (k.object i).header.refCount = 0) (p : PSlot) :
    Leaves (Fine L k) (channelHandles k p i) := by
  refine .bind (allocateHandleEntry_keeps hs h hb p channelRights 0) fun ⟨r0, k₁⟩ hr => ?_
  rcases hr with ⟨e, he⟩ | ⟨n, hi, hs1⟩
  · cases he
    exact .bind (freeObjectSlot_fine hs h hb hz) fun _ hf => hf
  obtain ⟨h0, rfl⟩ : ∃ h0, r0 = .ok h0 := ⟨_, hi.handle⟩
  have hk : Kept L k k₁ := hi.kept
  refine .bind (allocateHandleEntry_keeps hs1 hk.ledger (hk.busy.but i) p
    channelRights 1) fun r' hr' => ?_
  obtain ⟨r1, k2⟩ := r'
  rcases hr' with ⟨e, he⟩ | ⟨n', hi', hs2⟩
  · cases he
    refine .bind (close_installed hz hi hs1) fun r3 ⟨hs3, hl3, hb3, hc3, hz3⟩ => ?_
    exact .bind (freeObjectSlot_fine hs3 hl3 hb3 hz3) fun _ hf =>
      .trans (hk.carries.trans hc3) hf
  obtain ⟨h1, rfl⟩ : ∃ h1, r1 = .ok h1 := ⟨_, hi'.handle⟩
  have hk' : Kept L k₁ k2 := hi'.kept
  exact ⟨⟨hs2, hk'.ledger, hk'.busy⟩, hk.carries.trans hk'.carries⟩

/-- **`channel_create`.** -/
lemma channelCreate_fine (h : Good L k) (t : TSlot) : Leaves (Fine L k) (channelCreate k t) := by
  rcases channelCreate_cases k t with ⟨e, n, he⟩ | ⟨p, i, o, n, hnew, he⟩
  · rw [he]
    exact fine_of_same h (.of_object rfl rfl rfl rfl rfl rfl) rfl rfl rfl
  rw [he]
  obtain ⟨k₁, hk1⟩ : ∃ k₁ : Kernel, k₁ = { k with
    nextObjectId := n, object := update k.object i o
    channel := update k.channel o.poolIndex newChannel } := ⟨_, rfl⟩
  have hq : ∀ d, (queued (k₁.channel d)).Sublist (queued (k.channel d)) := fun d => by
    rw [hk1]
    by_cases hd : d = o.poolIndex
    · subst hd; simp [newChannel, queued, ChannelEndpointData.empty]
    · simp [hd]
  have hk : Replaced k k₁ i o := by
    rw [hk1]
    exact ⟨rfl, rfl, rfl, rfl, rfl, rfl, rfl⟩
  obtain ⟨hl, hb, hcar, hz⟩ := newObject_ledger h.ledger h.busy hnew.vacant hnew.unreferenced
    (.inl hnew.objType) (by rw [hnew.objType]; exact hnew.unused) hk hq
  have hs : Sound k₁ := h.sound.of_same (by rw [hk1]; exact ⟨rfl, rfl, rfl⟩)
  rw [← hk1]
  exact (channelHandles_fine hs hl hb hz p).mono fun _ hf => .trans hcar hf

lemma setMemory_fine (h : Good L k) (m : Memory) : Fine L k (setMemory k m) :=
  fine_of_same h (.of_object rfl rfl rfl rfl rfl rfl) rfl rfl rfl

lemma failFreeing_fine {e : IpcError} {frames : List PhysFrame} (h : Fine L k k₁) :
    Ensures (fun r : Except IpcError α × Kernel => Fine L k r.2) (failFreeing e frames k₁) :=
  .trans h.carries (setMemory_fine h.good { pmm := _, table := _ })

lemma shmHandle_fine (hs : Sound k) (h : Ledger k) (hb : BusyBut L k i)
    (hz : (k.object i).header.refCount = 0) (p : PSlot) (c : ℕ) (frames : List PhysFrame) :
    Leaves (Fine L k) (shmHandle k p i c frames) := by
  refine .bind (allocateHandleEntry_keeps hs h hb p shmRights 0) fun ⟨r0, k₁⟩ hr => ?_
  rcases hr with ⟨e, he⟩ | ⟨m, hinst, hs1⟩
  · cases he
    refine .bind (freeObjectSlot_fine hs h hb hz) fun k2 hf => ?_
    exact failFreeing_fine (.trans hf.carries
      (fine_of_same hf.good (.of_object rfl rfl rfl rfl rfl rfl) rfl rfl rfl))
  obtain ⟨h0, rfl⟩ : ∃ h0, r0 = .ok h0 := ⟨_, hinst.handle⟩
  have hk : Kept L k k₁ := hinst.kept
  exact ⟨⟨hs1, hk.ledger, hk.busy⟩, hk.carries⟩

section

variable (h : Good L k)

include h

/-- **The object and the handle of new shared memory.** -/
lemma shmObject_fine (p : PSlot) (pid pageCount : ℕ) (frames : List PhysFrame) :
    Leaves (Fine L k) (shmObject k p pid pageCount frames) := by
  rcases shmObject_cases k p pid pageCount frames with ⟨e, n, he⟩ | ⟨i, o, n, hnew, he⟩
  · rw [he]
    exact failFreeing_fine (fine_of_same h (.of_object rfl rfl rfl rfl rfl rfl) rfl rfl rfl)
  rw [he]
  obtain ⟨shm, hshm⟩ : ∃ shm : ShmObject, shm =
    { pageCount := pageCount, frames := fun n => frames.getD n 0, creatorPid := pid } := ⟨_, rfl⟩
  obtain ⟨k₁, hk1⟩ : ∃ k₁ : Kernel, k₁ =
    { k with nextObjectId := n, object := update k.object i o,
             shm := update k.shm o.poolIndex shm } := ⟨_, rfl⟩
  have hk : Replaced k k₁ i o := by
    rw [hk1]
    exact ⟨rfl, rfl, rfl, rfl, rfl, rfl, rfl⟩
  obtain ⟨hl, hb, hcar, hz⟩ := newObject_ledger h.ledger h.busy hnew.vacant hnew.unreferenced
    (.inr hnew.objType) (by rw [hnew.objType]; exact hnew.unused) hk (fun d => by rw [hk1])
  have hs : Sound k₁ := h.sound.of_same (by rw [hk1]; exact ⟨rfl, rfl, rfl⟩)
  rw [← hshm, ← hk1]
  exact (shmHandle_fine hs hl hb hz p _ frames).mono fun _ hf => .trans hcar hf

/-- **`shm_create`.** -/
lemma shmCreate_fine (t : TSlot) (pageCount : ℕ) : Leaves (Fine L k) (shmCreate k t pageCount) := by
  unfold shmCreate
  split
  · exact .refl h
  split
  · exact .refl h
  rename_i p hp
  split
  · exact setMemory_fine h _
  rename_i m hm
  have hf := setMemory_fine h m
  exact (shmObject_fine hf.good p _ _ _).mono fun _ hk => .trans hf.carries hk

/-! ### Close -/

/-- The check of an object that lost a handle, after which the tables are in order. -/
lemma closeHandle_then (p : PSlot) (hd : Handle)
    {f : Except IpcError (ObjIdx × ℕ) × Kernel → Except Halt (Except IpcError α × Kernel)}
    (herr : ∀ e, f (.error e, k) = fail e k)
    (hok : ∀ s k₁, Denotes k p hd s → Live k.entry s → Sound k₁ →
      Dropped L k (k.entry s).objectIndex k₁ →
      Ensures (fun r => Sound r.2 ∧ Kept L k₁ r.2)
        (f (.ok ((k.entry s).objectIndex, (k.entry s).endpoint), k₁))) :
    Leaves (Fine L k) (closeHandleLocked k p hd >>= f) := by
  rcases closeHandle_cases k p hd with ⟨e, he⟩ | ⟨s, hden, he⟩
  · rw [he]
    change Ensures _ (f (.error e, k))
    rw [herr]
    exact .refl h
  rw [he]
  refine .bind ((capabilityClose_drops h s).and
    (capabilityClose_safe h.sound s).ensures) fun ⟨res, k₁⟩ hr => ?_
  obtain ⟨hr | ⟨hl, hres, hdr⟩, hsafe⟩ := hr
  · cases hr
    rw [herr]
    exact .refl h
  subst hres
  exact (hok s k₁ hden hl hsafe.sound hdr).mono fun _ hk =>
    ⟨⟨hk.1, hk.2.ledger, hk.2.busy⟩, hdr.carries.trans hk.2.carries⟩

/-- **`channel_close`.** -/
lemma channelClose_fine (t : TSlot) (hd : Handle) : Leaves (Fine L k) (channelClose k t hd) := by
  unfold channelClose
  split
  · exact .refl h
  rename_i p hp
  refine closeHandle_then h p hd (fun _ => rfl) fun s k₁ _ _ hs hdr => ?_
  simp only
  split
  · trivial
  rename_i htype
  refine .bind ((releaseEndpoint_same k₁ _ _).ensures.and
    (releaseEndpoint_keeps hdr.ledger hdr.busy (by simpa using htype) _)) fun k2 hk => ?_
  exact ⟨hs.of_same hk.1, hk.2⟩

/-- **`shm_close`** of shared memory, or of a channel with another reference. -/
lemma shmClose_fine (t : TSlot) (hd : Handle)
    (hshm : ∀ p s, resolveCurrentProcessSlot k (k.thread t).processId = .ok p →
      Denotes k p hd s → ¬L (k.entry s).objectIndex →
      (k.object (k.entry s).objectIndex).objType = .shmObject ∨
        1 < (k.object (k.entry s).objectIndex).header.refCount) :
    Leaves (Fine L k) (shmClose k t hd) := by
  unfold shmClose
  split
  · exact .refl h
  rename_i p hp
  refine closeHandle_then h p hd (fun _ => rfl) fun s k₁ hden _ hs hdr => ?_
  refine .bind ((reclaimShm_same k₁ _).ensures.and
    (reclaimShm_keeps hdr.ledger hdr.busy fun _ hl => ?_)) fun k2 hk =>
    ⟨hs.of_same hk.1, hk.2⟩
  refine (hshm p s hp hden hl).imp (fun ht => (hdr.alike _).2.1.trans ht) fun hlt => ?_
  rw [hdr.refCount]
  omega

end

/-! ### Mappings -/

variable {j : Fin 64}

/-- **A mapping is recorded.** -/
lemma recordMapping_fine (h : Good L k) (hi : (k.object i).occupied)
    (htype : (k.object i).objType = .shmObject) (hj : (k.mapping j).occupied = false)
    (rights : Rights) (pid : ℕ) (vaddr : VirtualAddress) (pageCount : ℕ) :
    Fine L k (recordMapping k j i rights pid vaddr pageCount) := by
  obtain ⟨k₁, hk1⟩ : ∃ k₁, k₁ = recordMapping k j i rights pid vaddr pageCount := ⟨_, rfl⟩
  have ha : Alike k.object k₁.object := by
    rw [hk1]
    exact alike_withHeader k.object i _
  have hself : (k₁.mapping j).occupied ∧ (k₁.mapping j).objectIndex = i := by
    rw [hk1]
    simp [recordMapping]
  have hother : ∀ n ≠ j, k₁.mapping n = k.mapping n := fun n hn => by
    rw [hk1]
    exact update_of_ne hn _ _
  have ht : Tallied k₁ := by
    rw [hk1]
    refine h.ledger.tallied.record hi hj (m :=
      { occupied := true, objectIndex := i, objectGeneration := (k.object i).generation,
        rights := rights, processId := pid, virtualBase := vaddr, pageCount := pageCount })
      rfl rfl rfl ?_ ?_ ?_ ?_ ?_ ?_
    all_goals rfl
  rw [← hk1]
  refine ⟨⟨h.sound.of_same (by rw [hk1]; exact ⟨rfl, rfl, rfl⟩),
    ⟨ht, h.ledger.kinds.of_alike ha (fun n hn => ?_) ?_, h.ledger.queued.mono (fun d => ?_)
      fun d u _ hw => ?_⟩, fun n hn => ?_⟩, .of_thread (by rw [hk1]; rfl) (by rw [hk1]; rfl)
    fun n => (ha n).2.2.2⟩
  · by_cases hnj : n = j
    · subst hnj; rw [hself.2]; exact htype
    rw [hother n hnj] at hn ⊢
    exact h.ledger.kinds.mapping n hn
  · rw [hk1]; exact h.ledger.kinds.pin
  · rw [hk1]; exact .refl _
  · exact hw.of_alike ha (by rw [hk1]; rfl) (by rw [hk1]; rfl)
  by_cases hni : n = i
  · have hne := refCount_ne_of_mapping ht hself.1
    rw [hself.2] at hne
    rw [hni]
    exact fun _ => hne
  have hsame : k₁.object n = k.object n := by
    rw [hk1]
    exact withHeader_of_ne k.object _ hni
  rw [hsame] at hn ⊢
  exact h.busy n hn

/-- **`shm_map`.** -/
lemma shmMap_fine (h : Good L k) (t : TSlot) (hd : Handle) (vaddr : VirtualAddress)
    (writable : Bool) : Leaves (Fine L k) (shmMap k t hd vaddr writable) := by
  unfold shmMap
  iterate 3
    split
    · exact .refl h
  rename_i i endpoint rights hv
  obtain ⟨s, -, -, hocc, -, -, hr⟩ := validateHandle_ok hv
  cases hr
  split
  · exact .refl h
  split
  · trivial
  rename_i htype
  split
  · exact .refl h
  rename_i j hj
  have hfree : (k.mapping j).occupied = false := by simpa using List.find?_some hj
  refine .bind (ensures_true _) fun ⟨r, m⟩ _ => ?_
  have hm := setMemory_fine h m
  cases r with
  | error e => exact hm
  | ok u =>
    exact .trans hm.carries (recordMapping_fine hm.good (i := (k.entry s).objectIndex) hocc
      (not_not.mp htype) hfree _ _ _ _)

lemma unmapped_ledger (h : Ledger k) (hj : (k.mapping j).occupied)
    (m : Memory) (hi : i = (k.mapping j).objectIndex)
    (hk₁ : k₁ = dropMappingRef { setMemory k m with
      mapping := update k.mapping j { k.mapping j with occupied := false } } i) :
    Ledger k₁ ∧ Alike k.object k₁.object := by
  have ha : Alike k.object k₁.object := by
    rw [hk₁]
    exact alike_withHeader k.object i _
  have hne : ∀ n, (k₁.mapping n).occupied → n ≠ j ∧ k₁.mapping n = k.mapping n := by
    intro n hn
    have hnj : n ≠ j := by
      rintro rfl
      rw [hk₁] at hn
      simp [dropMappingRef] at hn
    refine ⟨hnj, ?_⟩
    rw [hk₁]
    exact update_of_ne hnj _ _
  refine ⟨⟨?_, h.kinds.of_alike ha (fun n hn => ?_) ?_, h.queued.mono (fun d => ?_)
    fun d u _ hw => ?_⟩, ha⟩
  · rw [hk₁]
    exact h.tallied.unmap hj hi.symm rfl rfl rfl rfl rfl rfl
  · obtain ⟨-, he⟩ := hne n hn
    rw [he] at hn ⊢
    exact h.kinds.mapping n hn
  · rw [hk₁]; exact h.kinds.pin
  · rw [hk₁]; exact .refl _
  · exact hw.of_alike ha (by rw [hk₁]; rfl) (by rw [hk₁]; rfl)

/-- **A mapping goes**, and with it perhaps the last reference. -/
lemma dropMapping_fine (h : Good L k) (root : PhysFrame)
    (hj : (k.mapping j).occupied) : Ensures (Fine L k) (dropMapping k root j) := by
  obtain ⟨m, hm⟩ : ∃ m, m = unmapRange k.geometry root (k.mapping j).virtualBase
    (k.mapping j).pageCount (memory k) := ⟨_, rfl⟩
  obtain ⟨i, hi⟩ : ∃ i, i = (k.mapping j).objectIndex := ⟨_, rfl⟩
  obtain ⟨k₁, hk1⟩ : ∃ k₁, k₁ = dropMappingRef { setMemory k m with
    mapping := update k.mapping j { k.mapping j with occupied := false } } i := ⟨_, rfl⟩
  obtain ⟨hl, ha⟩ := unmapped_ledger h.ledger hj m hi hk1
  have hb : BusyBut L k₁ i := by
    intro n hn ho
    have hsame : k₁.object n = k.object n := by
      rw [hk1]
      exact withHeader_of_ne k.object _ hn
    rw [hsame] at ho ⊢
    exact h.busy n ho
  have hc : Carries k k₁ :=
    .of_thread (by rw [hk1]; rfl) (by rw [hk1]; rfl) fun n => (ha n).2.2.2
  have hs : Sound k₁ := h.sound.of_same (by rw [hk1]; exact ⟨rfl, rfl, rfl⟩)
  have heq : dropMapping k root j = checkAndReclaimShmLocked k₁ i := by
    rw [hk1, hi, hm]
    rfl
  rw [heq]
  refine ((reclaimShm_same k₁ i).ensures.and
    (reclaimShm_keeps hl hb fun _ _ => .inl ?_)).mono fun k2 hk =>
    ⟨⟨hs.of_same hk.1, hk.2.ledger, hk.2.busy⟩, hc.trans hk.2.carries⟩
  rw [(ha i).2.1, hi]
  exact h.ledger.kinds.mapping j hj

/-- **`shm_unmap`.** -/
lemma shmUnmap_fine (h : Good L k) (t : TSlot) (hd : Handle) (vaddr : VirtualAddress) :
    Leaves (Fine L k) (shmUnmap k t hd vaddr) := by
  unfold shmUnmap
  split
  · exact .refl h
  split
  · exact .refl h
  rename_i j hj
  have hocc : (k.mapping j).occupied := by
    have := List.find?_some hj
    simp only [Bool.and_eq_true] at this
    exact this.1.1
  simp only
  split
  · exact .refl h
  split
  · split
    · exact .refl h
    · exact .bind (dropMapping_fine h _ hocc) fun _ hf => hf
  · exact .bind (dropMapping_fine h _ hocc) fun _ hf => hf

end ProjectZero.Task.Lifecycle
