import ProjectZero.Ipc.Accounts
import ProjectZero.Ipc.Steps

/-! # The operations keep the accounts

An operation that drops the last reference of an object frees the object in the same step: the
reclamation check that ends it is the one for the object's type. The exception is `shm_close`, which
checks for shared memory only, and the bare close of a capability, which leaves the check to its
caller. -/

namespace ProjectZero.Ipc.Keeping

open Lib.Count Lib.Run Tables Cap.Ops Cap.RevokeLoop Cap.Calls Object Queues Accounts

variable {L : ObjIdx → Prop} {k : Kernel} {i : ObjIdx}

/-! ### Wake-up and reclamation -/

lemma carries_woken {l : List TSlot} {k k' : Kernel} (h : Woken l k.thread k'.thread)
    (hb : ∀ t ∈ l, (k.thread t).state = .blocked) (hp : k'.threadIpc = k.threadIpc)
    (ho : k'.object = k.object) : Carries k k' := by
  have hother : ∀ t ∉ l, k'.thread t = k.thread t := h.other
  have hready : ∀ t ∈ l, k'.thread t = { k.thread t with state := .ready } := h.ready
  refine ⟨fun t => ?_, fun t => ?_, fun t _ ht => ?_, fun t _ hact => ?_, fun t _ _ i c hpin => ?_⟩
  · by_cases htl : t ∈ l
    · rw [hready t htl]
    · rw [hother t htl]
  · by_cases htl : t ∈ l
    · rw [hready t htl]
    · rw [hother t htl]
  · rw [hother t fun htl => ht (hb t htl)]
    exact ht
  · by_cases htl : t ∈ l
    · exact .inr (.inl (hb t htl))
    unfold Active at hact
    rw [hother t htl] at hact
    exact hact
  exact ⟨by rw [hp]; exact hpin.occupied, by rw [hp]; exact hpin.object,
    by rw [ho]; exact hpin.channel⟩

lemma wakeAllWaiters_keeps (h : Ledger k) (c endpoint : ℕ) :
    Ensures (fun k' => Ledger k' ∧ SameBooks k k' ∧ k'.object = k.object ∧ Carries k k')
      (wakeAllWaiters k c endpoint) := by
  have hb : ∀ t ∈ queued (k.channel c), (k.thread t).state = .blocked :=
    fun t ht => (h.queued.waits c t ht).blocked
  obtain ⟨thread, he, hw⟩ := wakeAllWaiters_ok endpoint (h.queued.nodup c) hb
  rw [he]
  have hs : SameBooks k { k with
      thread := thread, channel := update k.channel c (k.channel c).drain } :=
    .of_object rfl rfl rfl rfl rfl rfl
  refine ⟨h.of_same hs (fun d => ?_) (fun d t ht => ?_), hs, rfl, carries_woken hw hb rfl rfl⟩
  · by_cases hd : d = c
    · subst hd; simp
    · simp [hd]
  -- a thread waits on one channel only
  have hdc : d ≠ c := by
    rintro rfl
    simp at ht
  simp only [update_of_ne hdc] at ht
  have htc : t ∉ queued (k.channel c) := fun htc =>
    hdc ((h.queued.waits d t ht).channel.symm.trans (h.queued.waits c t htc).channel)
  simp only [hw.other t htc]

lemma refCount_ne_of_queued (h : Ledger k) (hi : (k.object i).occupied)
    (htype : (k.object i).objType = .channel)
    (hq : queued (k.channel (k.object i).poolIndex) ≠ []) : (k.object i).header.refCount ≠ 0 := by
  obtain ⟨t, ht⟩ := List.exists_mem_of_ne_nil _ hq
  have hw := h.queued.waits _ t ht
  have hne := refCount_ne_of_pin h.tallied hw.pinned
  have hj := h.kinds.pool _ i (h.tallied.occupied_of_ne hne) hi
    ((h.kinds.pin t hw.pinned).trans htype.symm) hw.channel
  rw [← hj]
  exact hne

/-- **An object is made or freed** in a slot that nothing refers to. -/
lemma Ledger.object {k' : Kernel} (h : Ledger k) (hi : (k.object i).header.refCount = 0)
    {o : KernelObjectSlot} (hr : o.header.refCount = 0) (hk : Replaced k k' i o)
    (htype : o.occupied → o.objType = .channel ∨ o.objType = .shmObject)
    (hpool : o.occupied → ∀ j, (k.object j).occupied →
      (k.object j).objType = o.objType → (k.object j).poolIndex ≠ o.poolIndex)
    (hq : ∀ c, (queued (k'.channel c)).Sublist (queued (k.channel c))) :
    Ledger k' ∧ Carries k k' := by
  have hself := hk.self
  have hother := hk.other
  have hp := hk.threadIpc
  have ht := hk.thread
  obtain ⟨-, hmu, hpu⟩ := h.tallied.unnamed hi
  refine ⟨⟨h.tallied.object hi hr hk,
    ⟨fun j hj => ?_, fun j hj => ?_, fun t ht => ?_, fun a b ha hb hab hpab => ?_⟩,
    h.queued.mono hq fun c t _ hw => ?_⟩,
    ⟨fun t => by rw [ht], fun t => by rw [ht], fun t _ hb => by rw [ht]; exact hb,
      fun t _ hact => ?_, fun t _ _ j c hpin => ?_⟩⟩
  · by_cases hji : j = i
    · subst hji
      rw [hself] at hj ⊢
      exact htype hj
    rw [hother j hji] at hj ⊢
    exact h.kinds.objType j hj
  · rw [hk.mapping] at hj ⊢
    rw [hother _ (hmu j hj)]; exact h.kinds.mapping j hj
  · rw [hp] at ht ⊢
    rw [hother _ (hpu t ht)]; exact h.kinds.pin t ht
  · by_cases hai : a = i
    · by_cases hbi : b = i
      · rw [hai, hbi]
      rw [hai, hself] at ha hab hpab
      rw [hother b hbi] at hb hab hpab
      exact absurd hpab.symm (hpool ha b hb hab.symm)
    rw [hother a hai] at ha hab hpab
    by_cases hbi : b = i
    · rw [hbi, hself] at hb hab hpab
      exact absurd hpab (hpool hb a ha hab)
    rw [hother b hbi] at hb hab hpab
    exact h.kinds.pool a b ha hb hab hpab
  · exact ⟨by rw [ht]; exact hw.blocked, by rw [hp]; exact hw.pinned,
      by rw [hp, hother _ (hpu t hw.pinned)]; exact hw.channel⟩
  · unfold Active at hact ⊢
    rwa [ht] at hact
  have hji : j ≠ i := by
    rw [← hpin.object]
    exact hpu t hpin.occupied
  exact ⟨by rw [hp]; exact hpin.occupied, by rw [hp]; exact hpin.object,
    by rw [hother j hji]; exact hpin.channel⟩

/-- **Freeing an object** without references. -/
lemma freed_keeps {k' : Kernel} (h : Ledger k) (hb : BusyBut L k i)
    (hi : (k.object i).header.refCount = 0) (hk : Replaced k k' i (Object.freed (k.object i)))
    (hq : ∀ c, (queued (k'.channel c)).Sublist (queued (k.channel c))) : Kept L k k' := by
  obtain ⟨hl, hcar⟩ := Ledger.object h hi rfl hk nofun nofun hq
  refine ⟨hl, fun j hj => ?_, hcar⟩
  have hji : j ≠ i := by
    rintro rfl
    rw [hk.self] at hj
    cases hj
  rw [hk.other j hji] at hj ⊢
  exact hb j hji hj

/-- **The check for a channel** frees it with its last reference. -/
lemma reclaimChannel_keeps (h : Ledger k) (hb : BusyBut L k i)
    (htype : (k.object i).occupied → (k.object i).objType = .channel) :
    Ensures (Kept L k) (checkAndReclaimChannelLocked k i) := by
  rcases reclaimChannel_cases k i with ⟨-, -, hz, hq, he⟩ | ⟨hwhy, he⟩
  · rw [he]
    refine freed_keeps h hb hz ⟨rfl, rfl, rfl, rfl, rfl, rfl, rfl⟩ fun c => ?_
    by_cases hc : c = (k.object i).poolIndex
    · subst hc; simp [Kernel.setChannel]
    · simp [Kernel.setChannel, hc]
  rw [he]
  refine ⟨h, hb.busy fun hi _ => ?_, .refl k⟩
  rcases hwhy with hw | hw | hw | hw
  · rw [hi] at hw; cases hw
  · exact absurd (htype hi) hw
  · exact hw
  · exact refCount_ne_of_queued h hi (htype hi) hw

/-- **The check for shared memory** frees it with its last reference. -/
lemma reclaimShm_keeps (h : Ledger k) (hb : BusyBut L k i)
    (htype : (k.object i).occupied → ¬L i → (k.object i).objType = .shmObject ∨
      (k.object i).header.refCount ≠ 0) : Ensures (Kept L k) (checkAndReclaimShmLocked k i) := by
  rcases reclaimShm_cases k i with ⟨-, -, hz, he⟩ | ⟨hwhy, he⟩
  · rw [he]
    exact freed_keeps h hb hz ⟨rfl, rfl, rfl, rfl, rfl, rfl, rfl⟩ fun c => .refl _
  rw [he]
  refine ⟨h, hb.busy fun hi hl => ?_, .refl k⟩
  rcases hwhy with hw | hw | hw
  · rw [hi] at hw; cases hw
  · exact (htype hi hl).resolve_left hw
  · exact hw

/-! ### Dropping a handle -/

/-- The tables after a reference to the object `i` went, which may be the last one. -/
structure Dropped (L : ObjIdx → Prop) (k : Kernel) (i : ObjIdx) (k' : Kernel) : Prop where
  ledger : Ledger k'
  busy : BusyBut L k' i
  carries : Carries k k'
  alike : Alike k.object k'.object
  refCount : (k'.object i).header.refCount = (k.object i).header.refCount - 1

lemma dropHandle_drops (h : Ledger k) (hb : Busy L k) {s : Slot} (hs : Live k.entry s)
    (node : Slot → CapabilityNode) (k₁ : Kernel)
    (hk : k₁ = dropHandleRef { invalidate k s with node := node } (k.entry s).objectIndex) :
    Dropped L k (k.entry s).objectIndex k₁ := by
  subst hk
  obtain ⟨i, hi⟩ : ∃ i, i = (k.entry s).objectIndex := ⟨_, rfl⟩
  rw [← hi]
  have ha : Alike k.object (dropHandleRef { invalidate k s with node := node } i).object :=
    alike_withHeader k.object i _
  refine ⟨⟨h.tallied.vacate hs hi.symm rfl rfl rfl rfl rfl rfl,
    h.kinds.of_alike ha h.kinds.mapping h.kinds.pin,
    h.queued.mono (fun _ => .refl _) fun c t _ hw => hw.of_alike ha rfl rfl⟩, fun j hj ho => ?_,
    .of_thread rfl rfl fun j => (ha j).2.2.2, ha, ?_⟩
  · have hsame : (dropHandleRef { invalidate k s with node := node } i).object j = k.object j :=
      withHeader_of_ne k.object _ hj
    rw [hsame] at ho ⊢
    exact hb j ho
  have hpos := h.tallied.handles.pos (handleTarget_live hs)
  have hself := withHeader_self k.object i
    { (k.object i).header with handleRefs := (k.object i).header.handleRefs - 1 }
  refine (congrArg KernelObjectHeader.refCount hself).trans ?_
  rw [← hi] at hpos
  unfold KernelObjectHeader.refCount
  simp only at hpos ⊢
  omega

lemma sameBooks_setChannel (k : Kernel) (c : ℕ) (ch : Channel) : SameBooks k (k.setChannel c ch) :=
  .of_object rfl rfl rfl rfl rfl rfl

lemma setChannel_ledger (h : Ledger k) (c : ℕ) (ch : Channel)
    (hq : (queued ch).Sublist (queued (k.channel c))) : Ledger (k.setChannel c ch) := by
  refine h.of_same (sameBooks_setChannel k c ch) (fun d => ?_) fun _ _ _ => rfl
  by_cases hd : d = c
  · subst hd; simpa [Kernel.setChannel] using hq
  · simp [Kernel.setChannel, hd]

lemma carries_setChannel (k : Kernel) (c : ℕ) (ch : Channel) : Carries k (k.setChannel c ch) :=
  .of_thread rfl rfl fun _ => rfl

/-- **The release of a revoked handle.** -/
lemma releaseRevoked_keeps (h : Ledger k) (hb : Busy L k) {c : Slot} (hc : Live k.entry c) :
    Ensures (Kept L k) (releaseRevoked (cutAt k c) (k.entry c).objectIndex (k.entry c).endpoint) := by
  obtain ⟨i, hi⟩ : ∃ i, i = (k.entry c).objectIndex := ⟨_, rfl⟩
  obtain ⟨k1, hk1⟩ : ∃ k1, k1 = dropHandleRef (cutAt k c) i := ⟨_, rfl⟩
  obtain ⟨hl, hbut, hcar, ha, -⟩ := dropHandle_drops h hb hc
    (update k.node c (cut (k.node c))) k1 (by rw [hk1, hi]; rfl)
  have hocc : (k.object i).occupied := hi ▸ h.tallied.live_occupied hc
  have hocc' : ((cutAt k c).object i).occupied := hocc
  rw [← hi] at hbut ⊢
  unfold releaseRevoked
  rw [if_neg (by rw [hocc']; simp), ← hk1]
  simp only
  cases htype : (k1.object i).objType with
  | channel =>
    have hl2 := setChannel_ledger hl (k1.object i).poolIndex
      ((k1.channel (k1.object i).poolIndex).dropRef (k.entry c).endpoint) (by simp)
    refine .bind (wakeAllWaiters_keeps hl2 _ _) fun k3 ⟨hl3, hs3, ho3, hc3⟩ => ?_
    have hbut3 := (hbut.of_same (sameBooks_setChannel _ _ _)).of_same hs3
    refine (reclaimChannel_keeps hl3 hbut3 fun _ => ?_).mono fun _ hk =>
      .trans (hcar.trans ((carries_setChannel _ _ _).trans hc3)) hk
    rw [ho3]
    exact htype
  | shmObject =>
    exact (reclaimShm_keeps hl hbut fun _ _ => .inl htype).mono fun _ hk =>
      .trans hcar hk
  | free | event | process | storageObject | device | socket =>
    have := h.kinds.objType i hocc
    rw [(ha i).2.1] at htype
    rw [htype] at this
    simp at this

lemma sameBooks_signal (k : Kernel) (i : ObjIdx) (signals : BitVec 32) :
    SameBooks k { k with
      object := withHeader k.object i { (k.object i).header with signals := signals } } :=
  ⟨rfl, rfl, rfl, rfl, rfl, alike_withHeader k.object i _, withHeader_keep (·.handleRefs) rfl,
    withHeader_keep (·.mappingRefs) rfl, withHeader_keep (·.inFlightOpRefs) rfl⟩

lemma closedEnd_ledger (h : Ledger k) (i : ObjIdx) (endpoint : ℕ) :
    Ledger (Kernel.setChannel { k with object := withHeader k.object i { (k.object i).header with
      signals := (k.object i).header.signals ||| 4#32 } } (k.object i).poolIndex
      (((k.channel (k.object i).poolIndex).dropRef endpoint).close endpoint)) :=
  setChannel_ledger (h.of_same (sameBooks_signal k i _) (fun _ => .refl _) fun _ _ _ => rfl) _ _
    (by simp)

lemma dropEndpointRef_keeps (h : Ledger k) (i : ObjIdx) (endpoint : ℕ) :
    Ensures (fun k' => Ledger k' ∧ SameBooks k k' ∧ Carries k k') (dropEndpointRef k i endpoint) := by
  unfold dropEndpointRef
  simp only
  split
  · have hs1 := sameBooks_signal k i ((k.object i).header.signals ||| 4#32)
    refine (wakeAllWaiters_keeps (closedEnd_ledger h i endpoint) _ _).mono fun k3 ⟨hl3, hs3, _, hc3⟩ => ?_
    exact ⟨hl3, hs1.trans ((sameBooks_setChannel _ _ _).trans hs3),
      (hs1.carries rfl).trans ((carries_setChannel _ _ _).trans hc3)⟩
  · exact ⟨setChannel_ledger h _ _ (by simp), sameBooks_setChannel _ _ _, carries_setChannel _ _ _⟩

lemma releaseEndpoint_keeps (h : Ledger k) (hb : BusyBut L k i)
    (htype : (k.object i).objType = .channel) (endpoint : ℕ) :
    Ensures (Kept L k) (releaseEndpoint k i endpoint) := by
  refine .bind (dropEndpointRef_keeps h i endpoint) fun k1 ⟨hl1, hs1, hc1⟩ => ?_
  refine (reclaimChannel_keeps hl1 (hb.of_same hs1) fun _ => ?_).mono fun _ hk => .trans hc1 hk
  rw [(hs1.alike i).2.1]
  exact htype

/-! ### Close -/

lemma capabilityClose_drops (h : Good L k) (s : Slot) :
    Ensures (fun r => r = (.error .invalidHandle, k) ∨ Live k.entry s ∧
      r.1 = .ok ((k.entry s).objectIndex, (k.entry s).endpoint) ∧
      Dropped L k (k.entry s).objectIndex r.2) (capabilityCloseLocked k s) := by
  rcases capabilityClose_cases h.sound s with ⟨-, he⟩ | ⟨node, hs, -, he⟩
  · rw [he]; exact .inl rfl
  rw [he, if_pos (h.ledger.tallied.live_occupied hs)]
  exact .inr ⟨hs, rfl, dropHandle_drops h.ledger h.busy hs _ _ rfl⟩

/-- **A bare close** of a handle that is not the last reference. -/
lemma capabilityClose_keeps (h : Good L k) (s : Slot)
    (hrefs : Live k.entry s → ¬L (k.entry s).objectIndex →
      1 < (k.object (k.entry s).objectIndex).header.refCount) :
    Leaves (Kept L k) (capabilityCloseLocked k s) := by
  rcases capabilityClose_cases h.sound s with ⟨-, he⟩ | ⟨node, hs, -, he⟩
  · rw [he]; exact h.kept
  rw [he, if_pos (h.ledger.tallied.live_occupied hs)]
  have hd := dropHandle_drops h.ledger h.busy hs (update node s .empty) _ rfl
  refine ⟨hd.ledger, hd.busy.busy fun _ hl => ?_, hd.carries⟩
  have hlt := hrefs hs hl
  rw [hd.refCount]
  omega

lemma closeAndReclaim_keeps (h : Good L k) (s : Slot) :
    Leaves (Kept L k) (closeAndReclaimCapabilityLocked k s) := by
  refine .bind (capabilityClose_drops h s) fun ⟨res, k1⟩ hr => ?_
  rcases hr with hr | ⟨hs, hres, hd⟩
  · cases hr
    exact h.kept
  subst hres
  have hocc : (k1.object (k.entry s).objectIndex).occupied :=
    (hd.alike _).1.trans (h.ledger.tallied.live_occupied hs)
  simp only [hocc, if_true]
  split
  next htype =>
    exact .bind (releaseEndpoint_keeps hd.ledger hd.busy htype _) fun _ hk =>
      .trans hd.carries hk
  next htype =>
    exact .bind (reclaimShm_keeps hd.ledger hd.busy fun _ _ => .inl htype)
      fun _ hk => .trans hd.carries hk
  rename_i hc hm
  rcases hd.ledger.kinds.objType _ hocc with ht | ht
  · exact absurd ht hc
  · exact absurd ht hm

/-! ### Installation and transfer -/

/-- What the installation of a handle for the object `i` in the slot `s` leaves. -/
structure Installed (L : ObjIdx → Prop) (k : Kernel) (s : Slot) (i : ObjIdx)
    (r : Except IpcError Handle × Kernel) :
    Prop where
  handle : r.1 = .ok (Handle.new (BitVec.ofNat 16 s.2) (r.2.entry s).handleGeneration)
  live : Live r.2.entry s
  target : (r.2.entry s).objectIndex = i
  object : r.2.object = withHeader k.object i
    { (k.object i).header with handleRefs := (k.object i).header.handleRefs + 1 }
  kept : Kept L k r.2

/-- **Counting a new handle**: the counter has room for every handle there is. -/
lemma addHandleRef_keeps (h : Ledger k) (hb : BusyBut L k i) (hi : (k.object i).occupied)
    {s : Slot} (hs : ¬Live k.entry s) {e : HandleEntry} (he : e.occupied)
    (hei : e.objectIndex = i) (heg : e.objectGeneration = (k.object i).generation) {k₁ : Kernel}
    (hentry : k₁.entry = update k.entry s e)
    (hcount : k₁.count = update k.count s.1 (k.count s.1 + 1))
    (ho : k₁.object = k.object) (hm : k₁.mapping = k.mapping) (hp : k₁.threadIpc = k.threadIpc)
    (hsat : k₁.saturated = k.saturated) (hch : k₁.channel = k.channel)
    (hth : k₁.thread = k.thread) : Ensures (Installed L k s i) (addHandleRef k₁ i s) := by
  have hroom : (k₁.object i).header.handleRefs ≠ 2 ^ 16 - 1 := by
    have hle : refs handleTarget k.entry i ≤ _ := refs_le i
    rw [card_slot] at hle
    have heq := h.tallied.handles i
    simp only at heq
    rw [ho, heq]
    unfold maxCapabilityNodes at hle
    omega
  obtain ⟨header, hheader⟩ : ∃ header, header =
    { (k.object i).header with handleRefs := (k.object i).header.handleRefs + 1 } := ⟨_, rfl⟩
  have hself : k₁.entry s = e := by rw [hentry, update_self]
  unfold addHandleRef
  rw [if_neg hroom, ho, ← hheader]
  have ha : Alike k.object (withHeader k.object i header) := alike_withHeader k.object i header
  have ht : Tallied { k₁ with object := withHeader k.object i header } :=
    h.tallied.fill hi hs he hei heg hentry hcount (by rw [hheader]) hm hp hsat
  refine ⟨rfl, ?_, ?_, by rw [← hheader]; rfl,
    ⟨⟨ht, h.kinds.of_alike ha ?_ ?_, h.queued.mono ?_ ?_⟩, ?_, ?_⟩⟩
  · change (k₁.entry s).occupied = true
    rw [hself, he]
  · rw [hself, hei]
  · rw [hm]; exact h.kinds.mapping
  · rw [hp]; exact h.kinds.pin
  · intro c
    rw [hch]
  · intro c t _ hw
    exact hw.of_alike ha (by rw [hth]) (by rw [hp])
  · intro j hj hl
    by_cases hji : j = i
    · subst hji
      change (withHeader k.object j header j).header.refCount ≠ 0
      rw [withHeader_self, hheader]
      unfold KernelObjectHeader.refCount
      simp only
      omega
    change (withHeader k.object i header j).occupied = true at hj
    change (withHeader k.object i header j).header.refCount ≠ 0
    rw [withHeader_of_ne _ _ hji] at hj ⊢
    exact hb j hji hj hl
  · exact .of_thread hth hp fun j => (ha j).2.2.2

/-- **A root handle** for the object, which may be its first reference. -/
lemma installRoot_keeps (h : Ledger k) (hb : BusyBut L k i) (s : Slot)
    (rights : Rights) (endpoint : ℕ) :
    Ensures (fun r => (∃ e, r = (.error e, k)) ∨ Installed L k s i r)
      (installRootCapabilityLocked k s i rights endpoint) := by
  rcases installRoot_cases k s i rights endpoint with
    ⟨e, he⟩ | he | ⟨id, hi, hs, he⟩
  · rw [he]; exact .inl ⟨e, rfl⟩
  · rw [he]; trivial
  rw [he]
  refine (addHandleRef_keeps h hb hi hs
    (e := { objectIndex := i, handleGeneration := (k.entry s).handleGeneration,
            objectGeneration := (k.object i).generation, rights := rights, endpoint := endpoint,
            occupied := true }) rfl rfl rfl ?_ ?_ ?_ ?_ ?_ ?_ ?_ ?_).mono fun r hr => .inr hr
  all_goals rfl

section

variable (h : Good L k)

include h

/-- **A derived handle.** -/
lemma installDerived_keeps (d q : Slot) (rights : Rights) :
    Leaves (Kept L k) (installDerivedCapabilityLocked k d q rights) := by
  rcases installDerived_cases k d q rights with
    ⟨e, -, he⟩ | ⟨-, he⟩ | ⟨hq, -, hd, he⟩
  · rw [he]; exact h.kept
  · rw [he]; trivial
  rw [he]
  refine (addHandleRef_keeps h.ledger (h.busy.but _) hq.object hd
    (e := { objectIndex := (k.entry q).objectIndex,
            handleGeneration := (k.entry d).handleGeneration,
            objectGeneration := (k.entry q).objectGeneration, rights := rights,
            endpoint := (k.entry q).endpoint, occupied := true })
    rfl rfl hq.generation.symm ?_ ?_ ?_ ?_ ?_ ?_ ?_ ?_).mono fun r hr => hr.kept
  all_goals rfl

lemma capabilityDerive_keeps (p : PSlot) (hd : Handle) (rights : Rights) :
    Leaves (Kept L k) (capabilityDerive k p hd rights) := by
  unfold capabilityDerive
  split
  · split
    · exact h.kept
    · exact installDerived_keeps h _ _ _
  · exact h.kept

lemma capabilityDuplicate_keeps (p : PSlot) (hd : Handle) :
    Leaves (Kept L k) (capabilityDuplicate k p hd) := by
  unfold capabilityDuplicate
  split
  · simp only
    iterate 2
      split
      · exact h.kept
    · exact installDerived_keeps h _ _ _
  · exact h.kept

lemma transferDelegate_keeps (src : Slot) (dst : PSlot) (rights : Rights) :
    Leaves (Kept L k) (transferDelegateLocked k src dst rights) := by
  unfold transferDelegateLocked
  simp only
  iterate 7
    split
    · exact h.kept
  exact installDerived_keeps h _ src rights

/-- **A moved handle.** -/
lemma installMoved_keeps (d x : Slot) (id : ℕ) :
    Leaves (Kept L k) (installMovedCapabilityLocked k d x id) := by
  rcases installMoved_cases h.sound d x id with he | ⟨node, hx, hd, -, he⟩
  · rw [he]; trivial
  rw [he]
  have hxd : x ≠ d := fun e => hd (e ▸ hx)
  refine ⟨⟨h.ledger.tallied.move hx hd (e :=
          { objectIndex := (k.entry x).objectIndex,
            handleGeneration := (k.entry d).handleGeneration,
            objectGeneration := (k.entry x).objectGeneration, rights := (k.entry x).rights,
            endpoint := (k.entry x).endpoint, occupied := true })
    rfl rfl rfl ?_ rfl rfl rfl rfl rfl,
    h.ledger.kinds.of_alike (.refl _) h.ledger.kinds.mapping h.ledger.kinds.pin,
    h.ledger.queued.mono (fun _ => .refl _) fun _ _ _ hw => hw.of_alike (.refl _) rfl rfl⟩,
    h.busy, .of_thread rfl rfl fun _ => rfl⟩
  simp only [plantMoved, incrCount, invalidate, fillEntry, update_of_ne hxd]

lemma transferMove_keeps (src : Slot) (dst : PSlot) :
    Leaves (Kept L k) (transferMoveLocked k src dst) := by
  rcases transferMove_cases k src dst with ⟨e, he⟩ | ⟨d, id, he⟩
  · rw [he]; exact h.kept
  rw [he]
  have ht : Good L (takeId k) :=
    ⟨h.sound, h.ledger.of_same (.of_object rfl rfl rfl rfl rfl rfl) (fun _ => .refl _)
      fun _ _ _ => rfl, h.busy⟩
  have hc : Carries k (takeId k) := .of_thread rfl rfl fun _ => rfl
  exact (installMoved_keeps ht _ src id).mono fun r hr => .trans hc hr

/-! ### Revocation -/

lemma kept_detached (x : Slot) : Kept L k (detached k x) :=
  ⟨h.ledger.of_same (.of_object rfl rfl rfl rfl rfl rfl) (fun _ => .refl _) fun _ _ _ => rfl, h.busy,
    .of_thread rfl rfl fun _ => rfl⟩

lemma revokeTree_keeps {x : Slot} (hx : Live k.entry x) :
    Leaves (Kept L k) (revokeDescendantsTreeLocked k x) := by
  refine (revokeTree_spec (Q := fun _ k' => Kept L k k') h.sound.forest hx (kept_detached h x)
    ?_).mono fun r hr => ?_
  · intro dn c k' hP hk hc hcd
    have hlive := hP.live hc hcd
    rw [← hP.entry_out c hcd]
    exact (releaseRevoked_keeps hk.ledger hk.busy hlive).mono fun _ hk' => .trans hk.carries hk'
  obtain ⟨-, -, -, -, hk, -⟩ := hr
  exact hk

lemma revokeDescendants_keeps (s : Slot) :
    Leaves (Kept L k) (capabilityRevokeDescendantsLocked k s) := by
  unfold capabilityRevokeDescendantsLocked
  split
  · exact h.kept
  rename_i hs
  split
  · exact h.kept
  split
  · exact h.kept
  have hlive : Live k.entry s := by simpa [Live] using hs
  exact .bind (revokeTree_keeps h hlive) fun _ hk => hk

end

/-! ### Channels -/

/-- The pin of a thread that does not sleep changes, with the header of one object. -/
lemma Ledger.repin {k' : Kernel} {t : TSlot} {p : ThreadIpcState} {header : KernelObjectHeader}
    (h : Ledger k) (hrun : (k.thread t).state ≠ .blocked) (htally : Tallied k')
    (ho : k'.object = withHeader k.object i header) (hp : k'.threadIpc = update k.threadIpc t p)
    (htype : p.occupied → (k.object p.objectIndex).objType = .channel)
    (hm : k'.mapping = k.mapping) (hc : k'.channel = k.channel) (ht : k'.thread = k.thread) :
    Ledger k' ∧ CarriesBut t k k' := by
  have ha : Alike k.object k'.object := ho ▸ alike_withHeader k.object i header
  have hother : ∀ u ≠ t, k'.threadIpc u = k.threadIpc u := fun u hu => by
    rw [hp, update_of_ne hu]
  refine ⟨⟨htally, h.kinds.of_alike ha (by rw [hm]; exact h.kinds.mapping) fun u hu => ?_,
    h.queued.mono (by rw [hc]; exact fun _ => .refl _) fun c u _ hw => ?_⟩,
    ⟨fun u => by rw [ht], fun u => by rw [ht], fun u _ hb => by rw [ht]; exact hb,
      fun u _ hact => ?_, fun u hu _ j c hpin => ?_⟩⟩
  · by_cases hut : u = t
    · subst hut
      rw [hp, update_self] at hu ⊢
      exact htype hu
    rw [hother u hut] at hu ⊢
    exact h.kinds.pin u hu
  · have hut : u ≠ t := by
      rintro rfl
      exact hrun hw.blocked
    exact hw.of_alike ha (by rw [ht]) (hother u hut)
  · unfold Active at hact ⊢
    rwa [ht] at hact
  exact ⟨by rw [hother u hu]; exact hpin.occupied, by rw [hother u hu]; exact hpin.object,
    by rw [(ha j).2.2.2]; exact hpin.channel⟩

lemma dropPin_drops (h : Ledger k) (hb : Busy L k) {t : TSlot}
    (ht : (k.threadIpc t).occupied) (hi : (k.threadIpc t).objectIndex = i)
    (hrun : (k.thread t).state ≠ .blocked) :
    Ledger (dropPin k t i) ∧ BusyBut L (dropPin k t i) i ∧ CarriesBut t k (dropPin k t i) ∧
      Alike k.object (dropPin k t i).object := by
  obtain ⟨hl, hc⟩ : Ledger (dropPin k t i) ∧ CarriesBut t k (dropPin k t i) := Ledger.repin h hrun
    (h.tallied.unpin ht hi rfl rfl rfl rfl rfl rfl) rfl rfl nofun rfl rfl rfl
  refine ⟨hl, fun j hj ho => ?_, hc, alike_withHeader k.object i _⟩
  have hsame : (dropPin k t i).object j = k.object j := withHeader_of_ne k.object _ hj
  rw [hsame] at ho ⊢
  exact hb j ho

lemma releaseInFlightPin_keeps (h : Ledger k) (hb : Busy L k) {t : TSlot}
    (hi : (k.threadIpc t).occupied → (k.threadIpc t).objectIndex = i)
    (hrun : (k.thread t).state ≠ .blocked) :
    Ensures (KeptBut L t k) (releaseInFlightPinLocked k t i) := by
  unfold releaseInFlightPinLocked
  split
  next hocc =>
    obtain ⟨hl, hbut, hcar, ha⟩ := dropPin_drops h hb hocc (hi hocc) hrun
    refine (reclaimChannel_keeps hl hbut fun _ => ?_).mono fun k' hk =>
      .trans hcar ⟨hk.ledger, hk.busy, hk.carries.but t⟩
    rw [(ha i).2.1, ← hi hocc]
    exact h.kinds.pin t hocc
  · exact ⟨h, hb, (Carries.refl k).but t⟩

end ProjectZero.Ipc.Keeping
