import ProjectZero.Cap.Authority
import ProjectZero.Ipc.Footprint
import ProjectZero.Task.Exit

/-! # Exact reference accounting

The counters of kernel objects and of processes over whole runs of the system. They are exact in
every state, as long as no step drops the last reference of an object without the check for the type
of the object. -/

namespace ProjectZero.Task.Accounting

open Lib.Count Lib.Run Tables Cap.Ops Cap.RevokeLoop Cap.Calls Ipc.Object Ipc.Queues Ipc.Accounts
open Ipc.Keeping Ipc.Traffic Ipc.Channel Ipc.Handle Ipc.Steps Ipc.Footprint Lifecycle Exit

variable {L : ObjIdx → Prop} {σ : System}

/-! ### The invariant -/

/-- What the steps keep: the tables are in order, a thread that lives has a descriptor, and a call
that goes on later holds its pin. -/
structure Orderly (L : ObjIdx → Prop) (σ : System) : Prop where
  good : Good L σ.kernel
  occupied : ∀ t, Active σ.kernel t → (σ.kernel.thread t).occupied
  pinned : ∀ t c, σ.pending t = some c → Active σ.kernel t → Pinned σ.kernel t c.object c.channel

lemma ledger_boot (pmm : Pmm) (geometry : AddressSpaceGeometry)
    (pageTable : PhysFrame → PageTable) (thread : TSlot → KernelThread)
    (process : PSlot → ProcessSlot) :
    Ledger (Kernel.boot pmm geometry pageTable thread process) where
  tallied :=
    { handles := fun i => (refs_eq_zero.mpr fun s => by simp [Kernel.boot, handleTarget,
        HandleEntry.empty]).symm
      mappings := fun i => (refs_eq_zero.mpr fun j => by simp [Kernel.boot, mappingTarget,
        ShmMapping.empty]).symm
      pins := fun i => (refs_eq_zero.mpr fun t => by simp [Kernel.boot, pinTarget]).symm
      owned := fun p => (refs_eq_zero.mpr fun s => by simp [Kernel.boot, handleOwner,
        HandleEntry.empty]).symm
      vacant := fun _ _ => rfl
      handleGen := fun s hs => by simp [Kernel.boot, Live, HandleEntry.empty] at hs
      mappingGen := fun j hj => by simp [Kernel.boot, ShmMapping.empty] at hj
      unsaturated := rfl }
  kinds :=
    { objType := fun i hi => by simp [Kernel.boot, KernelObjectSlot.empty] at hi
      mapping := fun j hj => by simp [Kernel.boot, ShmMapping.empty] at hj
      pin := fun t ht => by simp [Kernel.boot] at ht
      pool := fun i j hi => by simp [Kernel.boot, KernelObjectSlot.empty] at hi }
  queued :=
    { nodup := fun c => by simp [Kernel.boot]
      waits := fun c t ht => by simp [Kernel.boot] at ht }

lemma orderly_boot (h : Boot σ) : Orderly L σ := by
  refine ⟨⟨?_, ?_, ?_⟩, fun t ht => h.thread t ht, fun t c hc => ?_⟩
  · refine Cap.Authority.boot_sound ⟨fun s => ?_, fun s => ?_⟩
    · rw [h.kernel]; rfl
    · rw [h.kernel]; rfl
  · rw [h.kernel]
    exact ledger_boot _ _ _ _ _
  · intro i hi
    rw [h.kernel] at hi
    simp [Kernel.boot, KernelObjectSlot.empty] at hi
  rw [h.pending t] at hc
  cases hc

lemma Orderly.only {α : Type} (h : Orderly L σ) {x : Except Halt (α × Kernel)}
    (hx : Leaves (Fine L σ.kernel) x) : Leaves (Orderly L) (σ.only x) := by
  refine .bind hx fun r hr => ⟨hr.good, fun t ht => ?_, fun t c hc ht => ?_⟩
  · have hocc : (r.2.thread t).occupied = (σ.kernel.thread t).occupied := hr.carries.occupied t
    exact hocc.trans (h.occupied t (hr.carries.active t trivial ht))
  · exact hr.carries.pinned t trivial ht _ _ (h.pinned t c hc (hr.carries.active t trivial ht))

/-- A stretch of a send or receive by a thread that runs. -/
lemma Orderly.settle (h : Orderly L σ) {t : TSlot} (ht : Active σ.kernel t)
    {x : Except Halt (Progress × Kernel)} (hm : Leaves (Moves (Eq .traffic) σ.kernel) x)
    (hx : Ensures (Stretch L t σ.kernel) x) : Leaves (Orderly L) (σ.settle t x) := by
  refine .bind (hx.and hm) fun ⟨r, k'⟩ ⟨⟨hk, hasleep⟩, hm⟩ => ?_
  have hgood : Good L k' := ⟨sound_of_moves h.good.sound hm, hk.ledger, hk.busy⟩
  have hocc : ∀ u, Active k' u → (k'.thread u).occupied := fun u hu => by
    rw [hk.carries.occupied u]
    by_cases hut : u = t
    · subst hut; exact h.occupied u ht
    · exact h.occupied u (hk.carries.active u hut hu)
  have hother : ∀ u c, u ≠ t → σ.pending u = some c → Active k' u →
      Pinned k' u c.object c.channel := fun u c hut hc hu =>
    hk.carries.pinned u hut hu _ _ (h.pinned u c hc (hk.carries.active u hut hu))
  have hnone : ∀ u c, update σ.pending t none u = some c → Active k' u →
      Pinned k' u c.object c.channel := fun u c hc hu => by
    by_cases hut : u = t
    · subst hut
      rw [update_self] at hc
      cases hc
    rw [update_of_ne hut] at hc
    exact hother u c hut hc hu
  cases r with
  | failed | completed => exact ⟨hgood, hocc, hnone⟩
  | asleep c =>
    refine ⟨hgood, hocc, fun u c' hc hu => ?_⟩
    by_cases hut : u = t
    · subst hut
      simp only [update_self, Option.some.injEq] at hc
      subst hc
      exact hasleep c rfl
    simp only [update_of_ne hut] at hc
    exact hother u c' hut hc hu

lemma Orderly.switch (h : Orderly L σ) {t : TSlot} {st : ThreadState}
    (ht : Active σ.kernel t) (hb : (σ.kernel.thread t).state ≠ .blocked) (hst : st ≠ .blocked) :
    Orderly L { σ with kernel := setThreadState σ.kernel t st } := by
  have hc : Carries σ.kernel (setThreadState σ.kernel t st) :=
    carries_setThreadState ht fun _ _ => hst
  refine ⟨⟨h.good.sound, setThreadState_ledger h.good.ledger st (not_queued h.good.ledger hb),
    h.good.busy⟩, fun u hu => ?_, fun u c hp hu => ?_⟩
  · exact (hc.occupied u).trans (h.occupied u (hc.active u trivial hu))
  · exact hc.pinned u trivial hu _ _ (h.pinned u c hp (hc.active u trivial hu))

/-! ### The steps -/

/-- No step drops the last reference of an object without the check for its type: `shm_close` is
called for shared memory, or for a channel that has another reference, and the bare close of a
capability leaves a reference. -/
def Checked (σ : System) : Op → Prop
  | .call t (.shmClose h) => ∀ p s,
      resolveCurrentProcessSlot σ.kernel (σ.kernel.thread t).processId = .ok p →
      Denotes σ.kernel p h s →
      (σ.kernel.object (σ.kernel.entry s).objectIndex).objType = .shmObject ∨
        1 < (σ.kernel.object (σ.kernel.entry s).objectIndex).header.refCount
  | .close s => Live σ.kernel.entry s →
      1 < (σ.kernel.object (σ.kernel.entry s).objectIndex).header.refCount
  | _ => True

instance (σ : System) (op : Op) : Decidable (Checked σ op) := by
  unfold Checked
  split <;> infer_instance

lemma syscall_orderly (h : Orderly L σ) {t : TSlot} (ht : (σ.kernel.thread t).state = .running)
    {c : Syscall} (hc : (∀ i, L i) ∨ Checked σ (.call t c)) : Leaves (Orderly L) (c.exec σ t) := by
  have hact : Active σ.kernel t := .inr (.inr ht)
  have hawake : (σ.kernel.thread t).state ≠ .blocked := by rw [ht]; simp
  cases c with
  | channelCreate => exact h.only (channelCreate_fine h.good t)
  | channelSend | channelReceive =>
    exact h.settle hact (channelCall_moves rfl _ t _ _ _)
      (channelCall_keeps h.good.ledger h.good.busy hawake _ _ _)
  | channelClose hd => exact h.only (channelClose_fine h.good t hd)
  | shmCreate n => exact h.only (shmCreate_fine h.good t n)
  | shmMap hd vaddr writable => exact h.only (shmMap_fine h.good t hd vaddr writable)
  | shmUnmap hd vaddr => exact h.only (shmUnmap_fine h.good t hd vaddr)
  | shmClose hd => exact h.only (shmClose_fine h.good t hd fun p s hp hden hl =>
      (hc.resolve_left fun hall => hl (hall _)) p s hp hden)
  | derive hd rights =>
    exact h.only (ensures_asProcess (.refl h.good) fun p => fine_of
      (capabilityDerive_safe h.good.sound p hd _) (capabilityDerive_keeps h.good p hd rights))
  | duplicate hd =>
    exact h.only (ensures_asProcess (.refl h.good) fun p => fine_of
      (capabilityDuplicate_safe h.good.sound p hd) (capabilityDuplicate_keeps h.good p hd))
  | exit => exact h.only ((processExit_fine h.good h.occupied hawake).map fun _ hk => hk)

/-- **One step** keeps the tables in order, if every object may stay behind or the step leaves none
behind. -/
lemma exec_orderly (h : Orderly L σ) {op : Op} (hen : op.enabled σ)
    (hc : (∀ i, L i) ∨ Checked σ op) : Leaves (Orderly L) (op.exec σ) := by
  cases op with
  | call t c =>
    simp only [Op.enabled, Bool.and_eq_true, decide_eq_true_eq] at hen
    exact syscall_orderly h hen.1 hc
  | resume t =>
    have ht : (σ.kernel.thread t).state = .running := by simpa [Op.enabled] using hen
    have hact : Active σ.kernel t := .inr (.inr ht)
    simp only [Op.exec]
    split
    · exact h
    rename_i c hpend
    exact h.settle hact (resume_moves rfl _ t c) (resume_keeps ⟨h.good.ledger, h.good.busy,
      by rw [ht]; simp, h.pinned t c hpend hact⟩)
  | schedule t =>
    have ht : (σ.kernel.thread t).state = .ready := by simpa [Op.enabled] using hen
    exact h.switch (.inl ht) (by rw [ht]; simp) (by simp)
  | preempt t =>
    have ht : (σ.kernel.thread t).state = .running := by simpa [Op.enabled] using hen
    exact h.switch (.inr (.inr ht)) (by rw [ht]; simp) (by simp)
  | delegate src dst rights =>
    exact h.only (fine_of (transferDelegate_safe h.good.sound src dst rights)
      (transferDelegate_keeps h.good src dst rights))
  | move src dst =>
    exact h.only (fine_of (transferMove_safe h.good.sound src dst)
      (transferMove_keeps h.good src dst))
  | revoke s =>
    exact h.only (fine_of (revokeDescendants_safe h.good.sound s)
      (revokeDescendants_keeps h.good s))
  | close s =>
    exact h.only (fine_of (capabilityClose_safe h.good.sound s)
      (capabilityClose_keeps h.good s fun hs hl =>
        (hc.resolve_left fun hall => hl (hall _)) hs))
  | closeAndReclaim s => exact h.only (closeAndReclaim_fine h.good s)

/-- **Every run** whose steps leave no object behind, or every run if any object may stay behind. -/
lemma orderly_of_reach {C : System → Op → Prop}
    (hC : ∀ σ op, C σ op → (∀ i, L i) ∨ Checked σ op) (h : Reach Boot (Next C) σ) :
    Orderly L σ := by
  refine Reach.invariant (I := Orderly L) (fun _ hb => orderly_boot hb) (fun σ σ' ho hn => ?_) h
  obtain ⟨op, d, hc, hen, hex⟩ := hn
  exact (exec_orderly ho hen (hC _ _ hc)).of_ok hex

/-! ### Exact accounts -/

/-- The counters of the objects and processes are the numbers of entries they stand for, no
decrement has met a zero, and the objects are those something refers to. -/
structure Exact (k : Kernel) : Prop where
  handleRefs : ∀ i, (k.object i).occupied → (k.object i).header.handleRefs =
    (Finset.univ.filter fun s => (k.entry s).occupied ∧ (k.entry s).objectIndex = i ∧
      (k.entry s).objectGeneration = (k.object i).generation).card
  mappingRefs : ∀ i, (k.object i).occupied → (k.object i).header.mappingRefs =
    (Finset.univ.filter fun j => (k.mapping j).occupied ∧ (k.mapping j).objectIndex = i ∧
      (k.mapping j).objectGeneration = (k.object i).generation).card
  inFlightOpRefs : ∀ i, (k.object i).occupied → (k.object i).header.inFlightOpRefs =
    (Finset.univ.filter fun t => (k.threadIpc t).occupied ∧
      (k.threadIpc t).objectIndex = i).card
  count : ∀ p, k.count p = (Finset.univ.filter fun h => (k.entry (p, h)).occupied).card
  unsaturated : k.saturated = false
  freed : ∀ i, (k.object i).occupied = false ↔
    (∀ s, (k.entry s).occupied → (k.entry s).objectIndex ≠ i) ∧
    (∀ j, (k.mapping j).occupied → (k.mapping j).objectIndex ≠ i) ∧
    ∀ t, (k.threadIpc t).occupied → (k.threadIpc t).objectIndex ≠ i
  waiters : ∀ c, queued (k.channel c) ≠ [] →
    ∃ i, (k.object i).occupied ∧ (k.object i).objType = .channel ∧
      (k.object i).poolIndex = c

section Exact

variable {k : Kernel}

lemma handleTarget_iff (h : Tallied k) {i : ObjIdx} (s : Slot) :
    handleTarget s (k.entry s) = some i ↔ (k.entry s).occupied ∧
      (k.entry s).objectIndex = i ∧ (k.entry s).objectGeneration = (k.object i).generation := by
  unfold handleTarget
  constructor
  · intro hs
    split at hs
    next hocc =>
      cases hs
      exact ⟨hocc, rfl, h.handleGen s hocc⟩
    · cases hs
  rintro ⟨hocc, rfl, -⟩
  rw [if_pos hocc]

lemma mappingTarget_iff (h : Tallied k) {i : ObjIdx} (j : Fin 64) :
    mappingTarget j (k.mapping j) = some i ↔ (k.mapping j).occupied ∧
      (k.mapping j).objectIndex = i ∧ (k.mapping j).objectGeneration = (k.object i).generation := by
  unfold mappingTarget
  constructor
  · intro hs
    split at hs
    next hocc =>
      cases hs
      exact ⟨hocc, rfl, h.mappingGen j hocc⟩
    · cases hs
  rintro ⟨hocc, rfl, -⟩
  rw [if_pos hocc]

lemma pinTarget_iff {i : ObjIdx} (t : TSlot) :
    pinTarget t (k.threadIpc t) = some i ↔
      (k.threadIpc t).occupied ∧ (k.threadIpc t).objectIndex = i := by
  simp [pinTarget]

lemma owned_eq_card (p : PSlot) : refs handleOwner k.entry p =
    (Finset.univ.filter fun h => (k.entry (p, h)).occupied).card := by
  refine (Finset.card_bij (fun h _ => (p, h)) (fun h hh => ?_) (fun a _ b _ e => ?_)
    fun s hs => ?_).symm
  · simpa [handleOwner] using hh
  · exact congrArg Prod.snd e
  have howner := (Finset.mem_filter.mp hs).2
  unfold handleOwner at howner
  split at howner
  next hocc =>
    cases howner
    exact ⟨s.2, by simpa using hocc, rfl⟩
  · cases howner

lemma Good.exact (h : Good (fun _ => False) k) : Exact k := by
  have ht := h.ledger.tallied
  refine ⟨fun i _ => ?_, fun i _ => ?_, fun i _ => ?_, fun p => ?_, ht.unsaturated,
    fun i => ⟨fun hi => ht.unnamed (ht.vacant i hi), fun hno => ?_⟩, fun c hc => ?_⟩
  · exact (ht.handles i).trans (refs_eq_card (handleTarget_iff ht))
  · exact (ht.mappings i).trans (refs_eq_card (mappingTarget_iff ht))
  · exact (ht.pins i).trans (refs_eq_card pinTarget_iff)
  · exact (ht.owned p).trans (owned_eq_card p)
  · -- an object without references would have been freed
    obtain ⟨hh, hm, hp⟩ := hno
    by_contra hocc
    refine h.busy i (by simpa using hocc) id ?_
    have h1 : (k.object i).header.handleRefs = 0 := (ht.handles i).trans
      (refs_eq_zero.mpr fun s e => hh s ((handleTarget_iff ht s).mp e).1
        ((handleTarget_iff ht s).mp e).2.1)
    have h2 : (k.object i).header.mappingRefs = 0 := (ht.mappings i).trans
      (refs_eq_zero.mpr fun j e => hm j ((mappingTarget_iff ht j).mp e).1
        ((mappingTarget_iff ht j).mp e).2.1)
    have h3 : (k.object i).header.inFlightOpRefs = 0 := (ht.pins i).trans
      (refs_eq_zero.mpr fun t e => hp t ((pinTarget_iff t).mp e).1 ((pinTarget_iff t).mp e).2)
    unfold KernelObjectHeader.refCount
    rw [h1, h2, h3]
  obtain ⟨t, hmem⟩ := List.exists_mem_of_ne_nil _ hc
  have hw := h.ledger.queued.waits c t hmem
  exact ⟨_, ht.occupied_of_ne (refCount_ne_of_pin ht hw.pinned), h.ledger.kinds.pin t hw.pinned,
    hw.channel⟩

end Exact

/-- **The accounts are exact** in every state of a run that checks what it closes. -/
theorem accounts_exact (h : Reach Boot (Next Checked) σ) : Exact σ.kernel :=
  Good.exact (orderly_of_reach (fun _ _ hc => .inr hc) h).good

/-- A channel and a mapped shared-memory object whose handle is closed. -/
theorem accounts_exact_mapped : ∃ σ, Reach Boot (Next Checked) σ ∧ Exact σ.kernel ∧
    (σ.kernel.object 0).header.handleRefs = 2 ∧ (σ.kernel.object 1).occupied = true ∧
    (σ.kernel.object 1).header.handleRefs = 0 ∧ (σ.kernel.object 1).header.mappingRefs = 1 := by
  refine (exists_reach boot_twoProcesses [.call 1 .channelCreate, .call 1 (.shmCreate 2),
    .call 1 (.shmMap (Handle.new 2 1) 0x400000 true), .call 1 (.shmClose (Handle.new 2 1))]
    ?_).imp fun σ h => ⟨h.1, accounts_exact h.1, h.2⟩
  decide +kernel

/-- **A leaked channel**: both handles are closed with `shm_close`, whose check is for shared memory,
and the object stays although nothing refers to it. -/
theorem channel_leaked : ∃ σ, Reach Boot (Next fun _ _ => True) σ ∧
    (σ.kernel.object 0).occupied = true ∧ (σ.kernel.object 0).objType = .channel ∧
    (∀ s, (σ.kernel.entry s).occupied = false) ∧ (∀ j, (σ.kernel.mapping j).occupied = false) ∧
    ∀ t, (σ.kernel.threadIpc t).occupied = false :=
  exists_reach boot_twoProcesses [.call 1 .channelCreate, .call 1 (.shmClose (Handle.new 0 1)),
    .call 1 (.shmClose (Handle.new 1 1))] (by decide +kernel)

/-! ### Every run -/

section

variable {σ : System} (h : Reach Boot (Next fun _ _ => True) σ)

include h

lemma good_of_run : Good (fun _ => True) σ.kernel :=
  (orderly_of_reach (fun _ _ _ => .inl fun _ => trivial) h).good

/-- **Nothing dangles**: the objects that handles, mappings and calls in flight name are there. -/
theorem nothing_dangles :
    (∀ s, (σ.kernel.entry s).occupied → (σ.kernel.object (σ.kernel.entry s).objectIndex).occupied) ∧
      (∀ j, (σ.kernel.mapping j).occupied →
        (σ.kernel.object (σ.kernel.mapping j).objectIndex).occupied) ∧
      (∀ t, (σ.kernel.threadIpc t).occupied →
        (σ.kernel.object (σ.kernel.threadIpc t).objectIndex).occupied) ∧
      Kinds σ.kernel := by
  have hl := (good_of_run h).ledger
  have ht := hl.tallied
  exact ⟨fun _ hs => ht.occupied_of_ne (refCount_ne_of_live ht hs),
    fun _ hj => ht.occupied_of_ne (refCount_ne_of_mapping ht hj),
    fun _ hp => ht.occupied_of_ne (refCount_ne_of_pin ht hp), hl.kinds⟩

/-- **The counters do not drift**, even where an object is leaked. -/
theorem tallied_of_run : Tallied σ.kernel := (good_of_run h).ledger.tallied

/-- **The tree of capabilities** stays well formed, whatever is called. -/
theorem sound_of_run : Sound σ.kernel := (good_of_run h).sound

/-- **A thread waits once**, in one queue of one channel. -/
theorem waits_once :
    (∀ c, (queued (σ.kernel.channel c)).Nodup) ∧ Pairwise fun c c' =>
      (queued (σ.kernel.channel c)).Disjoint (queued (σ.kernel.channel c')) := by
  obtain ⟨hn, hw⟩ := (good_of_run h).ledger.queued
  exact ⟨hn, fun c c' hne t h h' => hne ((hw c t h).channel.symm.trans (hw c' t h').channel)⟩

end

/-- A channel with an end that the second process got, and a thread that waits at the other end. -/
def Shared (σ : System) : Prop :=
  Reach Boot (Next fun _ _ => True) σ ∧ (σ.kernel.entry (2, 0)).occupied = true ∧
    (σ.kernel.threadIpc 1).occupied = true ∧ queued (σ.kernel.channel 0) = [1]

lemma exists_shared : ∃ σ, Shared σ :=
  exists_reach boot_twoProcesses [.call 1 .channelCreate, .delegate (1, 0) 2 0x0003#16,
    .call 1 (.channelReceive (Handle.new 0 1) true)] (by decide +kernel)

theorem nothing_dangles_shared : ∃ σ, Shared σ ∧
    (∀ s, (σ.kernel.entry s).occupied → (σ.kernel.object (σ.kernel.entry s).objectIndex).occupied) ∧
    Kinds σ.kernel := by
  obtain ⟨σ, hσ⟩ := exists_shared
  exact ⟨σ, hσ, (nothing_dangles hσ.1).1, (nothing_dangles hσ.1).2.2.2⟩

theorem tallied_of_run_shared : ∃ σ, Shared σ ∧ Tallied σ.kernel := by
  obtain ⟨σ, hσ⟩ := exists_shared
  exact ⟨σ, hσ, tallied_of_run hσ.1⟩

theorem sound_of_run_shared : ∃ σ, Shared σ ∧ Sound σ.kernel := by
  obtain ⟨σ, hσ⟩ := exists_shared
  exact ⟨σ, hσ, sound_of_run hσ.1⟩

theorem waits_once_shared : ∃ σ, Shared σ ∧ ∀ c, (queued (σ.kernel.channel c)).Nodup := by
  obtain ⟨σ, hσ⟩ := exists_shared
  exact ⟨σ, hσ, (waits_once hσ.1).1⟩

/-! ### Refused operations -/

/-- If the operation returns an error, the tables are as they were. -/
def Atomic (k : Kernel) (x : Outcome Handle) : Prop := ∀ e k', x = .ok (.error e, k') → k' = k

variable {k : Kernel}

lemma atomic_fail (e : IpcError) : Atomic k (fail e k) := by
  rintro _ _ ⟨⟩
  rfl

/-- Only the count of the object could fail after the destination is written, and it is no larger
than the handle tables are. -/
lemma installDerived_atomic (h : Tallied k) (d q : Slot) (rights : Rights) :
    Atomic k (installDerivedCapabilityLocked k d q rights) := by
  rcases installDerived_cases k d q rights with
    ⟨e, -, he⟩ | ⟨-, he⟩ | ⟨-, -, -, he⟩
  · rw [he]
    exact atomic_fail e
  · rw [he]
    exact nofun
  have hle : (k.object (k.entry q).objectIndex).header.handleRefs ≤ 512 :=
    (h.handles _).trans_le ((refs_le _).trans card_slot.le)
  have hne : (k.object (k.entry q).objectIndex).header.handleRefs ≠ 2 ^ 16 - 1 := by omega
  rw [he, addHandleRef]
  exact (if_neg hne).symm ▸ nofun

lemma transferMove_atomic (h : Sound k) (src : Slot) (dst : PSlot) :
    Atomic k (transferMoveLocked k src dst) := by
  rcases transferMove_cases k src dst with ⟨e, he⟩ | ⟨d, id, he⟩
  · rw [he]
    exact atomic_fail e
  rw [he]
  rcases installMoved_cases (k := takeId k) h (dst, d) src id with
    he | ⟨node, -, -, -, he⟩
  · rw [he]
    exact nofun
  rw [he]
  exact nofun

lemma asProcess_atomic (t : TSlot) {f : PSlot → Outcome Handle} (hf : ∀ p, Atomic k (f p)) :
    Atomic k (asProcess k t f) := by
  unfold asProcess
  split
  · exact atomic_fail _
  · exact hf _

/-- **Capability operations are all or nothing** in every state of every run. -/
theorem refused_unchanged (h : Reach Boot (Next fun _ _ => True) σ) :
    (∀ d q rights, Atomic σ.kernel (installDerivedCapabilityLocked σ.kernel d q rights)) ∧
    (∀ src dst, Atomic σ.kernel (transferMoveLocked σ.kernel src dst)) ∧
    (∀ src dst rights, Atomic σ.kernel (transferDelegateLocked σ.kernel src dst rights)) ∧
    (∀ t hd rights, Atomic σ.kernel
      (asProcess σ.kernel t fun p => capabilityDerive σ.kernel p hd rights)) ∧
    ∀ t hd, Atomic σ.kernel (asProcess σ.kernel t fun p => capabilityDuplicate σ.kernel p hd) := by
  have hg := (orderly_of_reach (L := fun _ => True) (fun _ _ _ => .inl fun _ => trivial) h).good
  have hd := installDerived_atomic hg.ledger.tallied
  refine ⟨hd, transferMove_atomic hg.sound, fun src dst rights => ?_,
    fun t h rights => asProcess_atomic t fun p => ?_, fun t h => asProcess_atomic t fun p => ?_⟩
  · unfold transferDelegateLocked
    simp only
    iterate 7
      split
      · exact atomic_fail _
    exact hd _ src rights
  · unfold capabilityDerive
    split
    · split
      · exact atomic_fail _
      · exact hd _ _ rights
    · exact atomic_fail _
  unfold capabilityDuplicate
  simp only
  split
  · iterate 2
      split
      · exact atomic_fail _
    exact hd _ _ _
  · exact atomic_fail _

/-- The delegation of a channel with more rights than its owner has. -/
theorem refused_unchanged_amplified : ∃ σ, Reach Boot (Next fun _ _ => True) σ ∧
    (σ.kernel.entry (1, 0)).occupied = true ∧ (σ.kernel.entry (1, 0)).rights ≠ 0xffff#16 ∧
    ∃ k', transferDelegateLocked σ.kernel (1, 0) 2 0xffff#16 =
      .ok (.error .rightsAmplificationRejected, k') ∧ k' = σ.kernel := by
  obtain ⟨σ, hreach, hocc, hne, hx⟩ := exists_reach (C := fun _ _ => True)
    (Q := fun σ => (σ.kernel.entry (1, 0)).occupied = true ∧
      (σ.kernel.entry (1, 0)).rights ≠ 0xffff#16 ∧
      (transferDelegateLocked σ.kernel (1, 0) 2 0xffff#16).toOption.any
        fun r => decide (r.1 = .error .rightsAmplificationRejected))
    boot_twoProcesses [.call 1 .channelCreate] (by decide +kernel)
  obtain ⟨⟨r, k'⟩, hr, rfl⟩ := exists_ok hx
  exact ⟨σ, hreach, hocc, hne, k', hr, (refused_unchanged hreach).2.2.1 _ _ _ _ _ hr⟩

end ProjectZero.Task.Accounting
