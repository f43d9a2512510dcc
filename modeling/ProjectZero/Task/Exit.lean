import ProjectZero.Task.Lifecycle

/-! # Process exit keeps the accounts

The threads of the process leave the wait queues before their pins go, so no queue is left with a
thread that has no pin. -/

namespace ProjectZero.Task.Exit

open Lib.Run Tables Cap.Ops Cap.Calls Ipc.Object Ipc.Queues Ipc.Accounts Ipc.Keeping Ipc.Traffic
open Process Lifecycle

variable {L : ObjIdx → Prop} {k : Kernel} {pid : ℕ} {caller : TSlot}

/-! ### Cancelled threads -/

variable (th : KernelThread)

lemma cancelThread_occupied : (cancelThread th).occupied = th.occupied := by
  unfold cancelThread
  split <;> rfl

lemma cancelThread_processId : (cancelThread th).processId = th.processId := by
  unfold cancelThread
  split <;> rfl

lemma cancelThread_state : (cancelThread th).state ≠ .ready ∧
    (cancelThread th).state ≠ .blocked ∧ (cancelThread th).state ≠ .running := by
  unfold cancelThread
  cases hs : th.state <;> simp [hs]

lemma queued_cancel (k : Kernel) (pid c : ℕ) :
    queued ((cancelChannelWaitersForProcessLocked k pid).channel c) =
      (queued (k.channel c)).filter fun t => (k.thread t).processId ≠ pid := by
  simp [queued, cancelChannelWaitersForProcessLocked, cancelWaiters]

variable {t : TSlot}

lemma cancelProcessThreads_other (h : (k.thread t).processId ≠ pid ∨ t = caller) :
    (cancelProcessThreadsLocked k pid caller).thread t = k.thread t := by
  refine if_neg ?_
  rcases h with h | h
  · simp [cancelChannelWaitersForProcessLocked, h]
  · simp [h]

lemma cancelProcessThreads_thread (k : Kernel) (pid : ℕ) (caller t : TSlot) :
    (cancelProcessThreadsLocked k pid caller).thread t = cancelThread (k.thread t) ∨
      (cancelProcessThreadsLocked k pid caller).thread t = k.thread t ∧
        ((k.thread t).occupied → (k.thread t).processId = pid → t = caller) := by
  by_cases h : (k.thread t).occupied && (k.thread t).processId = pid && t ≠ caller
  · exact .inl (if_pos h)
  refine .inr ⟨if_neg h, fun ho hp => ?_⟩
  simpa [ho, hp] using h

lemma not_active_cancelThread {k' : Kernel}
    (h : k'.thread t = cancelThread (k.thread t)) : ¬Active k' t := by
  obtain ⟨h1, h2, h3⟩ := cancelThread_state (k.thread t)
  unfold Active
  rw [h]
  simp [h1, h2, h3]

/-- **The cancellation of the threads of a process.** -/
lemma cancelProcessThreads_keeps (h : Ledger k)
    (hocc : ∀ t, Active k t → (k.thread t).occupied) (pid : ℕ) (caller : TSlot) :
    Ledger (cancelProcessThreadsLocked k pid caller) ∧
      Carries k (cancelProcessThreadsLocked k pid caller) ∧
      ∀ t, (k.thread t).processId = pid → t ≠ caller →
        ¬Active (cancelProcessThreadsLocked k pid caller) t := by
  obtain ⟨k1, hk1⟩ : ∃ k1, k1 = cancelProcessThreadsLocked k pid caller := ⟨_, rfl⟩
  have hthread := cancelProcessThreads_thread k pid caller
  rw [← hk1] at hthread ⊢
  have hq : ∀ c, queued (k1.channel c) =
      (queued (k.channel c)).filter fun t => (k.thread t).processId ≠ pid := fun c => by
    rw [hk1]
    exact queued_cancel k pid c
  have hs : SameBooks k k1 := by
    rw [hk1]
    exact .of_object rfl rfl rfl rfl rfl rfl
  have hactive : ∀ t, Active k1 t → k1.thread t = k.thread t ∧
      ((k.thread t).occupied → (k.thread t).processId = pid → t = caller) := fun t ht =>
    (hthread t).resolve_left fun e => not_active_cancelThread e ht
  have hback : ∀ t, Active k1 t → Active k t := fun t ht => by
    have he := (hactive t ht).1
    unfold Active at ht
    rw [he] at ht
    exact ht
  refine ⟨h.of_same hs (fun c => ?_) fun c t ht => ?_,
    ⟨fun t => ?_, fun t => ?_, fun t _ hb => ?_, fun t _ => hback t,
      fun t _ _ i c hp => hp.of_same hs⟩, fun t hp hne hact => ?_⟩
  · rw [hq]
    exact List.filter_sublist
  · rw [hq, List.mem_filter] at ht
    rw [hk1, cancelProcessThreads_other (.inl (by simpa using ht.2))]
  · rcases hthread t with e | e
    · rw [e, cancelThread_occupied]
    · rw [e.1]
  · rcases hthread t with e | e
    · rw [e, cancelThread_processId]
    · rw [e.1]
  · rcases hthread t with e | e
    · rw [e]
      exact (cancelThread_state _).2.1
    rw [e.1]
    exact hb
  · exact hne ((hactive t hact).2 (hocc t (hback t hact)) hp)

/-! ### Released pins -/

lemma reclaimChannel_thread (k : Kernel) (i : ObjIdx) :
    Ensures (fun k' => k'.thread = k.thread) (checkAndReclaimChannelLocked k i) := by
  rcases reclaimChannel_cases k i with ⟨-, -, -, -, he⟩ | ⟨-, he⟩
  · rw [he]; rfl
  · rw [he]; rfl

/-- While the pins of the process go: the other calls in flight stay. -/
structure Releasing (L : ObjIdx → Prop) (pid : ℕ) (k k' : Kernel) : Prop where
  ledger : Ledger k'
  busy : Busy L k'
  same : SameHandles k k'
  thread : k'.thread = k.thread
  pinned : ∀ t, (k.thread t).processId ≠ pid → Active k t →
    ∀ i c, Pinned k t i c → Pinned k' t i c

variable {k₁ : Kernel}

/-- **The pin of a cancelled thread.** -/
lemma releaseCancelled_keeps (h : Releasing L pid k k₁)
    (hawake : ∀ t, (k.thread t).processId = pid → (k.thread t).state ≠ .blocked) (t : TSlot) :
    Ensures (Releasing L pid k) (releaseCancelled pid k₁ t) := by
  unfold releaseCancelled
  split
  next ht =>
    obtain ⟨hocc, hpid⟩ := ht
    have hstate : (k₁.thread t).state ≠ .blocked := by
      rw [h.thread] at hpid ⊢
      exact hawake t hpid
    obtain ⟨hl, hb, hcar, ha⟩ := dropPin_drops h.ledger h.busy hocc rfl hstate
    obtain ⟨i, hi⟩ : ∃ i, i = (k₁.threadIpc t).objectIndex := ⟨_, rfl⟩
    rw [← hi] at hl hb hcar ha
    have htype : ((dropPin k₁ t i).object i).objType = .channel := by
      rw [(ha i).2.1, hi]
      exact h.ledger.kinds.pin t hocc
    rw [← hi, if_pos htype]
    refine (((reclaimChannel_keeps hl hb fun _ => htype).and (reclaimChannel_thread _ i)).and
      (reclaimChannel_same _ i).ensures).mono fun k2 ⟨⟨hk, hthread⟩, hsame⟩ => ?_
    have hthread' : k2.thread = k.thread := hthread.trans h.thread
    have hdrop : SameHandles k₁ (dropPin k₁ t i) := ⟨rfl, rfl, rfl⟩
    refine ⟨hk.ledger, hk.busy, h.same.trans (hdrop.trans hsame), hthread',
      fun u hu hact j c hpin => ?_⟩
    have hut : u ≠ t := by
      rintro rfl
      rw [h.thread] at hpid
      exact hu hpid
    have hact2 : Active k2 u := by
      unfold Active at hact ⊢
      rw [hthread']
      exact hact
    exact (hcar.trans (hk.carries.but t)).pinned u hut hact2 j c (h.pinned u hu hact j c hpin)
  · exact h

/-! ### Exit -/

lemma sweepMapping_fine (h : Fine L k k₁) (pid : ℕ) (root : PhysFrame) (j : Fin 64) :
    Ensures (Fine L k) (sweepMapping pid root k₁ j) := by
  unfold sweepMapping
  split
  next hj =>
    exact (dropMapping_fine h.good root hj.1).mono fun _ hk => .trans h.carries hk
  · exact h

lemma closeAndReclaim_fine (h : Good L k) (s : Slot) :
    Leaves (Fine L k) (closeAndReclaimCapabilityLocked k s) :=
  fine_of (closeAndReclaim_safe h.sound s) (closeAndReclaim_keeps h s)

lemma sweepHandle_fine (h : Fine L k k₁) (p : PSlot) (n : HSlot) :
    Ensures (Fine L k) (sweepHandle p k₁ n) := by
  unfold sweepHandle
  split
  · exact .bind (closeAndReclaim_fine h.good (p, n)) fun _ hk =>
      .trans h.carries hk
  · exact h

lemma exitCleanup_fine (h : Good L k) (p : PSlot) (pid : ℕ)
    (root : PhysFrame) : Ensures (Fine L k) (processExitCapabilityCleanupLocked k p pid root) := by
  refine .bind (holds_foldlM (fun k1 j hk => sweepMapping_fine hk pid root j) _ (.refl h))
    fun k1 hk1 => ?_
  refine .bind (holds_foldlM (fun k2 n hk => sweepHandle_fine hk p n) _ hk1) fun k2 hk2 => ?_
  split
  · exact hk2
  · trivial

lemma carries_caller (h : CarriesBut caller k k₁) :
    Carries k (setThreadState k₁ caller .zombie) := by
  have hself : (setThreadState k₁ caller .zombie).thread caller =
      { k₁.thread caller with state := .zombie } := update_self _ _ _
  have hdead : ¬Active (setThreadState k₁ caller .zombie) caller := by
    unfold Active
    rw [hself]
    simp
  have hother : ∀ t ≠ caller, Active (setThreadState k₁ caller .zombie) t → Active k₁ t :=
    fun t ht hact => by
      unfold Active at hact
      rw [setThreadState_of_ne ht] at hact
      exact hact
  have hne : ∀ t, Active (setThreadState k₁ caller .zombie) t → t ≠ caller := by
    rintro t hact rfl
    exact hdead hact
  refine ⟨fun t => ?_, fun t => ?_, fun t _ hb => ?_,
    fun t _ hact => h.active t (hne t hact) (hother t (hne t hact) hact),
    fun t _ hact i c hp => ?_⟩
  · by_cases ht : t = caller
    · subst ht; rw [hself]; exact h.occupied t
    · rw [setThreadState_of_ne ht]; exact h.occupied t
  · by_cases ht : t = caller
    · subst ht; rw [hself]; exact h.processId t
    · rw [setThreadState_of_ne ht]; exact h.processId t
  · by_cases ht : t = caller
    · subst ht; rw [hself]; simp
    · rw [setThreadState_of_ne ht]; exact h.awake t ht hb
  have hp' := h.pinned t (hne t hact) (hother t (hne t hact) hact) i c hp
  exact ⟨hp'.occupied, hp'.object, hp'.channel⟩

/-- The calls of the process are out of flight: its threads but the calling one are zombies, and the
pins of its threads are gone. -/
structure Cancelled (L : ObjIdx → Prop) (caller : TSlot) (k k' : Kernel) : Prop where
  good : Good L k'
  same : SameHandles k k'
  carries : CarriesBut caller k k'
  awake : (k'.thread caller).state ≠ .blocked

section

variable (h : Good L k) (hocc : ∀ t, Active k t → (k.thread t).occupied = true)
  (hrun : (k.thread caller).state ≠ .blocked)

include h hocc hrun

/-- **The first half of an exit.** -/
lemma releaseCancelled_fine (pid : ℕ) (p : PSlot) :
    Ensures (Cancelled L caller k) ((List.finRange 16).foldlM (releaseCancelled pid)
      (setProcessState (cancelProcessThreadsLocked k pid caller) p .zombie)) := by
  obtain ⟨k1, hk1⟩ : ∃ k1, k1 =
    setProcessState (cancelProcessThreadsLocked k pid caller) p .zombie := ⟨_, rfl⟩
  rw [← hk1]
  obtain ⟨hl, hc, hdead⟩ := cancelProcessThreads_keeps h.ledger hocc pid caller
  have hl1 : Ledger k1 := by
    rw [hk1]
    exact hl.of_same (.of_object rfl rfl rfl rfl rfl rfl) (fun _ => .refl _) fun _ _ _ => rfl
  have hb1 : Busy L k1 := by
    rw [hk1]
    exact h.busy
  have hs1 : SameHandles k k1 := by
    rw [hk1]
    exact ⟨rfl, rfl, rfl⟩
  have hc1 : Carries k k1 := by
    rw [hk1]
    exact hc.trans (Carries.of_thread rfl rfl fun _ => rfl)
  have hdead1 : ∀ t, (k1.thread t).processId = pid → t ≠ caller → ¬Active k1 t := by
    intro t ht hne
    rw [hc1.processId t] at ht
    rw [hk1]
    exact hdead t ht hne
  have hawake : ∀ t, (k1.thread t).processId = pid → (k1.thread t).state ≠ .blocked := by
    intro t ht hb
    by_cases hne : t = caller
    · subst hne
      exact hc1.awake t trivial hrun hb
    · exact hdead1 t ht hne (.inr (.inl hb))
  have hr1 : Releasing L pid k1 k1 := ⟨hl1, hb1, .refl k1, rfl, fun _ _ _ _ _ hp => hp⟩
  refine (holds_foldlM (fun k' t hk => releaseCancelled_keeps hk hawake t) _ hr1).mono
    fun k2 hr2 => ?_
  have hact : ∀ t, Active k2 t → Active k1 t := fun t ht => by
    unfold Active at ht ⊢
    rw [hr2.thread] at ht
    exact ht
  have hc2 : CarriesBut caller k1 k2 := by
    refine ⟨fun t => by rw [hr2.thread], fun t => by rw [hr2.thread],
      fun t _ hb => by rw [hr2.thread]; exact hb, fun t _ => hact t, fun t hne ht i c hpin => ?_⟩
    exact hr2.pinned t (fun e => hdead1 t e hne (hact t ht)) (hact t ht) i c hpin
  have hsame := hs1.trans hr2.same
  refine ⟨⟨h.sound.of_same hsame, hr2.ledger, hr2.busy⟩, hsame, (hc1.but caller).trans hc2, ?_⟩
  rw [hr2.thread]
  exact hc1.awake caller trivial hrun

/-- **`process_exit`.** -/
lemma processExit_fine : Ensures (Fine L k) (processExit k caller) := by
  unfold processExit
  simp only
  iterate 3
    split
    · trivial
  refine .bind (releaseCancelled_fine h hocc hrun _ _) fun k2 hk2 => ?_
  refine .bind (exitCleanup_fine hk2.good _ _ _) fun k3 hk3 => ?_
  have hstate : (k3.thread caller).state ≠ .blocked := hk3.carries.awake caller trivial hk2.awake
  refine ⟨⟨hk3.good.sound, setThreadState_ledger hk3.good.ledger .zombie
    (not_queued hk3.good.ledger hstate), hk3.good.busy⟩, ?_⟩
  exact carries_caller (hk2.carries.trans (hk3.carries.but caller))

end

end ProjectZero.Task.Exit
