import ProjectZero.Ipc.Object

/-! # Waiting threads and reclamation

What the wake-up of the waiters of a channel and the two reclamation checks do to the tables. -/

namespace ProjectZero.Ipc.Queues

open Lib.Run Tables Object

variable (ch : Channel)

/-- The threads that wait on a channel. -/
def queued : List TSlot :=
  ch.endpoint0.waitersRx ++ ch.endpoint0.waitersTx ++
    (ch.endpoint1.waitersRx ++ ch.endpoint1.waitersTx)

@[simp] lemma queued_dropRef (endpoint : ℕ) : queued (ch.dropRef endpoint) = queued ch := by
  unfold Channel.dropRef Channel.setEndpoints Channel.mine Channel.peer queued
  by_cases he : endpoint = 0
  · simp [he]
  · simp [he]

@[simp] lemma queued_close (endpoint : ℕ) : queued (ch.close endpoint) = queued ch := by
  unfold Channel.close Channel.setEndpoints Channel.mine Channel.peer queued
  by_cases he : endpoint = 0
  · simp [he]
  · simp [he]

@[simp] lemma queued_drain : queued ch.drain = [] := rfl

@[simp] lemma queued_empty : queued Channel.empty = [] := rfl

lemma idle_iff {ch : Channel} : ch.idle ↔ queued ch = [] := by
  simp [Channel.idle, queued, and_assoc]

lemma queued_perm (endpoint : ℕ) :
    ((ch.mine endpoint).waitersRx ++ (ch.mine endpoint).waitersTx ++
      (ch.peer endpoint).waitersRx ++ (ch.peer endpoint).waitersTx).Perm (queued ch) := by
  unfold Channel.mine Channel.peer queued
  by_cases he : endpoint = 0
  · simp only [he, if_true]
    rw [List.append_assoc]
  simp only [he, if_false]
  rw [List.append_assoc]
  exact List.perm_append_comm

/-! ### Wake-up -/

/-- `thread'` is `thread` with the threads of `l` made ready. -/
structure Woken (l : List TSlot) (thread thread' : TSlot → KernelThread) : Prop where
  ready : ∀ t ∈ l, thread' t = { thread t with state := .ready }
  other : ∀ t ∉ l, thread' t = thread t

lemma wakeAll_ok : ∀ {l : List TSlot} {k : Kernel}, l.Nodup →
    (∀ t ∈ l, (k.thread t).state = .blocked) →
    ∃ thread, l.foldlM wakeThreadLocked k = .ok { k with thread := thread } ∧
      Woken l k.thread thread
  | [], k, _, _ => ⟨k.thread, rfl, by simp, fun _ _ => rfl⟩
  | t :: l, k, hnd, hb => by
    obtain ⟨ht, hl⟩ := List.nodup_cons.mp hnd
    have hw : wakeThreadLocked k t = .ok (setThreadState k t .ready) := if_pos (hb t (by simp))
    have hne : ∀ u ∈ l, u ≠ t := fun u hu e => ht (e ▸ hu)
    obtain ⟨thread, h, hin, hout⟩ := wakeAll_ok (k := setThreadState k t .ready) hl fun u hu => by
      rw [setThreadState_of_ne (hne u hu)]
      exact hb u (by simp [hu])
    refine ⟨thread, ?_, fun u hu => ?_, fun u hu => ?_⟩
    · rw [List.foldlM_cons, hw, ok_bind, h]
      rfl
    · rcases List.mem_cons.mp hu with rfl | hu
      · rw [hout u ht]
        simp [setThreadState]
      · rw [hin u hu, setThreadState_of_ne (hne u hu)]
    simp only [List.mem_cons, not_or] at hu
    rw [hout u hu.2, setThreadState_of_ne hu.1]

lemma wakeAllWaiters_ok {k : Kernel} {c : ℕ} (endpoint : ℕ) (hnd : (queued (k.channel c)).Nodup)
    (hb : ∀ t ∈ queued (k.channel c), (k.thread t).state = .blocked) :
    ∃ thread, wakeAllWaiters k c endpoint = .ok { k with
        thread := thread, channel := update k.channel c (k.channel c).drain } ∧
      Woken (queued (k.channel c)) k.thread thread := by
  have hperm := queued_perm (k.channel c) endpoint
  obtain ⟨thread, h, hin, hout⟩ := wakeAll_ok (hperm.nodup_iff.mpr hnd)
    fun t ht => hb t (hperm.mem_iff.mp ht)
  refine ⟨thread, ?_, fun t ht => hin t (hperm.mem_iff.mpr ht),
    fun t ht => hout t fun e => ht (hperm.mem_iff.mp e)⟩
  unfold wakeAllWaiters
  simp only [h, ok_bind]
  rfl

/-! ### Reclamation -/

lemma reclaimChannel_busy {k : Kernel} {i : ObjIdx}
    (h : (k.object i).header.refCount ≠ 0) : checkAndReclaimChannelLocked k i = .ok k := by
  unfold checkAndReclaimChannelLocked
  simp [h]

lemma reclaimShm_busy {k : Kernel} {i : ObjIdx}
    (h : (k.object i).header.refCount ≠ 0) : checkAndReclaimShmLocked k i = .ok k := by
  unfold checkAndReclaimShmLocked
  simp [h]

lemma reclaimChannel_cases (k : Kernel) (i : ObjIdx) :
    ((k.object i).occupied ∧ (k.object i).objType = .channel ∧
      (k.object i).header.refCount = 0 ∧ queued (k.channel (k.object i).poolIndex) = [] ∧
      checkAndReclaimChannelLocked k i = .ok { k.setChannel (k.object i).poolIndex .empty with
        object := update k.object i (freed (k.object i)) }) ∨
    ((k.object i).occupied = false ∨ (k.object i).objType ≠ .channel ∨
      (k.object i).header.refCount ≠ 0 ∨ queued (k.channel (k.object i).poolIndex) ≠ []) ∧
      checkAndReclaimChannelLocked k i = .ok k := by
  unfold checkAndReclaimChannelLocked
  simp only
  split
  next h =>
    exact .inr ⟨h.elim .inl fun h => .inr (.inl h), rfl⟩
  rename_i h
  simp only [not_or, Bool.not_eq_false, not_not] at h
  split
  next hz =>
    refine .inl ⟨h.1, h.2, hz.1, idle_iff.mp hz.2, ?_⟩
    exact if_pos h.1
  rename_i hz
  refine .inr ⟨.inr (.inr ?_), rfl⟩
  by_contra hc
  simp only [not_or, not_not] at hc
  exact hz ⟨hc.1, idle_iff.mpr hc.2⟩

lemma reclaimShm_cases (k : Kernel) (i : ObjIdx) :
    ((k.object i).occupied ∧ (k.object i).objType = .shmObject ∧ (k.object i).header.refCount = 0 ∧
      checkAndReclaimShmLocked k i = .ok { k with
        pmm := Mm.Pmm.freeFrames k.pmm (k.shm (k.object i).poolIndex).pages
        shm := update k.shm (k.object i).poolIndex .empty
        shmFreed := (k.shm (k.object i).poolIndex).pages.map (·, k.pageTable) ++ k.shmFreed
        object := update k.object i (freed (k.object i)) }) ∨
    ((k.object i).occupied = false ∨ (k.object i).objType ≠ .shmObject ∨
      (k.object i).header.refCount ≠ 0) ∧ checkAndReclaimShmLocked k i = .ok k := by
  unfold checkAndReclaimShmLocked
  simp only
  split
  next h =>
    exact .inr ⟨h.elim .inl fun h => .inr (.inl h), rfl⟩
  rename_i h
  simp only [not_or, Bool.not_eq_false, not_not] at h
  split
  next hz =>
    refine .inl ⟨h.1, h.2, hz, ?_⟩
    exact if_pos h.1
  rename_i hz
  exact .inr ⟨.inr (.inr hz), rfl⟩

end ProjectZero.Ipc.Queues
