import ProjectZero.Ipc.Keeping

/-! # Sends and receives keep the accounts

A stretch of a send or receive holds a pin on the channel's object from its check to its return. It
either ends without the pin, or puts the thread to sleep with it. -/

namespace ProjectZero.Ipc.Traffic

open Lib.Run Tables Object Queues Accounts Keeping Ipc.Channel Ipc.Handle

variable {L : ObjIdx → Prop} {k : Kernel} {t : TSlot}

/-! ### The queues -/

lemma pushPriority_perm (priority : TSlot → ℕ) (t : TSlot) :
    ∀ queue, (pushPriority priority t queue).Perm (t :: queue)
  | [] => .refl _
  | u :: queue => by
    unfold pushPriority
    split
    · exact .refl _
    · exact ((pushPriority_perm priority t queue).cons u).trans (.swap t u queue)

variable {ch : Channel} {endpoint : ℕ} {d : Direction} {queue : List TSlot}

lemma queued_push (h : queue.Perm (t :: waiters (ch.mine endpoint) d)) :
    (queued (ch.setEndpoints endpoint (setWaiters (ch.mine endpoint) queue d)
      (ch.peer endpoint))).Perm (t :: queued ch) := by
  rw [List.perm_iff_count] at h ⊢
  intro u
  have hu := h u
  unfold Channel.setEndpoints Channel.mine Channel.peer queued at *
  by_cases he : endpoint = 0 <;> cases d <;>
    simp only [he, if_true, if_false, setWaiters, waiters, List.count_append, List.count_cons]
      at hu ⊢ <;>
    omega

lemma queued_pop (h : waiters (ch.peer endpoint) d = t :: queue) :
    (queued ch).Perm (t :: queued (ch.setEndpoints endpoint (ch.mine endpoint)
      (setWaiters (ch.peer endpoint) queue d))) := by
  rw [List.perm_iff_count]
  intro u
  have hu := congrArg (List.count u) h
  unfold Channel.setEndpoints Channel.mine Channel.peer queued at *
  by_cases he : endpoint = 0 <;> cases d <;>
    simp only [he, if_true, if_false, setWaiters, waiters, List.count_append, List.count_cons]
      at hu ⊢ <;>
    omega

@[simp] lemma queued_setRing (ch : Channel) (endpoint : ℕ) (r : ChannelRing) (d : Direction) :
    queued (setRing ch endpoint r d) = queued ch := by
  unfold setRing
  cases d <;> by_cases he : endpoint = 0 <;> simp [he, queued]

lemma setThreadState_ledger (h : Ledger k) (st : ThreadState)
    (ht : ∀ c, t ∉ queued (k.channel c)) : Ledger (setThreadState k t st) := by
  refine h.of_same (.of_object rfl rfl rfl rfl rfl rfl) (fun _ => .refl _) fun c u hu => ?_
  have hut : u ≠ t := by
    rintro rfl
    exact ht c hu
  rw [setThreadState_of_ne hut]

lemma not_queued (h : Ledger k) (ht : (k.thread t).state ≠ .blocked) (c : ℕ) :
    t ∉ queued (k.channel c) := fun hc => ht (h.queued.waits c t hc).blocked

/-- A thread that lives changes its state; only for itself this can be a sleep. -/
lemma carries_setThreadState {P : TSlot → Prop} {st : ThreadState} (ht : Active k t)
    (hst : P t → (k.thread t).state ≠ .blocked → st ≠ .blocked) :
    CarriesFor P k (setThreadState k t st) := by
  have hself : (setThreadState k t st).thread t = { k.thread t with state := st } :=
    update_self _ _ _
  refine ⟨fun u => ?_, fun u => ?_, fun u hP hu => ?_, fun u _ hact => ?_,
    fun u _ _ i c hpin => ⟨hpin.occupied, hpin.object, hpin.channel⟩⟩
  · by_cases hut : u = t
    · subst hut; rw [hself]
    · rw [setThreadState_of_ne hut]
  · by_cases hut : u = t
    · subst hut; rw [hself]
    · rw [setThreadState_of_ne hut]
  · by_cases hut : u = t
    · subst hut; rw [hself]; exact hst hP hu
    · rw [setThreadState_of_ne hut]; exact hu
  by_cases hut : u = t
  · subst hut; exact ht
  unfold Active at hact
  rw [setThreadState_of_ne hut] at hact
  exact hact

/-- **A waiter of the peer wakes.** Threads that are not blocked stay as they are. -/
lemma wakePeer_keeps (h : Ledger k) (c endpoint : ℕ) (d : Direction) :
    Ensures (fun k' => Ledger k' ∧ SameBooks k k' ∧ Carries k k' ∧
      ∀ u, (k.thread u).state ≠ .blocked → k'.thread u = k.thread u) (wakePeer k c endpoint d) := by
  unfold wakePeer
  simp only
  split
  · exact ⟨h, .of_object rfl rfl rfl rfl rfl rfl, .refl k, fun _ _ => rfl⟩
  rename_i u queue hq
  obtain ⟨ch, hch⟩ : ∃ ch, ch = (k.channel c).setEndpoints endpoint ((k.channel c).mine endpoint)
    (setWaiters ((k.channel c).peer endpoint) queue d) := ⟨_, rfl⟩
  rw [← hch]
  have hperm : (queued (k.channel c)).Perm (u :: queued ch) := hch ▸ queued_pop hq
  have hmem : u ∈ queued (k.channel c) := hperm.mem_iff.mpr (by simp)
  have hw := h.queued.waits c u hmem
  have hnd := List.nodup_cons.mp (hperm.nodup_iff.mp (h.queued.nodup c))
  have hl : Ledger (k.setChannel c ch) := by
    refine ⟨h.tallied.of_same (sameBooks_setChannel k c ch), h.kinds.of_alike (.refl _)
      h.kinds.mapping h.kinds.pin, fun e => ?_, fun e v hv => ?_⟩
    · by_cases he : e = c
      · subst he; simpa [Kernel.setChannel] using hnd.2
      · simpa [Kernel.setChannel, he] using h.queued.nodup e
    by_cases he : e = c
    · subst he
      simp only [Kernel.setChannel, update_self] at hv
      exact (h.queued.waits e v (hperm.mem_iff.mpr (by simp [hv]))).of_alike (.refl _) rfl rfl
    simp only [Kernel.setChannel, update_of_ne he] at hv
    exact (h.queued.waits e v hv).of_alike (.refl _) rfl rfl
  have hout : ∀ e, u ∉ queued ((k.setChannel c ch).channel e) := by
    intro e hue
    by_cases he : e = c
    · subst he
      simp only [Kernel.setChannel, update_self] at hue
      exact hnd.1 hue
    simp only [Kernel.setChannel, update_of_ne he] at hue
    exact he ((h.queued.waits e u hue).channel.symm.trans hw.channel)
  have hwake : wakeThreadLocked (k.setChannel c ch) u =
      .ok (setThreadState (k.setChannel c ch) u .ready) := if_pos hw.blocked
  rw [hwake]
  refine ⟨setThreadState_ledger hl .ready hout, .of_object rfl rfl rfl rfl rfl rfl,
    (carries_setChannel k c ch).trans
      (carries_setThreadState (.inr (.inl hw.blocked)) fun _ _ => by simp),
    fun v hv => setThreadState_of_ne ?_⟩
  rintro rfl
  exact hv hw.blocked

variable {i : ObjIdx}

/-- **A pinned thread goes to sleep** on its channel. -/
lemma sleep_keeps (h : Ledger k) {c : ℕ} (hpin : Pinned k t i c) (endpoint : ℕ) (d : Direction) :
    Ensures (fun k' => Ledger k' ∧ SameBooks k k' ∧ CarriesBut t k k') (sleep k t c endpoint d) := by
  unfold sleep prepareBlockLocked
  split
  next hrun =>
    have hrun' : (k.thread t).state ≠ .blocked := by
      rw [hrun]
      simp
    rw [ok_bind]
    simp only
    obtain ⟨k1, hk1⟩ : ∃ k1, k1 = setThreadState k t .blocked := ⟨_, rfl⟩
    have hch : k1.channel = k.channel := by rw [hk1]; rfl
    have hperm := queued_push (pushPriority_perm (fun u => (k1.thread u).priority) t
      (waiters ((k1.channel c).mine endpoint) d))
    obtain ⟨ch, hcheq⟩ : ∃ ch, ch = (k1.channel c).setEndpoints endpoint
      (setWaiters ((k1.channel c).mine endpoint) (pushPriority (fun u => (k1.thread u).priority) t
        (waiters ((k1.channel c).mine endpoint) d)) d) ((k1.channel c).peer endpoint) := ⟨_, rfl⟩
    rw [← hk1, ← hcheq]
    rw [← hcheq, hch] at hperm
    have hl : Ledger k1 := by
      rw [hk1]
      exact setThreadState_ledger h .blocked (not_queued h hrun')
    have hs : SameBooks k k1 := by
      rw [hk1]
      exact .of_object rfl rfl rfl rfl rfl rfl
    have hwait : Waits k1 c t := by
      refine ⟨?_, ?_, ?_⟩
      · rw [hk1]; simp [setThreadState]
      · rw [hs.threadIpc]; exact hpin.occupied
      · rw [hs.threadIpc, hpin.object, (hs.alike i).2.2.2]; exact hpin.channel
    have hcar : CarriesBut t k k1 := by
      rw [hk1]
      exact carries_setThreadState (.inr (.inr hrun)) fun h => absurd rfl h
    refine ⟨⟨hl.tallied.of_same (sameBooks_setChannel k1 c ch), hl.kinds.of_alike (.refl _)
      hl.kinds.mapping hl.kinds.pin, fun e => ?_, fun e u hu => ?_⟩,
      hs.trans (sameBooks_setChannel k1 c ch), hcar.trans ((carries_setChannel k1 c ch).but t)⟩
    · by_cases he : e = c
      · subst he
        simp only [Kernel.setChannel, update_self]
        exact hperm.nodup_iff.mpr (List.nodup_cons.mpr ⟨not_queued h hrun' e, h.queued.nodup e⟩)
      · simpa [Kernel.setChannel, he] using hl.queued.nodup e
    by_cases he : e = c
    · subst he
      simp only [Kernel.setChannel, update_self] at hu
      rcases List.mem_cons.mp (hperm.mem_iff.mp hu) with rfl | hu
      · exact hwait.of_alike (.refl _) rfl rfl
      rw [← hch] at hu
      exact (hl.queued.waits e u hu).of_alike (.refl _) rfl rfl
    simp only [Kernel.setChannel, update_of_ne he] at hu
    exact (hl.queued.waits e u hu).of_alike (.refl _) rfl rfl
  · rw [error_bind]; trivial

/-! ### Stretches of a call -/

/-- A stretch of a call by the thread `t` that ends as `r` says: a sleeping call is pinned. -/
structure Stretch (L : ObjIdx → Prop) (t : TSlot) (k : Kernel) (r : Progress × Kernel) : Prop where
  kept : KeptBut L t k r.2
  asleep : ∀ c, r.1 = .asleep c → Pinned r.2 t c.object c.channel

/-- A call of the thread `t` at work: the thread is not blocked and pinned. -/
structure AtWork (L : ObjIdx → Prop) (k : Kernel) (t : TSlot) (c : Pending) : Prop where
  ledger : Ledger k
  busy : Busy L k
  state : (k.thread t).state ≠ .blocked
  pinned : Pinned k t c.object c.channel

lemma Stretch.trans {k₁ k₂ : Kernel} {r : Progress × Kernel} (h₁ : CarriesBut t k₁ k₂)
    (h₂ : Stretch L t k₂ r) : Stretch L t k₁ r := ⟨h₂.kept.trans h₁, h₂.asleep⟩

variable {c : Pending}

section

variable (h : AtWork L k t c)

include h

lemma finish_keeps {r : Progress} (hr : ∀ c', r ≠ .asleep c') :
    Ensures (Stretch L t k) (finish k t c r) :=
  Holds.bind (releaseInFlightPin_keeps h.ledger h.busy (fun _ => h.pinned.object) h.state)
    fun _ hk => ⟨hk, fun c' e => absurd e (hr c')⟩

lemma complete_keeps (msg : Option IpcMessage) (r : ChannelRing) :
    Ensures (Stretch L t k) (complete k t c msg r) := by
  have hl := setChannel_ledger h.ledger c.channel
    (setRing (k.channel c.channel) c.endpoint r c.action.direction) (by simp)
  refine .bind (wakePeer_keeps hl _ _ _) fun k2 ⟨hl2, hs2, hc2, ht2⟩ => ?_
  have hs := (sameBooks_setChannel k c.channel _).trans hs2
  have hwork : AtWork L k2 t c :=
    ⟨hl2, h.busy.of_same hs, by rw [ht2 t h.state]; exact h.state, h.pinned.of_same hs⟩
  exact (finish_keeps hwork (by simp)).mono fun r hr =>
    hr.trans (((carries_setChannel k c.channel _).trans hc2).but t)

lemma wait_keeps : Ensures (Stretch L t k) (wait k t c) := by
  unfold wait
  split
  · exact finish_keeps h (by simp)
  refine .bind (sleep_keeps h.ledger h.pinned _ _) fun k1 ⟨hl1, hs1, hc1⟩ => ?_
  refine ⟨⟨hl1, h.busy.of_same hs1, hc1⟩, fun c' e => ?_⟩
  cases e
  exact h.pinned.of_same hs1

lemma callRound_keeps : Ensures (Stretch L t k) (callRound k t c) := by
  unfold callRound
  simp only
  split
  · exact finish_keeps h (by simp)
  · exact complete_keeps h _ _
  · exact wait_keeps h
  · exact complete_keeps h _ _
  · exact finish_keeps h (by simp)
  · exact wait_keeps h

lemma resume_keeps : Ensures (Stretch L t k) (resume k t c) := by
  unfold resume
  simp only
  split
  · split
    · exact finish_keeps h (by simp)
    · exact callRound_keeps h
  · exact finish_keeps h (by simp)
  · exact callRound_keeps h

end

/-- **A call takes its pin.** -/
lemma pin_keeps (h : Ledger k) (hb : Busy L k) (hi : (k.object i).occupied)
    (htype : (k.object i).objType = .channel) (hrun : (k.thread t).state ≠ .blocked)
    (ht : (k.threadIpc t).occupied = false) :
    KeptBut L t k (pin k t i) ∧ Pinned (pin k t i) t i (k.object i).poolIndex := by
  have htally : Tallied (pin k t i) := h.tallied.pin hi ht rfl rfl rfl rfl rfl rfl
  have hself : (pin k t i).threadIpc t = { occupied := true, objectIndex := i } :=
    update_self _ _ _
  obtain ⟨hl, hc⟩ := Ledger.repin h hrun htally rfl rfl (fun _ => htype) rfl rfl rfl
  refine ⟨⟨hl, fun j hj => ?_, hc⟩, by rw [hself], by rw [hself],
    (alike_withHeader k.object i _ i).2.2.2⟩
  by_cases hji : j = i
  · subst hji
    have hpos := refCount_ne_of_pin htally (by rw [hself])
    rw [hself] at hpos
    exact fun _ => hpos
  have hsame : (pin k t i).object j = k.object j := withHeader_of_ne k.object _ hji
  rw [hsame] at hj ⊢
  exact hb j hj

/-- **A send or receive up to its first sleep.** -/
lemma channelCall_keeps (h : Ledger k) (hb : Busy L k) (hrun : (k.thread t).state ≠ .blocked)
    (hd : Handle) (action : Action) (blocking : Bool) :
    Ensures (Stretch L t k) (channelCall k t hd action blocking) := by
  have hstay : ∀ e, Stretch L t k (.failed e, k) := fun e =>
    ⟨⟨h, hb, (Carries.refl k).but t⟩, by simp⟩
  unfold channelCall
  split
  · exact hstay _
  split
  · exact hstay _
  rename_i hv
  obtain ⟨s, hden, -, hocc, -, -, hr⟩ := validateHandle_ok hv
  cases hr
  split
  · exact hstay _
  split
  · trivial
  rename_i htype
  split
  · exact hstay _
  rename_i ht
  obtain ⟨hk, hpin⟩ := pin_keeps h hb hocc (by simpa using htype) hrun (by simpa using ht)
  exact (callRound_keeps ⟨hk.ledger, hk.busy, hrun, hpin⟩).mono fun r hr => hr.trans hk.carries

end ProjectZero.Ipc.Traffic
