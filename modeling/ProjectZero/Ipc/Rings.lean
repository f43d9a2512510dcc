import ProjectZero.Ipc.Footprint

/-! # Steps that move no message

Every operation but a send or receive leaves the rings of the channels alone, except that an object
which is freed takes its channel with it. Such a step wakes threads and puts none to sleep; and the
wait queues of a channel stay as they are, together with its rings and flags, or are emptied. -/

namespace ProjectZero.Ipc.Rings

open Tables Object Queues Accounts Ipc.Channel Footprint

variable {k k' k₁ k₂ k₃ : Kernel} {A : Kind → Prop}

/-! ### The relation -/

variable (ch : Channel)

/-- The channel without the handle counters of its endpoints. -/
def core : Channel :=
  { ch with
    endpoint0 := { ch.endpoint0 with handleRefs := 0 }
    endpoint1 := { ch.endpoint1 with handleRefs := 0 } }

def rings : ChannelRing × ChannelRing := (ch.ring0to1, ch.ring1to0)

/-- The object is a channel, with the entry `c` of `CHANNEL_TABLE`. -/
def ChanAt (k : Kernel) (i : ObjIdx) (c : ℕ) : Prop :=
  (k.object i).occupied ∧ (k.object i).objType = .channel ∧ (k.object i).poolIndex = c

def Awake (k : Kernel) (t : TSlot) : Prop :=
  (k.thread t).state = .ready ∨ (k.thread t).state = .running
  deriving Decidable

/-- No channel is made, and the rings of a channel change only when it goes. -/
structure Mute (k k' : Kernel) : Prop where
  object : ∀ i c, ChanAt k' i c → ChanAt k i c
  rings : ∀ c, rings (k'.channel c) = rings (k.channel c) ∨ ∃ i, ChanAt k i c ∧ ¬ChanAt k' i c

/-- Moreover, no thread stops, and wait queues stay with what they wait for, or are emptied. -/
structure Steady (k k' : Kernel) : Prop extends Mute k k' where
  awake : ∀ t, Awake k t → Awake k' t
  queues : ∀ c, queued (k'.channel c) = [] ∨ core (k'.channel c) = core (k.channel c)

lemma queued_core : queued (core ch) = queued ch := rfl

lemma rings_core : rings (core ch) = rings ch := rfl

lemma ring_of_rings {ch ch' : Channel} (h : rings ch = rings ch') (e : ℕ) (d : Direction) :
    ring ch e d = ring ch' e d := by
  obtain ⟨h0, h1⟩ := Prod.mk.inj h
  cases d <;> simp [ring, h0, h1]

lemma Mute.trans (h : Mute k₁ k₂) (h' : Mute k₂ k₃) : Mute k₁ k₃ := by
  refine ⟨fun i c hi => h.object i c (h'.object i c hi), fun c => ?_⟩
  rcases h'.rings c with he' | ⟨i, hi, hgone⟩
  · rcases h.rings c with he | ⟨i, hi, hgone⟩
    · exact .inl (he'.trans he)
    · exact .inr ⟨i, hi, fun hc => hgone (h'.object i c hc)⟩
  · exact .inr ⟨i, h.object i c hi, hgone⟩

lemma Steady.trans (h : Steady k₁ k₂) (h' : Steady k₂ k₃) : Steady k₁ k₃ := by
  refine ⟨h.toMute.trans h'.toMute, fun t ht => h'.awake t (h.awake t ht), fun c => ?_⟩
  rcases h'.queues c with he' | he'
  · exact .inl he'
  rcases h.queues c with he | he
  · refine .inl ?_
    rw [← queued_core, he', queued_core, he]
  · exact .inr (he'.trans he)

lemma chanAt_of_alike (ha : Alike k.object k'.object) {i : ObjIdx} {c : ℕ} :
    ChanAt k' i c ↔ ChanAt k i c := by
  unfold ChanAt
  rw [(ha i).1, (ha i).2.1, (ha i).2.2.2]

lemma Steady.of_alike (hc : k'.channel = k.channel) (ht : k'.thread = k.thread)
    (ha : Alike k.object k'.object) : Steady k k' where
  object i c hi := (chanAt_of_alike ha).mp hi
  rings c := .inl (by rw [hc])
  awake t h := by
    unfold Awake at h ⊢
    rw [ht]
    exact h
  queues c := .inr (by rw [hc])

lemma Steady.refl (k : Kernel) : Steady k k := .of_alike rfl rfl (.refl _)

/-! ### The elementary changes -/

/-- One slot of the object table has a new content that is not a channel. -/
lemma Steady.of_update {i : ObjIdx} {o : KernelObjectSlot} (hc : k'.channel = k.channel)
    (ht : k'.thread = k.thread) (ho : k'.object = update k.object i o)
    (hnot : ¬(o.occupied ∧ o.objType = .channel)) : Steady k k' where
  object j c hj := by
    unfold ChanAt at hj ⊢
    rw [ho] at hj
    by_cases hji : j = i
    · subst hji
      rw [update_self] at hj
      exact absurd ⟨hj.1, hj.2.1⟩ hnot
    rw [update_of_ne hji] at hj
    exact hj
  rings c := .inl (by rw [hc])
  awake t h := by
    unfold Awake at h ⊢
    rw [ht]
    exact h
  queues c := .inr (by rw [hc])

/-- One channel changes, but for its rings, and its queues are emptied or stay with its flags. -/
lemma steady_setChannel {c : ℕ} {ch : Channel} {thread : TSlot → KernelThread}
    (hw : Wakes k.thread thread) (hr : rings ch = rings (k.channel c))
    (hq : queued ch = [] ∨ core ch = core (k.channel c)) :
    Steady k { k with thread := thread, channel := update k.channel c ch } where
  object _ _ hi := hi
  rings d := by
    refine .inl ?_
    by_cases hd : d = c
    · subst hd; simpa using hr
    · simp [hd]
  awake t h := by
    rcases hw t with he | he
    · simpa only [Awake, he] using h
    · exact .inl (by simp only [he])
  queues d := by
    by_cases hd : d = c
    · subst hd; simpa using hq
    · simp [hd]

lemma rings_setEndpoints (endpoint : ℕ) (mine peer : ChannelEndpointData) :
    rings (ch.setEndpoints endpoint mine peer) = rings ch := by
  unfold Channel.setEndpoints
  split <;> rfl

lemma core_dropRef (endpoint : ℕ) : core (ch.dropRef endpoint) = core ch := by
  unfold Channel.dropRef Channel.setEndpoints Channel.mine Channel.peer core
  split <;> rfl

lemma reclaim_steady {i : ObjIdx} (hocc : (k.object i).occupied)
    (htype : (k.object i).objType = .channel) :
    Steady k { k.setChannel (k.object i).poolIndex .empty with
      object := update k.object i (freed (k.object i)) } := by
  refine ⟨⟨fun j c hj => ?_, fun c => ?_⟩, fun _ h => h, fun c => ?_⟩
  · by_cases hji : j = i
    · subst hji
      simp [ChanAt, freed] at hj
    · simpa [ChanAt, hji] using hj
  · by_cases hc : c = (k.object i).poolIndex
    · exact .inr ⟨i, ⟨hocc, htype, hc.symm⟩, fun hi => by simp [ChanAt, freed] at hi⟩
    · exact .inl (by simp [Kernel.setChannel, hc])
  by_cases hc : c = (k.object i).poolIndex
  · subst hc
    exact .inl (by simp [Kernel.setChannel])
  · exact .inr (by simp [Kernel.setChannel, hc])

section

variable (ht : ¬A .traffic) (hn : ¬A (.create .channel))

include ht hn

lemma of_change (h : Change A k k') : Mute k k' ∧ (¬A .threads → Steady k k') := by
  have both : Steady k k' → Mute k k' ∧ (¬A .threads → Steady k k') :=
    fun hs => ⟨hs.toMute, fun _ => hs⟩
  cases h with
  | headers alike rest => exact both (.of_alike (by rw [rest]) (by rw [rest]) alike)
  | handles a edit rest =>
    exact both (.of_alike (by rw [rest]) (by rw [rest]) (by rw [rest]; exact .refl _))
  | dropRef c e =>
    exact both (steady_setChannel (fun _ => .inl rfl) (rings_setEndpoints ..)
      (.inr (core_dropRef _ e)))
  | wake c e wakes =>
    exact both (steady_setChannel wakes (rings_setEndpoints ..) (.inl (by simp)))
  | free i => exact both (.of_update rfl rfl rfl (by simp [freed]))
  | reclaim i occupied objType => exact both (reclaim_steady occupied objType)
  | close a c e wakes =>
    exact both (steady_setChannel wakes ((rings_setEndpoints ..).trans (rings_setEndpoints ..))
      (.inl (by simp)))
  | memory a alike rest => exact both (.of_alike (by rw [rest]) (by rw [rest]) alike)
  | channel a new n => exact absurd a hn
  | shm a new n s => exact both (.of_update rfl rfl rfl (by simp [new.objType]))
  | traffic a c thread flags => exact absurd a ht
  | threads a flags to1 to0 spaces rest =>
    refine ⟨⟨fun i c hi => ?_, fun c => .inl (Prod.ext (to1 c) (to0 c))⟩, fun hA => absurd a hA⟩
    rw [rest] at hi
    exact hi

lemma Mute.of_moves (h : Moves A k k') :
    Mute k k' := h.lift (fun k => (Steady.refl k).toMute) .trans fun hc => (of_change ht hn hc).1

lemma Steady.of_moves (hh : ¬A .threads)
    (h : Moves A k k') : Steady k k' := h.lift .refl .trans fun hc => (of_change ht hn hc).2 hh

end

lemma steady_setThreadState (t : TSlot) {st : ThreadState} (hst : st = .ready ∨ st = .running) :
    Steady k (setThreadState k t st) := by
  refine ⟨⟨fun _ _ hi => hi, fun _ => .inl rfl⟩, fun u hu => ?_, fun _ => .inr rfl⟩
  unfold Awake at hu ⊢
  by_cases hut : u = t
  · subst hut
    simpa [setThreadState] using hst
  rw [setThreadState_of_ne hut]
  exact hu

end ProjectZero.Ipc.Rings
