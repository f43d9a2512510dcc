import ProjectZero.Fs.Buf

/-! # The cache is transparent

`Shows m v` is what the cache keeps between two calls over devices that do not fail: `v` are the
contents its users see, held by the buffers in use and, wherever no buffer is dirty, by the device.
Every request keeps it and is answered as the volume `v` answers it, so that every program runs on the
cache as it runs on the volume. -/

namespace ProjectZero.Fs.Transparent

open Lib.Program Fs.Types Store Buf

abbrev Contents := DeviceId → ℕ → Block

def Contents.put (v : Contents) (d : DeviceId) (b : ℕ) (x : Block) : Contents :=
  update v d (update (v d) b x)

lemma Contents.put_self (v : Contents) (d : DeviceId) (b : ℕ) (x : Block) :
    v.put d b x d b = x := by simp [put]

lemma Contents.put_of_ne {d d' : DeviceId} {b b' : ℕ} (h : ¬(d' = d ∧ b' = b)) (v : Contents)
    (x : Block) : v.put d b x d' b' = v d' b' := by
  by_cases hd : d' = d
  · subst hd
    have hb : b' ≠ b := fun hb => h ⟨rfl, hb⟩
    simp [put, hb]
  · simp [put, hd]

variable {m m' : Machine Disks} {v : Contents} {d : DeviceId} {b : ℕ} {i : Fin 4}

/-! ### Searching the buffers -/

variable {D : Type} {p : BlockBuffer → Prop}

lemma holds_of_find {m : Machine D} [DecidablePred p]
    (h : m.find p = some i) : p (m.buffers i) := by
  simpa using List.find?_some h

lemma not_of_find {m : Machine D} [DecidablePred p]
    (h : m.find p = none) (i : Fin 4) : ¬p (m.buffers i) := by
  have := List.find?_eq_none.mp h i (List.mem_finRange i)
  simpa using this

/-- One round of the search for the oldest buffer. -/
def older (m : Machine Disks) (best : Option (Fin 4)) (i : Fin 4) : Option (Fin 4) :=
  if (m.buffers i).Evictable ∧
      best.all fun j => (m.buffers i).lruSeq < (m.buffers j).lruSeq then some i
  else best

lemma victim_eq : m.victim = (List.finRange 4).foldl (older m) none := rfl

lemma isSome_foldl : ∀ (l : List (Fin 4)) {best : Option (Fin 4)}, best.isSome →
    (l.foldl (older m) best).isSome
  | [], _, hb => hb
  | a :: l, best, hb => by
    refine isSome_foldl l ?_
    unfold older
    split
    · rfl
    · exact hb

lemma exists_victim (h : ∀ i, (m.buffers i).Evictable) : ∃ i, m.victim = some i := by
  rw [← Option.isSome_iff_exists, victim_eq, List.finRange_succ, List.foldl_cons]
  refine isSome_foldl _ ?_
  simp [older, h 0]

/-! ### What the cache keeps -/

def At (buf : BlockBuffer) (d : DeviceId) (b : ℕ) : Prop := buf.deviceId = d ∧ buf.blockIdx = b

/-- The users of the cache see the contents `v`; the data of the buffer `stale` do not count. -/
structure Shows (m : Machine Disks) (v : Contents) (stale : Option (Fin 4)) : Prop where
  settled : ∀ i, (m.buffers i).Evictable
  distinct : ∀ i j d b, (m.buffers i).Holds d b → (m.buffers j).Holds d b → i = j
  held : ∀ i d b, some i ≠ stale → (m.buffers i).Holds d b → (m.buffers i).data = v d b
  durable : ∀ d b, (∀ i, (m.buffers i).state = .dirty → ¬At (m.buffers i) d b) →
    m.dev.blocks d b = v d b

lemma buffers_modify_self (m : Machine Disks) (i : Fin 4) (f : BlockBuffer → BlockBuffer) :
    (m.modify i f).buffers i = f (m.buffers i) := by simp [Machine.modify]

lemma buffers_modify_of_ne {j : Fin 4} (hj : j ≠ i) (m : Machine Disks)
    (f : BlockBuffer → BlockBuffer) : (m.modify i f).buffers j = m.buffers j := by
  simp [Machine.modify, hj]

variable {v' : Contents}

/-- What a change of the buffer `i` and of the devices must keep. -/
lemma Shows.change {old : Option (Fin 4)} (h : Shows m v old)
    {stale : Option (Fin 4)} (hold : ∀ j ≠ i, some j ≠ old)
    (hj : ∀ j ≠ i, m'.buffers j = m.buffers j)
    (hv : ∀ j ≠ i, ∀ d b, (m.buffers j).Holds d b → v' d b = v d b) (hi : (m'.buffers i).Evictable)
    (hno : ∀ j ≠ i, ∀ d b, (m'.buffers i).Holds d b → ¬(m.buffers j).Holds d b)
    (hheld : some i ≠ stale → ∀ d b, (m'.buffers i).Holds d b → (m'.buffers i).data = v' d b)
    (hdev : ∀ d b, (∀ j ≠ i, (m.buffers j).state = .dirty → ¬At (m.buffers j) d b) →
      ((m'.buffers i).state = .dirty → ¬At (m'.buffers i) d b) → m'.dev.blocks d b = v' d b) :
    Shows m' v' stale where
  settled j := by
    by_cases hji : j = i
    · exact hji ▸ hi
    · exact hj j hji ▸ h.settled j
  distinct j k d b hjh hkh := by
    by_cases hji : j = i
    · by_cases hki : k = i
      · rw [hji, hki]
      rw [hji] at hjh
      rw [hj k hki] at hkh
      exact absurd hkh (hno k hki d b hjh)
    rw [hj j hji] at hjh
    by_cases hki : k = i
    · rw [hki] at hkh
      exact absurd hjh (hno j hji d b hkh)
    rw [hj k hki] at hkh
    exact h.distinct j k d b hjh hkh
  held j d b hs hjh := by
    by_cases hji : j = i
    · subst hji
      exact hheld hs d b hjh
    rw [hj j hji] at hjh ⊢
    rw [hv j hji d b hjh]
    exact h.held j d b (hold j hji) hjh
  durable d b hd := by
    refine hdev d b (fun j hji => ?_) (hd i)
    have := hd j
    rwa [hj j hji] at this

/-! ### The requests -/

lemma Shows.touch (h : Shows m v none) (i : Fin 4) : Shows (m.touch i) v none := by
  have hi : (m.touch i).buffers i = { m.buffers i with lruSeq := m.nextLruSeq + 1 } :=
    buffers_modify_self _ _ _
  refine h.change (i := i) (by simp) (fun j hji => buffers_modify_of_ne hji _ _)
    (fun _ _ _ _ _ => rfl) ?_ ?_ ?_ ?_
  · rw [hi]
    exact h.settled i
  · intro j hji d b hih hjh
    rw [hi] at hih
    exact hji (h.distinct j i d b hjh hih)
  · intro _ d b hih
    rw [hi] at hih ⊢
    exact h.held i d b (by simp) hih
  intro d b ho hd
  refine h.durable d b fun j hjd => ?_
  by_cases hji : j = i
  · subst hji
    rw [hi] at hd
    exact hd hjd
  · exact ho j hji hjd

/-- A buffer that is free, or whose data the device has, is given to a block. -/
lemma Shows.claim (h : Shows m v none) (hj : ∀ j ≠ i, m'.buffers j = m.buffers j)
    (hno : ∀ j, ¬(m.buffers j).Holds d b)
    (hdev : ∀ d b, (∀ j ≠ i, (m.buffers j).state = .dirty → ¬At (m.buffers j) d b) →
      m'.dev.blocks d b = v d b) :
    Shows (m'.claim i d b) v (some i) ∧ ((m'.claim i d b).buffers i).Holds d b ∧
      ((∀ j, ¬(m.buffers j).Holds d b) → ((m'.claim i d b).buffers i).state = .clean) := by
  have hi : (m'.claim i d b).buffers i = { m'.buffers i with
      deviceId := d
      blockIdx := b
      state := .clean
      pinCount := 0
      lruSeq := m'.nextLruSeq + 1 } := buffers_modify_self _ _ _
  refine ⟨h.change (i := i) (by simp) (fun j hji => ?_) (fun _ _ _ _ _ => rfl) ?_ ?_ ?_ ?_, ?_,
    fun _ => by rw [hi]⟩
  · rw [← hj j hji]
    exact buffers_modify_of_ne hji _ _
  · rw [hi]
    exact ⟨rfl, by simp, by simp⟩
  · intro j _ d' b' hih
    rw [hi] at hih
    obtain ⟨-, rfl, rfl⟩ := hih
    exact hno j
  · exact fun hs => absurd rfl hs
  · exact fun d' b' ho _ => hdev d' b' ho
  rw [hi]
  exact ⟨by simp, rfl, rfl⟩

lemma allocateSlot_shows (h : Shows m v none) (d : DeviceId) (b : ℕ) :
    ∃ i m', allocateSlot disks d b m = (.ok i, m') ∧ Shows m' v (some i) ∧
      (m'.buffers i).Holds d b ∧
      ((∀ j, ¬(m.buffers j).Holds d b) → (m'.buffers i).state = .clean) := by
  unfold allocateSlot
  cases hf : m.find (·.Holds d b) with
  | some i =>
    have hi : (m.touch i).buffers i = { m.buffers i with lruSeq := m.nextLruSeq + 1 } :=
      buffers_modify_self _ _ _
    have ht := h.touch i
    refine ⟨i, m.touch i, rfl,
      ⟨ht.settled, ht.distinct, fun j d b _ => ht.held j d b (by simp), ht.durable⟩, ?_,
      fun hno => absurd (holds_of_find hf) (hno i)⟩
    rw [hi]
    exact holds_of_find hf
  | none =>
    have hno := not_of_find hf
    cases hfree : m.find (·.state = .free) with
    | some i =>
      refine ⟨i, m.claim i d b, rfl, h.claim (fun _ _ => rfl) hno fun d b ho => ?_⟩
      refine h.durable d b fun j hjd => ?_
      by_cases hji : j = i
      · subst hji
        rw [holds_of_find hfree] at hjd
        cases hjd
      · exact ho j hji hjd
    | none =>
      obtain ⟨i, hi⟩ := exists_victim h.settled
      rw [hi]
      by_cases hd : (m.buffers i).state = .dirty
      · simp only [hd, if_true, disks]
        refine ⟨i, _, rfl, h.claim (fun j hji => update_of_ne hji _ _) hno fun d' b' ho => ?_⟩
        -- the buffer has been written to its place, the other places are as before
        have hheld := h.held i (m.buffers i).deviceId (m.buffers i).blockIdx (by simp)
          ⟨by rw [hd]; decide, rfl, rfl⟩
        by_cases hat : d' = (m.buffers i).deviceId ∧ b' = (m.buffers i).blockIdx
        · obtain ⟨rfl, rfl⟩ := hat
          exact (Contents.put_self _ _ _ _).trans hheld
        refine (Contents.put_of_ne hat _ _).trans (h.durable d' b' fun j hjd hja => ?_)
        by_cases hji : j = i
        · subst hji
          exact hat ⟨hja.1.symm, hja.2.symm⟩
        · exact ho j hji hjd hja
      simp only [hd, if_false]
      refine ⟨i, _, rfl, h.claim (fun _ _ => rfl) hno fun d b ho => ?_⟩
      refine h.durable d b fun j hjd => ?_
      by_cases hji : j = i
      · subst hji
        exact absurd hjd hd
      · exact ho j hji hjd

lemma stale_ne (j : Fin 4) (hji : j ≠ i) : some j ≠ some i :=
  fun h => hji (Option.some.inj h)

lemma Shows.fill (h : Shows m v (some i)) (hi : (m.buffers i).Holds d b)
    {x : Block} {state : BufferState} (hm : m'.buffers = (m.modify i fun buf =>
      { buf with data := x, state, pinCount := 0 }).buffers) (hdev : m'.dev = m.dev)
    (hstate : state = .clean ∧ x = m.dev.blocks d b ∧ v' = v ∧ (m.buffers i).state ≠ .dirty ∨
      state = .dirty ∧ v' = v.put d b x) : Shows m' v' none := by
  have hb : m'.buffers i = { m.buffers i with data := x, state, pinCount := 0 } := by
    rw [hm]
    exact buffers_modify_self _ _ _
  have hat : ∀ d' b', (m'.buffers i).Holds d' b' → d = d' ∧ b = b' := by
    intro d' b' h'
    rw [hb] at h'
    exact ⟨hi.2.1.symm.trans h'.2.1, hi.2.2.symm.trans h'.2.2⟩
  refine h.change stale_ne (fun j hji => ?_) (fun j hji d' b' hjh => ?_) ?_ ?_ ?_ ?_
  · rw [hm]
    exact buffers_modify_of_ne hji _ _
  · rcases hstate with ⟨-, -, rfl, -⟩ | ⟨-, rfl⟩
    · rfl
    refine Contents.put_of_ne ?_ _ _
    rintro ⟨rfl, rfl⟩
    exact hji (h.distinct j i _ _ hjh hi)
  · rw [hb]
    rcases hstate with ⟨rfl, -⟩ | ⟨rfl, -⟩
    · exact ⟨rfl, by simp, by simp⟩
    · exact ⟨rfl, by simp, by simp⟩
  · intro j hji d' b' hih hjh
    obtain ⟨rfl, rfl⟩ := hat d' b' hih
    exact hji (h.distinct j i _ _ hjh hi)
  · intro _ d' b' hih
    obtain ⟨rfl, rfl⟩ := hat d' b' hih
    rw [hb]
    rcases hstate with ⟨-, rfl, rfl, hnd⟩ | ⟨-, rfl⟩
    · refine h.durable d b fun j hjd hja => ?_
      have hji : j = i := h.distinct j i d b ⟨by rw [hjd]; decide, hja⟩ hi
      exact hnd (hji ▸ hjd)
    · exact (Contents.put_self v d b x).symm
  intro d' b' ho hd
  rw [hdev]
  rcases hstate with ⟨-, -, rfl, hnd⟩ | ⟨rfl, rfl⟩
  · refine h.durable d' b' fun j hjd => ?_
    by_cases hji : j = i
    · exact absurd (hji ▸ hjd) hnd
    · exact ho j hji hjd
  have hne : ¬(d' = d ∧ b' = b) := by
    rintro ⟨rfl, rfl⟩
    rw [hb] at hd
    exact hd rfl ⟨hi.2.1, hi.2.2⟩
  rw [Contents.put_of_ne hne]
  refine h.durable d' b' fun j hjd hja => ?_
  by_cases hji : j = i
  · subst hji
    exact hne ⟨hja.1.symm.trans hi.2.1, hja.2.symm.trans hi.2.2⟩
  · exact ho j hji hjd hja

section

variable (h : Shows m v none)

include h

lemma writeBlockCached_shows (d : DeviceId) (b : ℕ) (x : Block) :
    ∃ m', writeBlockCached disks d b x m = (.ok (), m') ∧ Shows m' (v.put d b x) none := by
  obtain ⟨i, m1, ha, h1, hi, -⟩ := allocateSlot_shows h d b
  refine ⟨m1.modify i fun buf => { buf with data := x, state := .dirty }, ?_, ?_⟩
  · simp only [writeBlockCached, ha]
  refine h1.fill hi ?_ rfl (.inr ⟨rfl, rfl⟩)
  have hpin := (h1.settled i).1
  simp only [Machine.modify, ← hpin]

lemma readBlockCached_shows (d : DeviceId) (b : ℕ) :
    ∃ m', readBlockCached disks d b m = (.ok (v d b), m') ∧ Shows m' v none := by
  unfold readBlockCached
  cases hf : m.find (·.Holds d b) with
  | some i =>
    refine ⟨m.touch i, ?_, h.touch i⟩
    simp only [h.held i d b (by simp) (holds_of_find hf)]
  | none =>
    obtain ⟨i, m1, ha, h1, hi, hclean⟩ := allocateSlot_shows h d b
    have hc := hclean (not_of_find hf)
    have hv : m1.dev.blocks d b = v d b := by
      refine h1.durable d b fun j hjd hja => ?_
      have hji : j = i := h1.distinct j i d b ⟨by rw [hjd]; decide, hja⟩ hi
      rw [hji, hc] at hjd
      cases hjd
    simp only [ha]
    refine ⟨_, Prod.ext (congrArg Except.ok hv) rfl, h1.fill hi ?_ rfl
      (.inl ⟨rfl, rfl, rfl, by rw [hc]; decide⟩)⟩
    simp [Machine.modify, disks]

lemma writeOut_shows (hd : (m.buffers i).state = .dirty) :
    ∃ m', writeOut disks i m = (.ok (), m') ∧ Shows m' v none ∧ (m'.buffers i).state = .clean ∧
      ∀ j ≠ i, m'.buffers j = m.buffers j := by
  refine ⟨_, rfl, ?_, by simp [Machine.modify], fun j hji => by simp [Machine.modify, hji]⟩
  have hlive : (m.buffers i).Holds (m.buffers i).deviceId (m.buffers i).blockIdx :=
    ⟨by rw [hd]; decide, rfl, rfl⟩
  have hheld := h.held i _ _ (by simp) hlive
  refine h.change (i := i) (by simp) (fun j hji => by simp [Machine.modify, hji])
    (fun _ _ _ _ _ => rfl) ?_ ?_ ?_ ?_
  · simpa [Machine.modify, BlockBuffer.Evictable] using (h.settled i).1
  · intro j hji d b hih hjh
    have hih' : (m.buffers i).Holds d b := by
      simp only [Machine.modify, BlockBuffer.Holds, update_self] at hih
      exact ⟨by rw [hd]; decide, hih.2⟩
    exact hji (h.distinct j i d b hjh hih')
  · intro _ d b hih
    simp only [Machine.modify, BlockBuffer.Holds, update_self] at hih ⊢
    obtain ⟨-, rfl, rfl⟩ := hih
    exact hheld
  intro d b ho _
  by_cases hat : d = (m.buffers i).deviceId ∧ b = (m.buffers i).blockIdx
  · obtain ⟨rfl, rfl⟩ := hat
    exact (Contents.put_self _ _ _ _).trans hheld
  refine (Contents.put_of_ne hat _ _).trans (h.durable d b fun j hjd hja => ?_)
  by_cases hji : j = i
  · subst hji
    exact hat ⟨hja.1.symm, hja.2.symm⟩
  · exact ho j hji hjd hja

lemma syncBlockCached_shows (d : DeviceId) (b : ℕ) :
    ∃ m', syncBlockCached disks d b m = (.ok (), m') ∧ Shows m' v none ∧ m'.dev.blocks d b = v d b ∧
      ∀ i, (m'.buffers i).state = .dirty → ¬At (m'.buffers i) d b := by
  unfold syncBlockCached
  cases hf : m.find fun buf => buf.state = .dirty ∧ buf.deviceId = d ∧ buf.blockIdx = b with
  | none =>
    have hnd : ∀ i, (m.buffers i).state = .dirty → ¬At (m.buffers i) d b :=
      fun i hid hia => not_of_find hf i ⟨hid, hia⟩
    exact ⟨m, rfl, h, h.durable d b hnd, hnd⟩
  | some i =>
    have hi := holds_of_find hf
    obtain ⟨m', hm', h', hclean, hothers⟩ := writeOut_shows h hi.1
    have hnd : ∀ j, (m'.buffers j).state = .dirty → ¬At (m'.buffers j) d b := by
      intro j hjd hja
      by_cases hji : j = i
      · rw [hji, hclean] at hjd
        cases hjd
      rw [hothers j hji] at hjd hja
      exact hji (h.distinct j i d b ⟨by rw [hjd]; decide, hja⟩ ⟨by rw [hi.1]; decide, hi.2⟩)
    simp only [hm']
    exact ⟨m', rfl, h', h'.durable d b hnd, hnd⟩

end

lemma syncBuffers_shows (d : DeviceId) : ∀ (l : List (Fin 4)) {m : Machine Disks},
    Shows m v none → ∃ m', syncBuffers disks d l m = (.ok (), m') ∧ Shows m' v none ∧
      (∀ i ∈ l, ¬((m'.buffers i).state = .dirty ∧ (m'.buffers i).deviceId = d)) ∧
      ∀ i, ¬((m.buffers i).state = .dirty ∧ (m.buffers i).deviceId = d) →
        m'.buffers i = m.buffers i
  | [], m, h => ⟨m, rfl, h, by simp, fun _ _ => rfl⟩
  | i :: l, m, h => by
    unfold syncBuffers
    by_cases hd : (m.buffers i).state = .dirty ∧ (m.buffers i).deviceId = d
    · obtain ⟨m1, hm1, h1, hclean, hothers⟩ := writeOut_shows h hd.1
      obtain ⟨m', hm', h', hl, hkeep⟩ := syncBuffers_shows d l h1
      simp only [hd, and_self, if_true, hm1, hm']
      have hi : m'.buffers i = m1.buffers i := hkeep i (by simp [hclean])
      refine ⟨m', rfl, h', ?_, fun j hj => ?_⟩
      · intro j hj
        rcases List.mem_cons.mp hj with rfl | hj
        · rw [hi, hclean]
          simp
        · exact hl j hj
      have hji : j ≠ i := fun hji => hj (hji ▸ hd)
      rw [hkeep j (by rwa [hothers j hji]), hothers j hji]
    obtain ⟨m', hm', h', hl, hkeep⟩ := syncBuffers_shows d l h
    simp only [hd, if_false, hm']
    refine ⟨m', rfl, h', ?_, hkeep⟩
    intro j hj
    rcases List.mem_cons.mp hj with rfl | hj
    · rwa [hkeep j hd]
    · exact hl j hj

lemma syncAllCached_shows (h : Shows m v none) (d : DeviceId) :
    ∃ m', syncAllCached disks d m = (.ok (), m') ∧ Shows m' v none ∧ m'.dev.blocks d = v d ∧
      ∀ i, (m'.buffers i).deviceId = d → (m'.buffers i).state ≠ .dirty := by
  obtain ⟨m', hm', h', hl, -⟩ := syncBuffers_shows d (List.finRange 4) h
  simp only [syncAllCached, hm']
  have hclean : ∀ i, (m'.buffers i).deviceId = d → (m'.buffers i).state ≠ .dirty :=
    fun i hi hd => hl i (List.mem_finRange i) ⟨hd, hi⟩
  exact ⟨m', rfl, h', funext fun b => h'.durable d b fun i hd ha => hclean i ha.1 hd, hclean⟩

/-! ### The simulation -/

def SystemShows (s : System Disks) (vol : Volume) : Prop :=
  Shows s.machine vol.blocks none ∧ s.objects = vol.objects

/-- The volume that the cache shows. -/
def shown (s : System Disks) : Volume where
  blocks d b :=
    match s.machine.find (BlockBuffer.Holds d b) with
    | some i => (s.machine.buffers i).data
    | none => s.machine.dev.blocks d b
  objects := s.objects

variable {s : System Disks} {vol : Volume}

lemma shown_eq (h : SystemShows s vol) : shown s = vol := by
  obtain ⟨hm, ho⟩ := h
  have hb : (shown s).blocks = vol.blocks := by
    funext d b
    simp only [shown]
    split
    next i hi =>
      exact hm.held i d b (by simp) (holds_of_find hi)
    rename_i hnone
    refine hm.durable d b fun i hd hat => not_of_find hnone i ⟨?_, hat⟩
    rw [hd]
    decide
  rw [show vol = ⟨vol.blocks, vol.objects⟩ from rfl, ← hb, ← ho]
  rfl

lemma machine_related (o : Request) (s : System Disks) (vol : Volume) (h : SystemShows s vol) :
    (machine disks o s).1 = (volume o vol).1 ∧
      SystemShows (machine disks o s).2 (volume o vol).2 := by
  obtain ⟨hm, ho⟩ := h
  cases o with
  | read d k b =>
    obtain ⟨m', hr, h'⟩ := readBlockCached_shows hm d b
    simp only [machine, onMachine, hr]
    exact ⟨rfl, h', ho⟩
  | write d k b x =>
    obtain ⟨m', hr, h'⟩ := writeBlockCached_shows hm d b ((format k).symm x)
    simp only [machine, onMachine, hr]
    exact ⟨rfl, h', ho⟩
  | syncBlock d b =>
    obtain ⟨m', hr, h', -⟩ := syncBlockCached_shows hm d b
    simp only [machine, onMachine, hr]
    exact ⟨rfl, h', ho⟩
  | syncAll d =>
    obtain ⟨m', hr, h', -⟩ := syncAllCached_shows hm d
    simp only [machine, onMachine, hr]
    exact ⟨rfl, h', ho⟩
  | objects => exact ⟨ho, hm, ho⟩
  | setObjects t => exact ⟨rfl, hm, rfl⟩

variable {α : Type}

/-- **Transparency.** A program runs on the cache as it runs on the volume the cache shows. -/
lemma exec_machine (p : FsM α) (h : SystemShows s vol) :
    (exec (machine disks) p s).1 = (exec volume p vol).1 ∧
      SystemShows (exec (machine disks) p s).2 (exec volume p vol).2 :=
  run_related machine_related p.run h

variable {r : Option (Except FsError α)}

lemma machine_of_volume {p : FsM α} {vol' : Volume} (hs : SystemShows s vol)
    (h : exec volume p vol = (r, vol')) :
    ∃ s', exec (machine disks) p s = (r, s') ∧ SystemShows s' vol' := by
  have hr := exec_machine p hs
  rw [h] at hr
  exact ⟨_, Prod.ext hr.1 rfl, hr.2⟩

lemma volume_of_machine {p : FsM α} {s' : System Disks} (hs : SystemShows s vol)
    (h : exec (machine disks) p s = (r, s')) :
    ∃ vol', exec volume p vol = (r, vol') ∧ SystemShows s' vol' := by
  have hr := exec_machine p hs
  rw [h] at hr
  exact ⟨_, Prod.ext hr.1.symm rfl, hr.2⟩

end ProjectZero.Fs.Transparent
