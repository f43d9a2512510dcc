import ProjectZero.Fs.Transparent

/-! # What reaches the devices

The devices are written only with the data of dirty buffers. If the blocks that are dirty at first and
those a program writes have a property, so have all writes the devices see while it runs, and all
blocks that are dirty after it. A sync leaves no dirty buffer of its device. -/

namespace ProjectZero.Fs.Durable

open Fs.Types Store Buf Transparent

/-- A property of what is written to a block. -/
abbrev Allowed := DeviceId → ℕ → Block → Prop

def applyWrites (k : Disks) (w : List (DeviceId × ℕ × Block)) : Disks :=
  w.foldl (fun k e => k.put e.1 e.2.1 e.2.2) k

lemma applyWrites_append (k : Disks) (w w' : List (DeviceId × ℕ × Block)) :
    applyWrites k (w ++ w') = applyWrites (applyWrites k w) w' := List.foldl_append

/-- All dirty buffers hold allowed data. -/
def DirtyIn (W : Allowed) (m : Machine Disks) : Prop :=
  ∀ i, (m.buffers i).state = .dirty →
    W (m.buffers i).deviceId (m.buffers i).blockIdx (m.buffers i).data

/-- From `m` to `m'` the devices were written with allowed data only, and what is dirty in `m'` is
allowed. -/
structure Flows (W : Allowed) (m m' : Machine Disks) : Prop where
  written : ∃ w, m'.dev = applyWrites m.dev w ∧ ∀ e ∈ w, W e.1 e.2.1 e.2.2
  dirty : DirtyIn W m'

variable {W : Allowed} {m m' m'' : Machine Disks} {d : DeviceId} {b : ℕ} {i : Fin 4}

lemma Flows.refl (h : DirtyIn W m) : Flows W m m := ⟨⟨[], rfl, by simp⟩, h⟩

lemma Flows.trans (h : Flows W m m') (h' : Flows W m' m'') : Flows W m m'' := by
  obtain ⟨w, hw, ha⟩ := h.written
  obtain ⟨w', hw', ha'⟩ := h'.written
  refine ⟨⟨w ++ w', by rw [applyWrites_append, ← hw, hw'], fun e he => ?_⟩, h'.dirty⟩
  rcases List.mem_append.mp he with he | he
  · exact ha e he
  · exact ha' e he

lemma Flows.of_modify (h : DirtyIn W m) (hdev : m'.dev = m.dev)
    (hj : ∀ j ≠ i, m'.buffers j = m.buffers j)
    (hi : (m'.buffers i).state = .dirty →
      W (m'.buffers i).deviceId (m'.buffers i).blockIdx (m'.buffers i).data) : Flows W m m' := by
  refine ⟨⟨[], hdev, by simp⟩, fun j hd => ?_⟩
  by_cases hji : j = i
  · subst hji
    exact hi hd
  rw [hj j hji] at hd ⊢
  exact h j hd

lemma Flows.of_write (h : DirtyIn W m) (hi : (m.buffers i).state = .dirty)
    (hdev : m'.dev = m.dev.put (m.buffers i).deviceId (m.buffers i).blockIdx (m.buffers i).data)
    (hj : ∀ j ≠ i, m'.buffers j = m.buffers j) (hc : (m'.buffers i).state ≠ .dirty) :
    Flows W m m' := by
  refine ⟨⟨[((m.buffers i).deviceId, (m.buffers i).blockIdx, (m.buffers i).data)], hdev, ?_⟩,
    fun j hd => ?_⟩
  · intro e he
    rw [List.mem_singleton.mp he]
    exact h i hi
  by_cases hji : j = i
  · subst hji
    exact absurd hd hc
  rw [hj j hji] at hd ⊢
  exact h j hd

/-! ### The requests -/

lemma touch_flows (h : DirtyIn W m) (i : Fin 4) : Flows W m (m.touch i) := by
  refine .of_modify h rfl (fun j hji => update_of_ne hji _ _) (i := i) ?_
  simpa [Machine.touch, Machine.modify, Machine.tick] using h i

lemma claim_state (m : Machine Disks) (i : Fin 4) (d : DeviceId) (b : ℕ) :
    ((m.claim i d b).buffers i).state = .clean := by simp [Machine.claim, Machine.modify]

lemma claim_flows (h : DirtyIn W m) (i : Fin 4) (d : DeviceId) (b : ℕ) :
    Flows W m (m.claim i d b) := by
  refine .of_modify h rfl (fun j hji => update_of_ne hji _ _) (i := i) fun hd => ?_
  rw [claim_state] at hd
  cases hd

lemma allocateSlot_flows (h : DirtyIn W m) {r : Except FsError (Fin 4)}
    (ha : allocateSlot disks d b m = (r, m')) : Flows W m m' := by
  unfold allocateSlot at ha
  split at ha
  · cases ha
    exact touch_flows h _
  split at ha
  · cases ha
    exact claim_flows h _ d b
  split at ha
  · cases ha
    exact .refl h
  dsimp only at ha
  split at ha
  next hd =>
    cases ha
    refine .of_write h hd rfl (fun j hji => ?_) ?_
    · simp [Machine.claim, Machine.tick, Machine.modify, hji]
    rw [claim_state]
    decide
  cases ha
  exact claim_flows h _ d b

variable {v : Contents}

lemma writeBlockCached_flows (hs : Shows m v none) (h : DirtyIn W m) {x : Block}
    (hW : W d b x) : Flows W m (writeBlockCached disks d b x m).2 := by
  obtain ⟨i, m1, ha, -, hi, -⟩ := allocateSlot_shows hs d b
  have hf := allocateSlot_flows h ha
  simp only [writeBlockCached, ha]
  refine hf.trans (.of_modify hf.dirty rfl (fun j hji => update_of_ne hji _ _) (i := i) ?_)
  intro _
  simpa [Machine.modify, hi.2.1, hi.2.2] using hW

lemma writeOut_flows (h : DirtyIn W m) (hd : (m.buffers i).state = .dirty) :
    Flows W m (writeOut disks i m).2 := by
  refine .of_write h hd rfl (fun j hji => ?_) ?_
  · simp [writeOut, Machine.modify, hji]
  · simp [writeOut, Machine.modify]

lemma syncBlockCached_flows (h : DirtyIn W m) : Flows W m (syncBlockCached disks d b m).2 := by
  unfold syncBlockCached
  cases hf : m.find fun buf => buf.state = .dirty ∧ buf.deviceId = d ∧ buf.blockIdx = b with
  | none => exact .refl h
  | some i => exact writeOut_flows h (holds_of_find hf).1

lemma syncBuffers_flows : ∀ (l : List (Fin 4)) {m : Machine Disks}, DirtyIn W m →
    Flows W m (syncBuffers disks d l m).2
  | [], _, h => .refl h
  | i :: l, m, h => by
    unfold syncBuffers
    split
    next hd =>
      have hf := writeOut_flows h hd.1
      exact hf.trans (syncBuffers_flows l hf.dirty)
    · exact syncBuffers_flows l h

lemma syncAllCached_flows (h : DirtyIn W m) : Flows W m (syncAllCached disks d m).2 := by
  have hf := syncBuffers_flows (d := d) (List.finRange 4) h
  unfold syncAllCached
  rcases hr : syncBuffers disks d (List.finRange 4) m with ⟨_ | _, m'⟩
  · rw [hr] at hf
    exact hf
  rw [hr] at hf
  exact hf

lemma not_dirty_of_syncBlock (hs : Shows m v none) (h : DirtyIn W m) :
    DirtyIn (fun d' b' x => W d' b' x ∧ ¬(d' = d ∧ b' = b)) (syncBlockCached disks d b m).2 := by
  obtain ⟨m', hm', -, -, hnd⟩ := syncBlockCached_shows hs d b
  have hf := syncBlockCached_flows (d := d) (b := b) h
  rw [hm'] at hf ⊢
  exact fun i hi => ⟨hf.dirty i hi, fun hat => hnd i hi hat⟩

lemma not_dirty_of_syncAll (hs : Shows m v none) (h : DirtyIn W m) :
    DirtyIn (fun d' b' x => W d' b' x ∧ d' ≠ d) (syncAllCached disks d m).2 := by
  obtain ⟨m', hm', -, -, hnd⟩ := syncAllCached_shows hs d
  have hf := syncAllCached_flows (d := d) h
  rw [hm'] at hf ⊢
  exact fun i hi => ⟨hf.dirty i hi, fun hat => hnd i hat hi⟩

/-! ### Synced devices -/

/-- The cache is as the code keeps it. -/
def Coherent (s : System Disks) : Prop := ∃ vol, SystemShows s vol

def Synced (s : System Disks) (d : DeviceId) : Prop := DirtyIn (fun d' _ _ => d' ≠ d) s.machine

variable {s s' : System Disks} {vol : Volume}

lemma coherent_exec {α : Type} (hs : Coherent s) (p : FsM α) :
    Coherent (exec (machine disks) p s).2 := by
  obtain ⟨vol, hv⟩ := hs
  exact ⟨_, (exec_machine p hv).2⟩

lemma coherent_of_exec {α : Type} (hs : Coherent s) {p : FsM α}
    {r : Option (Except FsError α)} (hr : exec (machine disks) p s = (r, s')) : Coherent s' := by
  have := coherent_exec hs p
  rwa [hr] at this

lemma Synced.blocks_eq (h : Synced s d) (hs : SystemShows s vol) :
    s.machine.dev.blocks d = vol.blocks d :=
  funext fun b => hs.1.durable d b fun i hi hat => h i hi hat.1

lemma dirtyIn_true (m : Machine Disks) : DirtyIn (fun _ _ _ => True) m := fun _ _ => trivial

lemma DirtyIn.mono {W' : Allowed} (h : DirtyIn W m) (hW : ∀ d b x, W d b x → W' d b x) :
    DirtyIn W' m := fun i hi => hW _ _ _ (h i hi)

lemma synced_of_syncAll (hs : SystemShows s vol) {r : Option (Except FsError Unit)}
    (hr : exec (machine disks) (syncAllBuffers d) s = (r, s')) : Synced s' d := by
  have h := not_dirty_of_syncAll (d := d) hs.1 (dirtyIn_true s.machine)
  have hs' : s'.machine = (syncAllCached disks d s.machine).2 :=
    congrArg (fun x => x.2.machine) hr.symm
  intro i hi
  rw [hs'] at hi ⊢
  exact (h i hi).2

lemma synced_of_writeSync (hs : SystemShows s vol) (h : Synced s d) {k : Kind} {x : View k}
    {r : Option (Except FsError Unit)}
    (hr : exec (machine disks) (do writeBlock d k b x; syncBlock d b) s = (r, s')) :
    Synced s' d := by
  obtain ⟨m1, hw, h1⟩ := writeBlockCached_shows hs.1 d b ((format k).symm x)
  have hd : DirtyIn (fun d' b' _ => d' ≠ d ∨ b' = b) m1 := by
    have := (writeBlockCached_flows (W := fun d' b' _ => d' ≠ d ∨ b' = b) (d := d) (b := b)
      (x := (format k).symm x) hs.1 (h.mono fun _ _ _ => .inl) (.inr rfl)).dirty
    rwa [hw] at this
  have h2 := not_dirty_of_syncBlock (d := d) (b := b) h1 hd
  have hw' : exec (machine disks) (writeBlock d k b x) s =
      (some (.ok ()), { s with machine := m1 }) :=
    congrArg (fun y => (some y.1, { s with machine := y.2 })) hw
  rw [exec_bind_ok hw'] at hr
  have hs' : s'.machine = (syncBlockCached disks d b m1).2 :=
    congrArg (fun x => x.2.machine) hr.symm
  intro i hi
  rw [hs'] at hi ⊢
  rcases h2 i hi with ⟨hne | hb, hn⟩
  · exact hne
  · exact fun hd => hn ⟨hd, hb⟩

/-! ### After a crash -/

def onDisk (s : System Disks) : Volume := ⟨s.machine.dev.blocks, s.objects⟩

/-- The system after a restart: an empty cache and no open files. -/
def restarted (s : System Disks) : System Disks := ⟨.fresh s.machine.dev, fun _ => .empty⟩

lemma shows_fresh (k : Disks) : Shows (.fresh k) k.blocks none where
  settled _ := ⟨rfl, by simp [Machine.fresh, BlockBuffer.empty], by
    simp [Machine.fresh, BlockBuffer.empty]⟩
  distinct _ _ _ _ h := absurd rfl h.1
  held _ _ _ _ h := absurd rfl h.1
  durable _ _ _ := rfl

lemma restarted_shows (s : System Disks) :
    SystemShows (restarted s) ⟨s.machine.dev.blocks, fun _ => .empty⟩ := ⟨shows_fresh _, rfl⟩

def blankSystem : System Disks := ⟨.fresh ⟨fun _ _ => zeroBlock, []⟩, fun _ => .empty⟩

lemma blankSystem_shows : SystemShows blankSystem ⟨fun _ _ => zeroBlock, fun _ => .empty⟩ :=
  ⟨shows_fresh _, rfl⟩

end ProjectZero.Fs.Durable
