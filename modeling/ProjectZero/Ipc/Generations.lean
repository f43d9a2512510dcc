import ProjectZero.Ipc.Footprint

/-! # Handle generations

The generation of a handle slot moves when its handle goes, and at most once in a step of the system.
An operation first fills free slots and then vacates occupied ones. -/

namespace ProjectZero.Ipc.Generations

open Lib.Run Tables Cap.Ops Cap.RevokeLoop Cap.Calls Object Ipc.Channel Steps Footprint

variable {k : Kernel}

/-! ### The three relations -/

/-- The slots keep their generations: at most, free ones are filled. -/
structure Fills (k k' : Kernel) : Prop where
  sound : Sound k'
  generation : ∀ s, (k'.entry s).handleGeneration = (k.entry s).handleGeneration

/-- A slot stays as it is, or is vacated. -/
structure Vacates (k k' : Kernel) : Prop where
  sound : Sound k'
  entry : ∀ s, k'.entry s = k.entry s ∨
    (k.entry s).occupied ∧ k'.entry s = vacate (k.entry s)

/-- The generation of a slot stays or moves once. -/
structure Turns (k k' : Kernel) : Prop where
  sound : Sound k'
  generation : ∀ s, (k'.entry s).handleGeneration = (k.entry s).handleGeneration ∨
    (k'.entry s).handleGeneration = bumpGeneration (k.entry s).handleGeneration

variable {k₁ k₂ k₃ : Kernel}

lemma Fills.trans (h₁ : Fills k₁ k₂) (h₂ : Fills k₂ k₃) : Fills k₁ k₃ :=
  ⟨h₂.sound, fun s => (h₂.generation s).trans (h₁.generation s)⟩

lemma Vacates.trans (h₁ : Vacates k₁ k₂) (h₂ : Vacates k₂ k₃) : Vacates k₁ k₃ := by
  refine ⟨h₂.sound, fun s => ?_⟩
  rcases h₁.entry s with e1 | ⟨ho, e1⟩
  · rw [← e1]
    exact h₂.entry s
  rcases h₂.entry s with e2 | ⟨ho2, -⟩
  · exact .inr ⟨ho, e2.trans e1⟩
  rw [e1] at ho2
  simp [vacate] at ho2

lemma Fills.vacates (h₁ : Fills k₁ k₂) (h₂ : Vacates k₂ k₃) : Turns k₁ k₃ := by
  refine ⟨h₂.sound, fun s => ?_⟩
  rw [← h₁.generation s]
  rcases h₂.entry s with e | ⟨-, e⟩
  · exact .inl (by rw [e])
  · exact .inr (by rw [e]; rfl)

lemma Fills.refl (h : Sound k) : Fills k k := ⟨h, fun _ => rfl⟩

lemma Vacates.refl (h : Sound k) : Vacates k k := ⟨h, fun _ => .inl rfl⟩

lemma Fills.turns {k' : Kernel} (h : Fills k k') : Turns k k' := h.vacates (.refl h.sound)

lemma Vacates.turns {k' : Kernel} (h : Vacates k k') (hs : Sound k) : Turns k k' :=
  (Fills.refl hs).vacates h

lemma Fills.of_same {k' : Kernel} (h : Sound k) (hs : SameHandles k k') : Fills k k' :=
  ⟨h.of_same hs, fun s => by rw [hs.entry]⟩

lemma Vacates.of_same {k' : Kernel} (h : Sound k) (hs : SameHandles k k') : Vacates k k' :=
  ⟨h.of_same hs, fun s => .inl (by rw [hs.entry])⟩

/-! ### Operations -/

lemma Fills.of_edit {k' : Kernel} (h : Sound k) (he : Edit k .fill k') : Fills k k' := by
  refine ⟨he.sound h, fun u => ?_⟩
  obtain ⟨d, e, hentry, -, -, hgen, -⟩ := he.fill_cases
  rw [hentry]
  by_cases hu : u = d
  · subst hu; rw [update_self, hgen]
  · rw [update_of_ne hu]

lemma Vacates.of_edit {k' : Kernel} (h : Sound k) (he : Edit k .vacate k') : Vacates k k' := by
  refine ⟨he.sound h, fun u => ?_⟩
  cases he with
  | @closed s node live unlinked =>
    by_cases hu : u = s
    · subst hu
      exact .inr ⟨live, update_self _ _ _⟩
    · exact .inl (update_of_ne hu _ _)
  | @pruned x dn _ live desc pruned =>
    by_cases hu : u ∈ dn
    · have hlive : Live k.entry u := Lib.Tree.desc_live ((desc u).mp hu)
      exact .inr ⟨hlive, pruned.entry_in u hu⟩
    · exact .inl (pruned.entry_out u hu)

lemma Turns.of_move {k' : Kernel} (h : Sound k) (he : Edit k .move k') : Turns k k' := by
  refine ⟨he.sound h, fun s => ?_⟩
  cases he with
  | @moved d x node _ live vacant moved n =>
    have hsrc := plantMoved_src (k := { k with nextCapabilityId := n }) node live vacant
    have hdst := plantMoved_dst (k := { k with nextCapabilityId := n }) node live vacant
    by_cases hs : s = x
    · subst hs
      rw [hsrc]
      exact .inr rfl
    by_cases hsd : s = d
    · subst hsd
      rw [hdst]
      exact .inl rfl
    rw [plantMoved_of_ne node hsd hs]
    exact .inl rfl

variable {A : Kind → Prop} {k' : Kernel}

/-- **Operations that vacate no slot.** -/
lemma Fills.of_moves (h : Sound k) (hA : ∀ c, A (.handles c) → c = .fill) (hm : Moves A k k') :
    Fills k k' := by
  refine hm.lift (R := fun k k' => Sound k → Fills k k') (fun _ => .refl)
    (fun h1 h2 h => (h1 h).trans (h2 (h1 h).sound)) (fun hc h => ?_) h
  rcases handles_of_change hc with hs | ⟨c, a, edit⟩
  · exact .of_same h hs
  obtain rfl := hA c a
  exact .of_edit h edit

lemma Vacates.of_moves (h : Sound k) (hA : ∀ c, A (.handles c) → c = .vacate)
    (hm : Moves A k k') : Vacates k k' := by
  refine hm.lift (R := fun k k' => Sound k → Vacates k k') (fun _ => .refl)
    (fun h1 h2 h => (h1 h).trans (h2 (h1 h).sound)) (fun hc h => ?_) h
  rcases handles_of_change hc with hs | ⟨c, a, edit⟩
  · exact .of_same h hs
  obtain rfl := hA c a
  exact .of_edit h edit

lemma transferMove_turns (h : Sound k) (src : Slot) (dst : PSlot) :
    Leaves (Turns k) (transferMoveLocked k src dst) := by
  rcases transferMove_cases k src dst with ⟨e, he⟩ | ⟨d, id, he⟩
  · rw [he]; exact (Fills.refl h).turns
  rw [he]
  have ht : Sound (takeId k) := h
  rcases installMoved_cases ht (dst, d) src id with
    he | ⟨node, hx, hd, ⟨hm, -⟩, he⟩
  · rw [he]; trivial
  rw [he]
  exact .of_move h (.moved (k := k) hx hd hm (k.nextCapabilityId + 1))

/-- **A new channel**: when there is no room for the second handle, the first was filled in before it
is vacated again. -/
lemma channelHandles_turns (h : Sound k) (p : PSlot) (i : ObjIdx) :
    Leaves (Turns k) (channelHandles k p i) := by
  have hfills : ∀ {k₁ k₂ : Kernel}, Sound k₁ → Moves (Eq (.handles .fill)) k₁ k₂ → Fills k₁ k₂ :=
    fun hs hm => .of_moves hs (fun c hc => by cases hc; rfl) hm
  refine .bind (allocateHandleEntry_moves rfl k p i channelRights 0) fun r hm1 => ?_
  have h₁ := hfills h hm1
  obtain ⟨r0, k₁⟩ := r
  cases r0 with
  | error e =>
    exact .bind (freeObjectSlot_same k₁ i).ensures fun _ hs =>
      (h₁.trans (.of_same h₁.sound hs)).turns
  | ok h0 =>
    refine .bind (allocateHandleEntry_moves rfl k₁ p i channelRights 1) fun r hm2 => ?_
    have h2 := hfills h₁.sound hm2
    obtain ⟨r1, k₂⟩ := r
    cases r1 with
    | error e =>
      refine .bind (closeHandle_moves rfl h2.sound p h0) fun r hm3 => ?_
      have h3 : Vacates k₂ r.2 := .of_moves h2.sound (fun c hc => by cases hc; rfl) hm3
      exact .bind (freeObjectSlot_same r.2 i).ensures fun _ hs =>
        (h₁.trans h2).vacates (h3.trans (.of_same h3.sound hs))
    | ok h1 => exact (h₁.trans h2).turns

lemma channelCreate_turns (h : Sound k) (t : TSlot) : Leaves (Turns k) (channelCreate k t) := by
  rcases channelCreate_cases k t with ⟨e, n, he⟩ | ⟨p, i, o, n, -, he⟩
  · rw [he]
    exact ⟨h, fun _ => .inl rfl⟩
  rw [he]
  refine (channelHandles_turns ?_ p i).mono fun _ ht => ⟨ht.sound, ht.generation⟩
  exact h

lemma exec_turns {σ : System} (h : Sound σ.kernel) (op : Op) :
    Ensures (fun r => Turns σ.kernel r.2.kernel) (op.exec σ) := by
  have hmoves := exec_moves (A := (· ∈ needs op)) h op fun _ ha => ha
  have hfills (hA : ∀ c, .handles c ∈ needs op → c = .fill) :
      Ensures (fun r => Turns σ.kernel r.2.kernel) (op.exec σ) :=
    hmoves.mono fun _ hm => (Fills.of_moves h hA hm).turns
  have hvacates (hA : ∀ c, .handles c ∈ needs op → c = .vacate) :
      Ensures (fun r => Turns σ.kernel r.2.kernel) (op.exec σ) :=
    hmoves.mono fun _ hm => (Vacates.of_moves h hA hm).turns h
  cases op with
  | call t c =>
    cases c with
    | channelCreate => exact ensures_only (channelCreate_turns h t)
    | shmCreate | derive | duplicate => exact hfills (by simp [needs, callNeeds])
    | _ => exact hvacates (by simp [needs, callNeeds])
  | move src dst => exact ensures_only (transferMove_turns h src dst)
  | delegate => exact hfills (by simp [needs])
  | _ => exact hvacates (by simp [needs])

end ProjectZero.Ipc.Generations
