import ProjectZero.Ipc.Endpoints

/-! # The endpoints of live handles are open

The endpoint of every handle is open in every state of a run in which a close of a channel handle is
a close of the last handle of its endpoint. -/

namespace ProjectZero.Ipc.Liveness

open Lib.Run Tables Cap.Ops Cap.RevokeLoop Cap.Calls Object Accounts Keeping Ipc.Channel Ipc.Handle
open Ipc.Shm Steps Footprint Endpoints Task.Process Task.Lifecycle Task.Exit Task.Accounting

variable {L : ObjIdx → Prop} {k : Kernel}

def HandlesOpen (k : Kernel) : Prop :=
  ∀ s, Live k.entry s → OpenEnd k (k.entry s).objectIndex (k.entry s).endpoint

variable {k' k₁ k₂ : Kernel}

variable {src : Source}

lemma HandlesOpen.keep (h : HandlesOpen k) (ho : AllStay k k')
    (hg : Grants src k k') (hsrc : ∀ i rights endpoint, src ≠ .created i rights endpoint) :
    HandlesOpen k' := by
  intro s hs
  rcases hg s hs with ⟨hl, he⟩ | ⟨-, hgive⟩
  · rw [he]
    exact ho _ _ trivial (h s hl)
  cases src with
  | created i rights endpoint => exact absurd rfl (hsrc i rights endpoint)
  | slot q =>
    obtain ⟨hq, hi⟩ := hgive
    rw [hi.objectIndex, hi.endpoint]
    exact ho _ _ trivial (h q hq)
  | nothing => exact hgive.elim

lemma HandlesOpen.of_same (h : HandlesOpen k) (ho : AllStay k k')
    (he : k'.entry = k.entry) : HandlesOpen k' :=
  HandlesOpen.keep h ho (grants_of_entry he : Grants .nothing k k') fun _ _ _ => by simp

variable {A : Kind → Prop}

lemma HandlesOpen.of_moves (h : HandlesOpen k)
    (hc : ¬A .close) (hh : ∀ c, ¬A (.handles c)) (hm : Moves A k k') : HandlesOpen k' :=
  h.of_same (.of_moves hc hm) (sameHandles_of_moves hh hm).entry

lemma handleSource_ne_created (p : PSlot) (hd : Handle) (i : ObjIdx) (rights : Rights)
    (endpoint : ℕ) : handleSource p hd ≠ .created i rights endpoint := by
  unfold handleSource
  split <;> simp

/-! ### New objects -/

/-- While the handles of the new object `i` are made: no endpoint is closed, and new handles are for
`i`. -/
structure Making (i : ObjIdx) (k k' : Kernel) : Prop where
  sound : Sound k'
  opens : AllStay k k'
  entries : ∀ s, Live k'.entry s →
    (Live k.entry s ∧ k'.entry s = k.entry s) ∨ (k'.entry s).objectIndex = i

variable {i : ObjIdx}

lemma Making.refl (h : Sound k) : Making i k k :=
  ⟨h, .refl k, fun _ hs => .inl ⟨hs, rfl⟩⟩

variable {k₃ : Kernel}

lemma Making.trans (h₁ : Making i k₁ k₂) (h₂ : Making i k₂ k₃) : Making i k₁ k₃ := by
  refine ⟨h₂.sound, h₁.opens.trans h₂.opens, fun s hs => ?_⟩
  rcases h₂.entries s hs with ⟨hl, he⟩ | he
  · rw [he]
    exact h₁.entries s hl
  · exact .inr he

section

variable (h : Sound k)

include h

lemma Making.of_same (hs : SameHandles k k') (ho : AllStay k k') : Making i k k' :=
  ⟨h.of_same hs, ho, fun s hl => by rw [hs.entry] at hl ⊢; exact .inl ⟨hl, rfl⟩⟩

lemma allocateHandleEntry_making (p : PSlot) (i : ObjIdx) (rights : Rights) (endpoint : ℕ) :
    Leaves (Making i k) (allocateHandleEntryLocked k p i rights endpoint) := by
  refine ((allocateHandleEntry_moves rfl k p i rights endpoint).both
    (Q := fun r => Sound r.2 ∧ ∀ s, Live r.2.entry s →
      (Live k.entry s ∧ r.2.entry s = k.entry s) ∨ (r.2.entry s).objectIndex = i) ?_).mono
    fun r hr => ⟨hr.2.1, .of_moves (by decide) hr.1, hr.2.2⟩
  unfold allocateHandleEntryLocked
  split
  · exact ⟨h, fun _ hs => .inl ⟨hs, rfl⟩⟩
  rename_i n _
  exact (installRoot_safe h (p, n) i rights endpoint).ensures.mono fun r hr =>
    ⟨hr.sound, fun s hs => (hr.grants s hs).imp id fun hg => hg.2.1⟩

lemma closeHandle_making (p : PSlot) (hd : Handle) (i : ObjIdx) :
    Leaves (Making i k) (closeHandleLocked k p hd) := by
  rcases closeHandle_cases k p hd with ⟨e, he⟩ | ⟨s, -, he⟩
  · rw [he]; exact .refl h
  rw [he]
  refine ((capabilityClose_safe h s).ensures.and (capabilityClose_moves rfl h s)).mono
    fun r hr => ⟨hr.1.sound, .of_moves (by decide) hr.2, fun u hu => ?_⟩
  exact (hr.1.grants u hu).imp id fun hg => hg.2.elim

lemma freeObjectSlot_making (i : ObjIdx) : Ensures (Making i k) (freeObjectSlotLocked k i) :=
  (freeObjectSlot_moves (A := fun _ => False) k i).mono fun _ hm =>
    .of_same h (sameHandles_of_moves (fun _ => id) hm) (.of_moves id hm)

lemma channelHandles_making (p : PSlot) (i : ObjIdx) :
    Leaves (Making i k) (channelHandles k p i) := by
  refine Holds.bind (allocateHandleEntry_making h p i channelRights 0) fun r h₁ => ?_
  obtain ⟨r0, k₁⟩ := r
  cases r0 with
  | error e => exact Holds.bind (freeObjectSlot_making h₁.sound i) fun _ h2 => h₁.trans h2
  | ok h0 =>
    refine Holds.bind (allocateHandleEntry_making h₁.sound p i channelRights 1) fun r h2 => ?_
    obtain ⟨r1, k₂⟩ := r
    cases r1 with
    | error e =>
      refine Holds.bind (closeHandle_making h2.sound p h0 i) fun r h3 => ?_
      exact Holds.bind (freeObjectSlot_making h3.sound i) fun _ h4 =>
        h₁.trans (h2.trans (h3.trans h4))
    | ok h1 => exact h₁.trans h2

lemma shmHandle_making (p : PSlot) (i : ObjIdx) (c : ℕ) (frames : List PhysFrame) :
    Leaves (Making i k) (shmHandle k p i c frames) := by
  refine Holds.bind (allocateHandleEntry_making h p i shmRights 0) fun ⟨r0, k₁⟩ h1 => ?_
  cases r0 with
  | error e =>
    refine Holds.bind (freeObjectSlot_making h1.sound i) fun k₂ h2 => ?_
    have h3 := h1.trans h2
    exact h3.trans (.of_same h3.sound ⟨rfl, rfl, rfl⟩ (.of_alike rfl (.refl _)))
  | ok h0 => exact h1

end

section

variable (h : HandlesOpen k)

include h

lemma HandlesOpen.make (he : k₁.entry = k.entry) (ho : AllStay k k₁ ∧ ∀ e, OpenEnd k₁ i e)
    (hm : Making i k₁ k₂) : HandlesOpen k₂ := by
  intro s hs
  rcases hm.entries s hs with ⟨hl, hes⟩ | hes
  · rw [hes, he]
    rw [Live, he] at hl
    exact (ho.1.trans hm.opens) _ _ trivial (h s hl)
  rw [hes]
  exact hm.opens _ _ trivial (ho.2 _)

lemma channelCreate_open (hs : Sound k) (t : TSlot) : Leaves HandlesOpen (channelCreate k t) := by
  rcases channelCreate_cases k t with ⟨e, n, he⟩ | ⟨p, i, o, n, hnew, he⟩
  · rw [he]
    exact h.of_same (.of_alike rfl (.refl _)) rfl
  rw [he]
  refine (channelHandles_making ?_ p i).mono fun _ => h.make ?_ (allStay_channel hnew n)
  · exact hs
  · rfl

lemma shmObject_open (hs : Sound k) (p : PSlot) (pid pageCount : ℕ) (frames : List PhysFrame) :
    Leaves HandlesOpen (shmObject k p pid pageCount frames) := by
  rcases shmObject_cases k p pid pageCount frames with ⟨e, n, he⟩ | ⟨i, o, n, hnew, he⟩
  · rw [he]
    exact h.of_same (.of_alike rfl (.refl _)) rfl
  rw [he]
  refine (shmHandle_making ?_ p i _ frames).mono fun _ => h.make ?_ (allStay_shm hnew n _)
  · exact hs
  · rfl

lemma shmCreate_open (hs : Sound k) (t : TSlot) (pageCount : ℕ) :
    Leaves HandlesOpen (shmCreate k t pageCount) := by
  unfold shmCreate
  split
  · exact h
  split
  · exact h
  split
  · exact h.of_same (.of_alike rfl (.refl _)) rfl
  rename_i m _
  have hm : HandlesOpen (setMemory k m) := h.of_same (.of_alike rfl (.refl _)) rfl
  exact shmObject_open hm hs _ _ _ _

end

/-! ### Close -/

/-- Another handle, in `s'`, is for the channel endpoint of the handle in `s`. -/
@[mk_iff]
structure Shares (k : Kernel) (s s' : Slot) : Prop where
  channel : (k.object (k.entry s).objectIndex).objType = .channel
  live : Live k.entry s'
  object : (k.entry s').objectIndex = (k.entry s).objectIndex
  endpoint : SameEnd (k.entry s).endpoint (k.entry s').endpoint

lemma capabilityClose_vacant (h : Sound k) (s : Slot) :
    Ensures (fun r => ¬Live r.2.entry s) (capabilityCloseLocked k s) := by
  rcases capabilityClose_cases h s with ⟨hn, he⟩ | ⟨node, -, -, he⟩
  · rw [he]; exact hn
  rw [he]
  have hentry : (invalidate k s).entry s = vacate (k.entry s) := update_self _ _ _
  split
  · change ¬((invalidate k s).entry s).occupied = true
    rw [hentry]
    simp [vacate]
  change ¬((invalidate k s).entry s).occupied = true
  rw [hentry]
  simp [vacate]

/-- After the handle in `s` is closed: the endpoints of the others are open. -/
structure Closed (k : Kernel) (s : Slot) (k' : Kernel) : Prop where
  vacant : ¬ Live k'.entry s
  entries : ∀ s', Live k'.entry s' → Live k.entry s' ∧ k'.entry s' = k.entry s'
  opens : StaysOpen (OthersOf k s) k k'

/-- **A close of the last handle** of an endpoint. -/
lemma HandlesOpen.close {s : Slot} (h : HandlesOpen k) (hc : Closed k s k')
    (hsole : Live k.entry s → ∀ s', Shares k s s' → s' = s) : HandlesOpen k' := by
  intro s' hs'
  obtain ⟨hl, he⟩ := hc.entries s' hs'
  rw [he]
  refine hc.opens _ _ (fun hlive htype hobj hend => ?_) (h s' hl)
  have hss := hsole hlive s' ⟨htype, hl, hobj, hend⟩
  exact hc.vacant (hss ▸ hs')

lemma closeAndReclaim_closed (h : Good L k) (s : Slot) :
    Leaves (Closed k s) (closeAndReclaimCapabilityLocked k s) := by
  refine (((closeAndReclaim_safe h.sound s).ensures.and
    (closeAndReclaim_open h s)).both (Q := fun r => ¬Live r.2.entry s)
    ?_).mono fun r hr =>
      ⟨hr.2, fun s' hs' => (hr.1.1.grants s' hs').resolve_right fun hg => hg.2, hr.1.2⟩
  refine Holds.bind (capabilityClose_vacant h.sound s) fun ⟨res, k₁⟩ hr => ?_
  have hkeep : ∀ {k₂ : Kernel}, SameHandles k₁ k₂ → ¬Live k₂.entry s := fun hs => by
    rw [hs.entry]
    exact hr
  cases res with
  | error e => exact hr
  | ok x =>
    simp only
    split
    · split
      · exact Holds.bind (releaseEndpoint_same k₁ _ _).ensures fun _ hs => hkeep hs
      · exact Holds.bind (reclaimShm_same k₁ _).ensures fun _ hs => hkeep hs
      · exact hr
    · exact hr

lemma channelClose_open (h : HandlesOpen k) (hgood : Good L k) (t : TSlot) (hd : Handle)
    (hsole : ∀ p s, resolveCurrentProcessSlot k (k.thread t).processId = .ok p →
      Denotes k p hd s → ∀ s', Shares k s s' → s' = s) :
    Leaves HandlesOpen (channelClose k t hd) := by
  unfold channelClose
  split
  · exact h
  rename_i p hp
  rcases closeHandle_cases k p hd with ⟨e, he⟩ | ⟨s, hden, he⟩
  · rw [he]
    exact h
  rw [he]
  refine Holds.bind (((capabilityClose_drops hgood s).and
    ((capabilityClose_safe hgood.sound s).ensures.and
      (capabilityClose_moves rfl hgood.sound s))).and
    (capabilityClose_vacant hgood.sound s)) fun ⟨res, k₁⟩ hr => ?_
  obtain ⟨⟨hr | ⟨hl, hres, hdr⟩, hsafe, hm⟩, hvac⟩ := hr
  · cases hr
    exact h
  have ho : AllStay k k₁ := .of_moves (by decide) hm
  subst hres
  simp only
  split
  · trivial
  rename_i htype
  have hocc : (k₁.object (k.entry s).objectIndex).occupied :=
    (hdr.alike _).1.trans (hgood.ledger.tallied.live_occupied hl)
  have htype' : (k₁.object (k.entry s).objectIndex).objType = .channel := not_not.mp htype
  refine Holds.bind ((releaseEndpoint_open hdr.ledger.kinds hocc htype' _).and
    (releaseEndpoint_same k₁ _ _).ensures) fun k₂ h2 => ?_
  refine .close (s := s) h ⟨?_, fun s' hs' => ?_, ?_⟩ fun _ => hsole p s hp hden
  · rw [h2.2.entry]
    exact hvac
  · rw [h2.2.entry] at hs' ⊢
    exact (hsafe.grants s' hs').resolve_right fun hg => hg.2
  · exact (ho.but _).trans (h2.1.mono fun _ _ hq => hq hl ((hdr.alike _).2.1 ▸ htype'))

lemma shmClose_open (h : HandlesOpen k) (hs : Sound k) (t : TSlot) (hd : Handle) :
    Leaves HandlesOpen (shmClose k t hd) := by
  unfold shmClose
  split
  · exact h
  rename_i p hp
  rcases closeHandle_cases k p hd with ⟨e, he⟩ | ⟨s, -, he⟩
  · rw [he]
    exact h
  rw [he]
  refine Holds.bind ((capabilityClose_safe hs s).ensures.and
    (capabilityClose_moves rfl hs s)) fun ⟨res, k₁⟩ hr => ?_
  have h1 : HandlesOpen k₁ :=
    h.keep (.of_moves (by decide) hr.2) hr.1.grants fun _ _ _ => by simp
  cases res with
  | error e => exact h1
  | ok x =>
    exact Holds.bind (reclaimShm_moves rfl k₁ x.1) fun _ hm => h1.of_moves (by decide) (by simp) hm

/-! ### Exit -/

/-- From `k` to `k'`, objects are freed, but none is made or changes its type. -/
def Survives (k k' : Kernel) : Prop := ∀ i, (k'.object i).occupied →
  (k.object i).occupied ∧ (k'.object i).objType = (k.object i).objType

lemma Survives.of_alike (h : Alike k.object k'.object) : Survives k k' :=
  fun i hi => ⟨(h i).1 ▸ hi, (h i).2.1⟩

lemma Survives.trans (h₁ : Survives k₁ k₂) (h₂ : Survives k₂ k₃) : Survives k₁ k₃ := fun i hi =>
  have hi2 := h₂ i hi
  ⟨(h₁ i hi2.1).1, hi2.2.trans (h₁ i hi2.1).2⟩

lemma survives_freed
    (ho : k'.object = update k.object i (Object.freed (k.object i))) : Survives k k' := by
  intro j hj
  by_cases hji : j = i
  · subst hji
    rw [ho] at hj
    simp [Object.freed] at hj
  rw [ho, update_of_ne hji] at hj ⊢
  exact ⟨hj, rfl⟩

lemma Survives.of_change (hA : ∀ c, ¬A (.create c)) (h : Change A k k') : Survives k k' := by
  cases h with
  | headers alike rest => exact .of_alike alike
  | handles a edit rest => exact .of_alike (by rw [rest]; exact .refl _)
  | free | reclaim => exact survives_freed rfl
  | memory a alike rest => exact .of_alike alike
  | channel a new n => exact absurd a (hA _)
  | shm a new n s => exact absurd a (hA _)
  | threads a flags to1 to0 spaces rest => exact .of_alike (by rw [rest]; exact .refl _)
  | _ => exact .of_alike (.refl _)

/-- **Operations that make no object.** -/
lemma Survives.of_moves (hA : ∀ c, ¬A (.create c)) (h : Moves A k k') : Survives k k' :=
  h.lift (fun _ => .of_alike (.refl _)) .trans (.of_change hA)

/-- While the handles of the process `p` are closed: the endpoints that none of them is for stay
open. -/
structure Sweeping (L : ObjIdx → Prop) (p : PSlot) (k k' : Kernel) : Prop where
  good : Good L k'
  entries : ∀ s, Live k'.entry s → Live k.entry s ∧ k'.entry s = k.entry s
  survives : Survives k k'
  opens : StaysOpen (fun i e => ∀ n, OthersOf k (p, n) i e) k k'

variable {p : PSlot}

lemma sweepMapping_sweeping (h : Sweeping L p k k₁) (pid : ℕ)
    (root : PhysFrame) (j : Fin 64) : Ensures (Sweeping L p k) (sweepMapping pid root k₁ j) := by
  unfold sweepMapping
  split
  next hj =>
    refine ((dropMapping_fine h.good root hj.1).and
      (dropMapping_moves rfl k₁ root j)).mono fun k₂ ⟨hfine, hm⟩ => ?_
    refine ⟨hfine.good, fun s hs => ?_, h.survives.trans (.of_moves (by simp) hm),
      h.opens.trans (AllStay.but (.of_moves (by decide) hm) _)⟩
    rw [(sameHandles_of_moves (by simp) hm).entry] at hs ⊢
    exact h.entries s hs
  · exact h

lemma sweepHandle_sweeping (h : Sweeping L p k k₁) (n : HSlot) :
    Ensures (Sweeping L p k) (sweepHandle p k₁ n) := by
  unfold sweepHandle
  split
  · refine Holds.bind (((closeAndReclaim_fine h.good (p, n)).and
      (closeAndReclaim_closed h.good (p, n))).and
      (closeAndReclaim_moves (A := fun a => ∀ c, a ≠ .create c) (by simp) (by simp)
        (by simp) h.good.sound (p, n))) fun r hk => ?_
    obtain ⟨⟨hfine, hclosed⟩, hm⟩ := hk
    refine ⟨hfine.good, fun s hs => ?_, h.survives.trans (.of_moves (fun c hc => hc c rfl) hm),
      h.opens.trans (hclosed.opens.mono fun i e hq hlive htype => ?_)⟩
    · obtain ⟨hl, he⟩ := hclosed.entries s hs
      rw [he]
      exact h.entries s hl
    obtain ⟨hl, he⟩ := h.entries (p, n) hlive
    rw [he] at htype ⊢
    have hocc := h.good.ledger.tallied.live_occupied hlive
    rw [he] at hocc
    exact hq n hl ((h.survives _ hocc).2 ▸ htype)
  · exact h

lemma tornDown_vacant (h : tornDown k p) (n : HSlot) : ¬Live k.entry (p, n) := by
  unfold tornDown at h
  simp only [Bool.and_eq_true, List.all_eq_true, List.mem_finRange, true_imp_iff,
    Bool.not_eq_true'] at h
  unfold Live
  rw [(h.2 n).1.1]
  simp

lemma exitCleanup_open (h : HandlesOpen k) (hgood : Good L k) (p : PSlot)
    (pid : ℕ) (root : PhysFrame)
    (hsole : ∀ n s', Live k.entry (p, n) → Shares k (p, n) s' → s'.1 = p) :
    Ensures HandlesOpen (processExitCapabilityCleanupLocked k p pid root) := by
  have h0 : Sweeping L p k k :=
    ⟨hgood, fun _ hs => ⟨hs, rfl⟩, .of_alike (.refl _), (AllStay.refl k).but _⟩
  refine Holds.bind (holds_foldlM (fun k₁ j hk => sweepMapping_sweeping hk pid root j) _ h0)
    fun k₁ hk1 => ?_
  refine Holds.bind (holds_foldlM (fun k₂ n hk => sweepHandle_sweeping hk n) _ hk1) fun k₂ hk2 => ?_
  split
  next htorn =>
    intro s hs
    obtain ⟨hl, he⟩ := hk2.entries s hs
    rw [he]
    refine hk2.opens _ _ (fun n hn htype hobj hend => ?_) (h s hl)
    have hp := hsole n s hn ⟨htype, hl, hobj, hend⟩
    have hsp : s = (p, s.2) := Prod.ext hp rfl
    rw [hsp] at hs
    exact tornDown_vacant htorn s.2 hs
  · trivial

lemma processExit_open {caller : TSlot} (h : HandlesOpen k) (hgood : Good L k)
    (hocc : ∀ t, Active k t → (k.thread t).occupied) (hrun : (k.thread caller).state ≠ .blocked)
    (hsole : ∀ p, findProcess k (k.thread caller).processId = some p →
      ∀ n s', Live k.entry (p, n) → Shares k (p, n) s' → s'.1 = p) :
    Ensures HandlesOpen (processExit k caller) := by
  unfold processExit
  simp only
  split
  · trivial
  split
  · trivial
  rename_i p hp
  split
  · trivial
  obtain ⟨pid, hpid⟩ : ∃ pid, pid = (k.thread caller).processId := ⟨_, rfl⟩
  obtain ⟨k₁, hk1⟩ : ∃ k₁, k₁ =
    setProcessState (cancelProcessThreadsLocked k pid caller) p .zombie := ⟨_, rfl⟩
  have hstay1 : AllStay k k₁ := by
    rw [hk1]
    exact .of_moves (by decide) (cancelled_moves rfl k pid caller p .zombie)
  have hobj1 : k₁.object = k.object := by
    rw [hk1]
    rfl
  have hfirst := releaseCancelled_fine hgood hocc hrun pid p
  rw [← hk1] at hfirst
  rw [← hpid, ← hk1]
  have hloop : Ensures (Moves (fun _ => False) k₁)
      ((List.finRange 16).foldlM (releaseCancelled pid) k₁) :=
    holds_foldlM (fun k' t hk => (releaseCancelled_moves pid k' t).mono fun _ => hk.trans) _ .refl
  refine Holds.bind (hfirst.and hloop) fun k₂ ⟨hcan, hm⟩ => ?_
  have hsurv : Survives k₁ k₂ := .of_moves (fun _ => id) hm
  have hopen : HandlesOpen k₂ :=
    h.of_same (hstay1.trans (AllStay.of_moves id hm)) hcan.same.entry
  refine Holds.bind (exitCleanup_open hopen hcan.good p pid _
    fun n s' hl hsh => ?_) fun k3 hk3 => ?_
  · have he := hcan.same.entry
    obtain ⟨htype, hlive, hobj, hend⟩ := hsh
    have hocc2 := hcan.good.ledger.tallied.live_occupied hl
    rw [he] at hl hlive hobj hend htype hocc2
    refine hsole p hp n s' hl ⟨?_, hlive, hobj, hend⟩
    rw [← hobj1, ← (hsurv _ hocc2).2]
    exact htype
  · exact hk3.of_same (.of_alike rfl (.refl _)) rfl

/-! ### Runs -/

/-- A step closes a channel handle only when no other handle is left for its endpoint; the exit of a
process, when no other process has one. -/
def SoleClose (σ : System) : Op → Prop
  | .call t (.channelClose h) => ∀ p s,
      resolveCurrentProcessSlot σ.kernel (σ.kernel.thread t).processId = .ok p →
      Denotes σ.kernel p h s → ∀ s', Shares σ.kernel s s' → s' = s
  | .call t .exit => ∀ p, findProcess σ.kernel (σ.kernel.thread t).processId = some p →
      ∀ n s', Live σ.kernel.entry (p, n) → Shares σ.kernel (p, n) s' → s'.1 = p
  | .closeAndReclaim s => Live σ.kernel.entry s → ∀ s', Shares σ.kernel s s' → s' = s
  | _ => True

instance (k : Kernel) (s s' : Slot) : Decidable (Shares k s s') :=
  decidable_of_iff' _ (shares_iff k s s')

instance (σ : System) (op : Op) : Decidable (SoleClose σ op) := by
  unfold SoleClose
  split <;> infer_instance

variable {σ : System}

variable {op : Op}

/-- **A step that closes no endpoint** and leaves the handle tables alone. -/
lemma exec_unhandled (h : HandlesOpen σ.kernel) (hs : Sound σ.kernel)
    (hc : .close ∉ needs op) (hh : ∀ c, .handles c ∉ needs op) :
    Ensures (fun r => HandlesOpen r.2.kernel) (op.exec σ) :=
  (exec_moves (A := (· ∈ needs op)) hs op fun _ ha => ha).mono fun _ hk => h.of_moves hc hh hk

lemma HandlesOpen.safe {α : Type} {x : Except Halt (α × Kernel)}
    (h : HandlesOpen k) (hs : Ends (fun r => Safe src k r.2) x)
    (hx : Leaves (Moves (· ≠ .close) k) x)
    (hsrc : ∀ i rights endpoint, src ≠ .created i rights endpoint) : Leaves HandlesOpen x :=
  (hx.and hs.ensures).mono fun _ hr => h.keep (.of_moves (by simp) hr.1) hr.2.grants hsrc

lemma syscall_open (h : HandlesOpen σ.kernel) (ho : Orderly L σ) {t : TSlot}
    (ht : (σ.kernel.thread t).state = .running) {c : Syscall} (hc : SoleClose σ (.call t c)) :
    Ensures (fun r => HandlesOpen r.2.kernel) (c.exec σ t) := by
  have hg := ho.good
  have hother (hc : .close ∉ callNeeds c) (hh : ∀ e, .handles e ∉ callNeeds c) :
      Ensures (fun r => HandlesOpen r.2.kernel) (Op.exec σ (.call t c)) :=
    exec_unhandled h hg.sound hc hh
  cases c with
  | channelCreate => exact ensures_only (channelCreate_open h hg.sound t)
  | channelClose hd => exact ensures_only (channelClose_open h hg t hd hc)
  | shmCreate n => exact ensures_only (shmCreate_open h hg.sound t n)
  | shmClose hd => exact ensures_only (shmClose_open h hg.sound t hd)
  | derive hd rights =>
    exact ensures_only (ensures_asProcess h fun p => h.safe (capabilityDerive_safe hg.sound p hd
      rights) (capabilityDerive_moves (by decide) _ p hd rights) (handleSource_ne_created _ _))
  | duplicate hd =>
    exact ensures_only (ensures_asProcess h fun p => h.safe (capabilityDuplicate_safe hg.sound p hd)
      (capabilityDuplicate_moves (by decide) _ p hd) (handleSource_ne_created _ _))
  | exit =>
    exact ensures_only ((processExit_open h hg ho.occupied (by rw [ht]; simp) hc).map
      fun _ hk => hk)
  | _ => exact hother (by simp [callNeeds]) (by simp [callNeeds])

lemma exec_open (h : HandlesOpen σ.kernel) (ho : Orderly L σ)
    (hen : op.enabled σ) (hc : SoleClose σ op) :
    Ensures (fun r => HandlesOpen r.2.kernel) (op.exec σ) := by
  have hg := ho.good
  cases op with
  | call t c =>
    simp only [Op.enabled, Bool.and_eq_true, decide_eq_true_eq] at hen
    exact syscall_open h ho hen.1 hc
  | delegate src dst rights =>
    exact ensures_only (h.safe (transferDelegate_safe hg.sound src dst rights)
      (transferDelegate_moves (by decide) _ src dst rights) fun _ _ _ => by simp)
  | move src dst =>
    exact ensures_only (h.safe (transferMove_safe hg.sound src dst)
      (transferMove_moves (by decide) hg.sound src dst) fun _ _ _ => by simp)
  | revoke s =>
    exact ensures_only (h.safe (revokeDescendants_safe hg.sound s)
      (revokeDescendants_moves (by decide) (by decide) hg.sound s)
      fun _ _ _ => by simp)
  | close s =>
    exact ensures_only (h.safe (capabilityClose_safe hg.sound s)
      (capabilityClose_moves (by decide) hg.sound s) fun _ _ _ => by simp)
  | closeAndReclaim s =>
    exact ensures_only ((closeAndReclaim_closed hg s).mono fun _ hk =>
      h.close hk hc)
  | _ => exact exec_unhandled h hg.sound (by simp [needs]) (by simp [needs])

lemma open_of_reach (h : Reach Boot (Next SoleClose) σ) :
    Orderly (fun _ => True) σ ∧ HandlesOpen σ.kernel := by
  refine Reach.invariant (I := fun σ => Orderly (fun _ => True) σ ∧ HandlesOpen σ.kernel)
    (fun σ hb => ?_) (fun σ σ' ho ⟨op, d, hc, hen, hex⟩ => ?_) h
  · refine ⟨orderly_boot hb, fun s hs => ?_⟩
    unfold Live at hs
    rw [hb.kernel] at hs
    simp [Kernel.boot, HandleEntry.empty] at hs
  exact ⟨(exec_orderly ho.1 hen (.inl fun _ => trivial)).of_ok hex,
    (exec_open ho.2 ho.1 hen hc).of_ok hex⟩

/-- **The endpoints of live handles are open**: in every state of a run whose closes are of last
handles, an endpoint of a channel is closed, or reported closed to its peer, only if no handle in any
process is for it. -/
theorem endpoint_open (h : Reach Boot (Next SoleClose) σ) (i : ObjIdx)
    (hi : (σ.kernel.object i).occupied = true) (htype : (σ.kernel.object i).objType = .channel)
    (endpoint : ℕ)
    (hclosed :
      ((σ.kernel.channel (σ.kernel.object i).poolIndex).mine endpoint).isClosed = true ∨
      ((σ.kernel.channel (σ.kernel.object i).poolIndex).peer endpoint).peerClosed = true) :
    ∀ s, ¬ ((σ.kernel.entry s).occupied = true ∧ (σ.kernel.entry s).objectIndex = i ∧
      SameEnd (σ.kernel.entry s).endpoint endpoint) := by
  rintro s ⟨hs, rfl, hend⟩
  obtain ⟨h1, h2⟩ := (open_of_reach h).2 s hs hi htype
  unfold SameEnd at hend
  unfold Channel.mine Channel.peer at *
  by_cases he : endpoint = 0
  · rw [if_pos he] at hclosed
    rw [if_pos (hend.mpr he)] at h1 h2
    rw [if_pos he] at hclosed
    rw [h1, h2] at hclosed
    simp at hclosed
  rw [if_neg he] at hclosed
  rw [if_neg (fun hz => he (hend.mp hz))] at h1 h2
  rw [if_neg he] at hclosed
  rw [h1, h2] at hclosed
  simp at hclosed

/-- The second endpoint of a channel is closed with its only handle; a duplicate of the first handle
goes by revocation. -/
theorem endpoint_open_closed : ∃ σ, Reach Boot (Next SoleClose) σ ∧
    (σ.kernel.entry (1, 0)).occupied = true ∧
    ((σ.kernel.channel (σ.kernel.object 0).poolIndex).mine 1).isClosed = true ∧
    ∀ s, ¬ ((σ.kernel.entry s).occupied = true ∧ (σ.kernel.entry s).objectIndex = 0 ∧
      SameEnd (σ.kernel.entry s).endpoint 1) := by
  obtain ⟨σ, hr, hocc, htype, hl, hc⟩ : ∃ σ, Reach Boot (Next SoleClose) σ ∧
      (σ.kernel.object 0).occupied = true ∧ (σ.kernel.object 0).objType = .channel ∧
      (σ.kernel.entry (1, 0)).occupied = true ∧
      ((σ.kernel.channel (σ.kernel.object 0).poolIndex).mine 1).isClosed = true :=
    exists_reach boot_twoProcesses [.call 1 .channelCreate, .call 1 (.duplicate (Handle.new 0 1)),
      .call 1 (.channelClose (Handle.new 1 1)), .revoke (1, 0)] (by decide +kernel)
  exact ⟨σ, hr, hl, hc, endpoint_open hr 0 hocc htype 1 (.inl hc)⟩

/-- **A closed endpoint with a live handle**: the close of a duplicate closes the endpoint of the
handle it was made from. -/
theorem endpoint_closed_live : ∃ σ, Reach Boot (Next fun _ _ => True) σ ∧
    (σ.kernel.object 0).occupied = true ∧ (σ.kernel.object 0).objType = .channel ∧
    ((σ.kernel.channel (σ.kernel.object 0).poolIndex).mine 0).isClosed = true ∧
    (σ.kernel.entry (1, 0)).occupied = true ∧ (σ.kernel.entry (1, 0)).objectIndex = 0 ∧
    (σ.kernel.entry (1, 0)).endpoint = 0 :=
  exists_reach boot_twoProcesses [.call 1 .channelCreate, .call 1 (.duplicate (Handle.new 0 1)),
    .call 1 (.channelClose (Handle.new 2 1))] (by decide +kernel)

end ProjectZero.Ipc.Liveness
