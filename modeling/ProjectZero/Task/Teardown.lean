import ProjectZero.Task.Accounting

/-! # Teardown of a process

The teardown of a process ends with assertions about the handle slots of the process, one of them that
no node carries a capability identifier. A close resets the node of its slot, and so does a move; but a
revocation only marks the nodes it cuts. So the teardown of a process stops the kernel exactly when a
slot of it was vacated by a revocation and has not been filled again. -/

namespace ProjectZero.Task.Teardown

open Lib.Run Tables Cap.Node Cap.Ops Cap.RevokeLoop Cap.Calls Ipc.Object Ipc.Queues Ipc.Accounts
open Ipc.Keeping Ipc.Shm Ipc.Steps Ipc.Footprint Process Lifecycle Exit Accounting

variable {L : ObjIdx → Prop} {k : Kernel}

/-! ### Vacant slots -/

/-- The handle tables are well formed, and the node of a vacant slot has no identifier or is marked as
revoked. -/
structure Named (k : Kernel) : Prop where
  sound : Sound k
  vacant : ∀ s, ¬Live k.entry s → (k.node s).capabilityId = 0 ∨ (k.node s).isRevoked

variable {k' : Kernel}

lemma Named.of_same (h : Named k) (hs : SameHandles k k') : Named k' :=
  ⟨h.sound.of_same hs, by rw [hs.entry, hs.node]; exact h.vacant⟩

/-- A slot that is vacant after a step has an empty or a marked node, or it was vacant before and has
its old node, up to the chains. -/
def Traced (k k' : Kernel) (s : Slot) : Prop :=
  ¬Live k'.entry s → (k'.node s).capabilityId = 0 ∨ (k'.node s).isRevoked ∨
    (¬Live k.entry s ∧ SameButChains (k'.node s) (k.node s))

lemma Named.of_traced (h : Named k) (hs : Sound k') (ht : ∀ s, Traced k k' s) : Named k' := by
  refine ⟨hs, fun s hl => ?_⟩
  rcases ht s hl with h1 | h1 | ⟨h1, h2⟩
  · exact .inl h1
  · exact .inr h1
  rw [h2]
  exact h.vacant s h1

/-- **Every change** of the handle tables resets or marks the nodes of the slots it vacates: a close
and a move reset them, a revocation marks them. -/
lemma traced_of_edit {c : EditKind} (he : Edit k c k') (s : Slot) : Traced k k' s := by
  intro hl
  have hsame : ¬Live k.entry s → k'.node s = k.node s →
      ¬Live k.entry s ∧ SameButChains (k'.node s) (k.node s) := fun hdead hn =>
    ⟨hdead, hn ▸ sameButChains_refl _⟩
  have hfill (he : Edit k .fill k') : ¬Live k.entry s ∧ SameButChains (k'.node s) (k.node s) := by
    obtain ⟨d, e, hentry, -, hocc, -, hnode⟩ := he.fill_cases
    have hsd : s ≠ d := by
      rintro rfl
      refine hl ?_
      rw [Live, hentry, update_self]
      exact hocc
    rw [Live, hentry, update_of_ne hsd] at hl
    exact hsame hl (hnode s hsd hl)
  cases he with
  | root vacant i rights endpoint id => exact .inr (.inr (hfill (.root vacant ..)))
  | derived ok vacant id => exact .inr (.inr (hfill (.derived ok vacant id)))
  | @moved d x node _ live vacant moved n =>
    have hnot := fun h => hl ((plantMoved_live (k := { k with nextCapabilityId := n }) node live
      vacant s).mpr h)
    by_cases hs : s = x
    · subst hs
      refine .inl ?_
      change (node s).capabilityId = 0
      rw [moved.src]
      rfl
    have hdead : ¬Live k.entry s := fun h => hnot (.inr ⟨h, hs⟩)
    exact .inr (.inr ⟨hdead, moved.other s (fun h => hnot (.inl h)) hs fun hc =>
      hdead hc.1⟩)
  | @closed x node live unlinked =>
    by_cases hs : s = x
    · subst hs
      refine .inl ?_
      change (update node s CapabilityNode.empty s).capabilityId = 0
      rw [update_self]
      rfl
    have hdead : ¬Live k.entry s := by
      simpa [Live, invalidate, hs] using hl
    refine .inr (.inr ⟨hdead, ?_⟩)
    change SameButChains (update node x .empty s) (k.node s)
    rw [update_of_ne hs]
    exact unlinked.other s fun hc => hdead hc.1
  | @pruned x dn _ live desc pruned =>
    by_cases hs : s ∈ dn
    · rw [pruned.node_in s hs]
      exact .inr (.inl rfl)
    have hdead : ¬Live k.entry s := by rwa [Live, pruned.entry_out s hs] at hl
    exact .inr (.inr (hsame hdead (pruned.node_out s hs fun h : s = x => hdead (h ▸ live))))

lemma Named.of_moves {A : Kind → Prop} (h : Named k) (hm : Moves A k k') : Named k' := by
  refine hm.lift (R := fun k k' => Named k → Named k') (fun _ => id) (fun h1 h2 h => h2 (h1 h))
    (fun hc h => ?_) h
  rcases handles_of_change hc with hs | ⟨c, -, edit⟩
  · exact h.of_same hs
  · exact h.of_traced (edit.sound h.sound) (traced_of_edit edit)

/-! ### Close -/

/-- The slot `s` is closed: vacant, with an empty node. The other entries stay, and so do the nodes of
slots that were vacant before, up to the chains. -/
structure Closed (k : Kernel) (s : Slot) (k' : Kernel) : Prop where
  sound : Sound k'
  vacant : ¬Live k'.entry s
  node : k'.node s = .empty
  entry : ∀ t ≠ s, k'.entry t = k.entry t
  other : ∀ t ≠ s, ¬Live k.entry t → SameButChains (k'.node t) (k.node t)

variable {s : Slot}

lemma Closed.of_same {k'' : Kernel} (h : Closed k s k') (hs : SameHandles k' k'') :
    Closed k s k'' :=
  ⟨h.sound.of_same hs, by rw [hs.entry]; exact h.vacant, by rw [hs.node]; exact h.node,
    by rw [hs.entry]; exact h.entry, by rw [hs.node]; exact h.other⟩

/-- **A close** resets the node of its slot. -/
lemma capabilityClose_closed (h : Sound k) (hl : Live k.entry s) :
    Leaves (Closed k s) (capabilityCloseLocked k s) := by
  have hsafe := (capabilityClose_safe h s).ensures
  rcases capabilityClose_cases h s with ⟨hdead, -⟩ | ⟨node, -, hu, he⟩
  · exact absurd hl hdead
  rw [he] at hsafe ⊢
  obtain ⟨k', hk'⟩ : ∃ k', k' = { invalidate k s with
    node := update node s CapabilityNode.empty } := ⟨_, rfl⟩
  rw [← hk'] at hsafe ⊢
  have hclosed : ∀ k'', SameHandles k' k'' → Sound k'' → Closed k s k'' := fun k'' hs hsound => by
    refine ⟨hsound, ?_, ?_, fun t ht => ?_, fun t ht hdead => ?_⟩
    · rw [hs.entry, hk']
      simp [Live, invalidate, vacate]
    · rw [hs.node, hk']
      exact update_self ..
    · rw [hs.entry, hk']
      exact update_of_ne ht _ _
    rw [hs.node, hk']
    change SameButChains (update node s .empty t) (k.node t)
    rw [update_of_ne ht]
    exact hu.other t fun hc => hdead hc.1
  refine hclosed _ ?_ hsafe.sound
  split
  · exact ⟨rfl, rfl, rfl⟩
  · exact .refl k'

lemma closeAndReclaim_closed (h : Sound k) (hl : Live k.entry s) :
    Leaves (Closed k s) (closeAndReclaimCapabilityLocked k s) := by
  refine .bind (capabilityClose_closed h hl) fun ⟨res, k1⟩ hc => ?_
  cases res with
  | error e => exact hc
  | ok x =>
    simp only
    split
    · split
      · exact .bind (releaseEndpoint_same k1 _ _).ensures fun _ hs => hc.of_same hs
      · exact .bind (reclaimShm_same k1 _).ensures fun _ hs => hc.of_same hs
      · exact hc
    · exact hc

/-! ### Runs -/

section Runs

variable {σ : System}

/-- In every state of a run, a vacant slot that still carries an identifier was revoked. -/
lemma named_of_reach {C : System → Op → Prop} (h : Reach Boot (Next C) σ) : Named σ.kernel := by
  refine Reach.invariant (I := fun σ => Named σ.kernel) (fun σ hb => ?_) (fun σ σ' hn hs => ?_) h
  · refine ⟨(orderly_boot (L := fun _ => True) hb).good.sound, fun s _ => .inl ?_⟩
    rw [hb.kernel]
    rfl
  obtain ⟨op, d, -, -, hex⟩ := hs
  exact hn.of_moves ((exec_moves (A := fun _ => True) hn.sound op fun _ _ => trivial).of_ok hex)

end Runs

/-! ### The teardown -/

lemma reclaimChannel_completes (k : Kernel) (i : ObjIdx) :
    Completes (fun _ => True) (checkAndReclaimChannelLocked k i) := by
  rcases reclaimChannel_cases k i with ⟨-, -, -, -, he⟩ | ⟨-, he⟩
  · rw [he]; trivial
  · rw [he]; trivial

lemma reclaimShm_completes (k : Kernel) (i : ObjIdx) :
    Completes (fun _ => True) (checkAndReclaimShmLocked k i) := by
  rcases reclaimShm_cases k i with ⟨-, -, -, he⟩ | ⟨-, he⟩
  · rw [he]; trivial
  · rw [he]; trivial

lemma wakeAllWaiters_completes (h : Ledger k) (c endpoint : ℕ) :
    Completes (fun _ => True) (wakeAllWaiters k c endpoint) := by
  obtain ⟨thread, he, -⟩ := wakeAllWaiters_ok endpoint (h.queued.nodup c) fun t ht =>
    (h.queued.waits c t ht).blocked
  rw [he]
  trivial

lemma releaseEndpoint_completes (h : Ledger k) (i : ObjIdx) (endpoint : ℕ) :
    Completes (fun _ => True) (releaseEndpoint k i endpoint) := by
  refine .bind (P := fun _ => True) ?_ fun k1 _ => reclaimChannel_completes k1 i
  unfold dropEndpointRef
  simp only
  split
  · exact wakeAllWaiters_completes (closedEnd_ledger h i endpoint) _ _
  · trivial

lemma capabilityClose_completes (h : Sound k) (s : Slot) :
    Completes (fun _ => True) (capabilityCloseLocked k s) := by
  rcases capabilityClose_cases h s with ⟨-, he⟩ | ⟨node, -, -, he⟩
  · rw [he]; trivial
  · rw [he]; trivial

lemma closeAndReclaim_completes (h : Good L k) (s : Slot) :
    Completes (fun _ => True) (closeAndReclaimCapabilityLocked k s) := by
  refine .bind ((capabilityClose_completes h.sound s).and
    (capabilityClose_drops h s)) fun ⟨res, k1⟩ hr => ?_
  rcases hr.2 with hr | ⟨-, hres, hd⟩
  · cases hr
    trivial
  subst hres
  simp only
  split
  · split
    · exact .bind (P := fun _ => True) (releaseEndpoint_completes hd.ledger _ _) fun _ _ => trivial
    · exact .bind (P := fun _ => True) (reclaimShm_completes k1 _) fun _ _ => trivial
    · trivial
  · trivial

lemma sweepMapping_completes (pid : ℕ) (root : PhysFrame) (k : Kernel) (j : Fin 64) :
    Completes (fun _ => True) (sweepMapping pid root k j) := by
  unfold sweepMapping
  split
  · exact reclaimShm_completes _ _
  · trivial

/-- While the handles of the process `p` are closed: no slot is filled, a closed slot has no
identifier, and one that was vacant at the start has that of the start. -/
structure Emptying (L : ObjIdx → Prop) (p : PSlot) (k k' : Kernel) : Prop where
  good : Good L k'
  live : ∀ s, Live k'.entry s → Live k.entry s
  closed : ∀ n, Live k.entry (p, n) → ¬Live k'.entry (p, n) →
    (k'.node (p, n)).capabilityId = 0
  vacant : ∀ n, ¬Live k.entry (p, n) →
    (k'.node (p, n)).capabilityId = (k.node (p, n)).capabilityId

variable {p : PSlot}

/-- **One handle** of the process is closed. -/
lemma sweepHandle_emptying (h : Emptying L p k k') (n : HSlot) :
    Completes (fun k'' => Emptying L p k k'' ∧ ¬Live k''.entry (p, n) ∧
      ∀ m, ¬Live k'.entry (p, m) → ¬Live k''.entry (p, m)) (sweepHandle p k' n) := by
  unfold sweepHandle
  split
  next hocc =>
    have hl : Live k'.entry (p, n) := hocc
    refine .bind (((closeAndReclaim_completes h.good (p, n)).and
      (closeAndReclaim_closed h.good.sound hl)).and
      (closeAndReclaim_fine h.good (p, n))) fun r ⟨⟨_, hc⟩, hf⟩ => ?_
    have hback : ∀ s, Live r.2.entry s → s ≠ (p, n) ∧ Live k'.entry s := fun s hs => by
      have hne : s ≠ (p, n) := fun he : s = (p, n) => hc.vacant (he ▸ hs)
      unfold Live at hs ⊢
      rw [hc.entry s hne] at hs
      exact ⟨hne, hs⟩
    have hkeep : ∀ m ≠ n, ¬Live k'.entry (p, m) →
        (r.2.node (p, m)).capabilityId = (k'.node (p, m)).capabilityId := fun m hmn hdead => by
      rw [hc.other (p, m) (fun he => hmn (congrArg Prod.snd he)) hdead]
    refine ⟨⟨hf.good, fun s hs => h.live s (hback s hs).2, fun m hm hm' => ?_, fun m hm => ?_⟩,
      hc.vacant, fun m hm hm' => hm (hback _ hm').2⟩
    · by_cases hmn : m = n
      · rw [hmn, hc.node]
        rfl
      have hdead : ¬Live k'.entry (p, m) := by
        unfold Live at hm' ⊢
        rw [hc.entry (p, m) fun he => hmn (congrArg Prod.snd he)] at hm'
        exact hm'
      rw [hkeep m hmn hdead]
      exact h.closed m hm hdead
    have hmn : m ≠ n := fun he : m = n => hm (he ▸ h.live _ hl)
    rw [hkeep m hmn fun hm' => hm (h.live _ hm')]
    exact h.vacant m hm
  rename_i hocc
  exact ⟨h, hocc, fun _ hm => hm⟩

lemma sweepHandles_emptying : ∀ (l : List HSlot) {k' : Kernel}, Emptying L p k k' →
    Completes (fun k'' => Emptying L p k k'' ∧ (∀ n ∈ l, ¬Live k''.entry (p, n)) ∧
      ∀ m, ¬Live k'.entry (p, m) → ¬Live k''.entry (p, m)) (l.foldlM (sweepHandle p) k')
  | [], k', h => ⟨h, by simp, fun _ hm => hm⟩
  | n :: l, k', h => by
    rw [List.foldlM_cons]
    refine .bind (sweepHandle_emptying h n) fun k1 h1 => ?_
    refine (sweepHandles_emptying l h1.1).mono fun k2 h2 => ⟨h2.1, fun m hm => ?_,
      fun m hm => h2.2.2 m (h1.2.2 m hm)⟩
    rcases List.mem_cons.mp hm with rfl | hm
    · exact h2.2.2 m h1.2.1
    · exact h2.2.1 m hm

/-- The slots of the process are empty. -/
structure EmptySlots (k : Kernel) (p : PSlot) : Prop where
  count : k.count p = 0
  entry : ∀ h, (k.entry (p, h)).occupied = false
  capabilityId : ∀ h, (k.node (p, h)).capabilityId = 0
  firstChild : ∀ h, (k.node (p, h)).firstChild = none

lemma tornDown_iff : tornDown k p ↔ EmptySlots k p := by
  unfold tornDown
  simp only [Bool.and_eq_true, decide_eq_true_eq, List.all_eq_true, List.mem_finRange,
    true_imp_iff, Bool.not_eq_true', Option.isNone_iff_eq_none]
  exact ⟨fun h => ⟨h.1, fun n => (h.2 n).1.1, fun n => (h.2 n).1.2, fun n => (h.2 n).2⟩,
    fun h => ⟨h.count, fun n => ⟨⟨h.entry n, h.capabilityId n⟩, h.firstChild n⟩⟩⟩

/-- **The teardown** ends exactly when the vacant slots of the process have empty nodes. -/
lemma cleanup_iff (h : Good L k) (p : PSlot) (pid : ℕ) (root : PhysFrame) :
    (∃ k', processExitCapabilityCleanupLocked k p pid root = .ok k' ∧ EmptySlots k' p) ↔
      ∀ n, ¬Live k.entry (p, n) → (k.node (p, n)).capabilityId = 0 := by
  have hmaps : Completes (fun k' => Fine L k k' ∧ SameHandles k k')
      ((List.finRange 64).foldlM (sweepMapping pid root) k) := by
    refine holds_foldlM (fun k' j hk => ?_) _ ⟨.refl h, .refl k⟩
    refine (((sweepMapping_completes pid root k' j).and (sweepMapping_fine hk.1 pid root j)).and
      (sweepMapping_moves rfl pid root k' j)).mono fun _ hk' =>
        ⟨hk'.1.2, hk.2.trans (sameHandles_of_moves (by simp) hk'.2)⟩
  obtain ⟨k1, he1, hf1, hs1⟩ := hmaps.exists_ok
  have h1 : Emptying L p k k1 := by
    refine ⟨hf1.good, fun s => by rw [hs1.entry]; exact id, fun n hn hn' => ?_,
      fun n _ => by rw [hs1.node]⟩
    rw [hs1.entry] at hn'
    exact absurd hn hn'
  obtain ⟨k2, he2, h2, hvacant, -⟩ := (sweepHandles_emptying (List.finRange 32) h1).exists_ok
  have hdead : ∀ n, ¬Live k2.entry (p, n) := fun n => hvacant n (List.mem_finRange n)
  have hrun : processExitCapabilityCleanupLocked k p pid root =
      if tornDown k2 p then .ok k2 else .error .panic := by
    unfold processExitCapabilityCleanupLocked
    rw [he1, ok_bind, he2, ok_bind]
  constructor
  · rintro ⟨k', hk', -⟩ n hn
    rw [hrun] at hk'
    have htorn : tornDown k2 p := by
      by_contra hc
      rw [if_neg hc] at hk'
      cases hk'
    have hid := (tornDown_iff.mp htorn).capabilityId n
    rw [h2.vacant n hn] at hid
    exact hid
  intro hids
  have hempty : EmptySlots k2 p := by
    refine ⟨?_, fun n => Bool.eq_false_iff.mpr (hdead n), fun n => ?_,
      fun n => h2.good.sound.vacant _ (hdead n)⟩
    · rw [h2.good.ledger.tallied.owned p, owned_eq_card, Finset.card_eq_zero,
        Finset.filter_eq_empty_iff]
      exact fun n _ => hdead n
    by_cases hn : Live k.entry (p, n)
    · exact h2.closed n hn (hdead n)
    rw [h2.vacant n hn]
    exact hids n hn
  exact ⟨k2, by rw [hrun, if_pos (tornDown_iff.mpr hempty)], hempty⟩

/-- **When the teardown of a process ends**: in every state of every run, it does so exactly if no
vacant slot of the process still carries a capability identifier; and a vacant slot that does was
vacated by a revocation. -/
theorem teardown_completes_iff {σ : System} (h : Reach Boot (Next fun _ _ => True) σ) (p : PSlot)
    (pid : ℕ) (root : PhysFrame) :
    ((∃ k', processExitCapabilityCleanupLocked σ.kernel p pid root = .ok k' ∧ EmptySlots k' p) ↔
      ∀ n, (σ.kernel.entry (p, n)).occupied = false →
        (σ.kernel.node (p, n)).capabilityId = 0) ∧
    ∀ n, (σ.kernel.entry (p, n)).occupied = false → (σ.kernel.node (p, n)).capabilityId ≠ 0 →
      (σ.kernel.node (p, n)).isRevoked = true := by
  have hgood := (orderly_of_reach (L := fun _ => True) (fun _ _ _ => .inl fun _ => trivial) h).good
  have hlive : ∀ n, (σ.kernel.entry (p, n)).occupied = false ↔ ¬Live σ.kernel.entry (p, n) :=
    fun n => Bool.eq_false_iff
  refine ⟨?_, fun n hn hid => ?_⟩
  · rw [cleanup_iff hgood p pid root]
    simp only [hlive]
  · exact ((named_of_reach h).vacant _ ((hlive n).mp hn)).resolve_left hid

/-- A process with a closed, a moved and a live handle. -/
theorem teardown_completes_iff_moved : ∃ σ, Reach Boot (Next fun _ _ => True) σ ∧
    ∃ k', processExitCapabilityCleanupLocked σ.kernel 1 1 0x2000 = .ok k' ∧ EmptySlots k' 1 := by
  refine (exists_reach boot_twoProcesses [.call 1 .channelCreate, .call 1 (.shmCreate 2),
    .call 1 (.channelClose (Handle.new 0 1)), .move (1, 1) 2] ?_).imp fun σ h =>
      ⟨h.1, (teardown_completes_iff h.1 1 1 0x2000).1.mpr h.2⟩
  decide +kernel

/-- **A revoked handle**: process 1 delegates a channel handle to process 2 and revokes it, and the
exit of process 2 fails an assertion. -/
theorem teardown_panics : ∃ σ, Reach Boot (Next fun _ _ => True) σ ∧
    processExitCapabilityCleanupLocked σ.kernel 2 2 0x3000 = .error .panic := by
  obtain ⟨σ, hσ, h⟩ : ∃ σ, runOps (fun _ _ => True) twoProcesses
      [.call 1 .channelCreate, .delegate (1, 0) 2 0x0001, .revoke (1, 0)] = .ok σ ∧
      (processExitCapabilityCleanupLocked σ.kernel 2 2 0x3000).map (fun _ => ()) = .error .panic :=
    exists_ok (by decide +kernel)
  refine ⟨σ, reach_runOps boot_twoProcesses hσ, ?_⟩
  cases hc : processExitCapabilityCleanupLocked σ.kernel 2 2 0x3000 with
  | ok => simp [hc, Except.map] at h
  | error e => simpa [hc, Except.map] using h

end ProjectZero.Task.Teardown
