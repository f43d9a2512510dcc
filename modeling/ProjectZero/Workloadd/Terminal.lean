import ProjectZero.Workloadd.Effects

/-! # Workloads that have ended

A workload that is completed, cancelled or failed is over. Only a submission brings one back: the
handler does not look at the state of the workload it names. And only a submission makes a task ready
that was launched before in an irreversible workload, whose tasks are tried once (`terminal_iff`). -/

namespace ProjectZero.Workloadd.Terminal

open Lib.Run Libzero.Message Libzero.Workload Daemon Effects

variable {d d' : WorkloadDaemon} {slot other : Fin 8} {w : WorkloadControlBlock} {a : Action d}
  {req : IpcMessage}

/-! ### Launches -/

/-- The tasks of a slot that were launched, the last one first. -/
def launches (d : WorkloadDaemon) (slot : Fin 8) : List (Fin 16) :=
  d.trace.filterMap fun
    | .launch s i => if s = slot then some i else none
    | .close _ => none

lemma filterMap_launch (l : List (Fin 16)) :
    ((l.map (Effect.launch slot)).filterMap fun
      | .launch s i => if s = other then some i else none
      | .close _ => none) = if slot = other then l else [] := by
  induction l with
  | nil => simp
  | cons i rest ih =>
    rw [List.map_cons, List.filterMap_cons, ih]
    by_cases hs : slot = other
    · simp [hs]
    · simp [hs]

lemma launches_schedule (h : scheduleWorkloadTasks (d.setBlock slot w) slot = .ok d')
    (other : Fin 8) : launches d' other =
      (if slot = other then due w d.activeRunningTasks else []).reverse ++ launches d other := by
  rw [schedule_eq h, setBlock_self]
  unfold launches launchAll
  rw [List.filterMap_append, List.filterMap_reverse, filterMap_launch]
  rfl

lemma launches_create (h : Acts d req d' (.create slot)) (other : Fin 8) :
    launches d' other = launches d other := by
  obtain ⟨hfree, rfl⟩ := h
  have htrace : (handleWorkloadCreate d req).2.trace = d.trace := by
    unfold handleWorkloadCreate
    rw [hfree]
    dsimp only
    split <;> rfl
  unfold launches
  rw [htrace]

lemma acts_elsewhere (h : Acts d req d' a) (ho : target a ≠ some other) :
    d'.workloads other = d.workloads other ∧ launches d' other = launches d other := by
  constructor
  · rcases acts_block h with ⟨he, -⟩ | ⟨slot, w, he, hw, -⟩
    · rw [he]
    rw [he, update_of_ne]
    rintro rfl
    exact ho hw.target
  have hsched : ∀ {e : WorkloadDaemon} {slot w}, some slot ≠ some other → e.trace = d.trace →
      scheduleWorkloadTasks (e.setBlock slot w) slot = .ok d' →
        launches d' other = launches d other := fun hne ht hs => by
    rw [launches_schedule hs, if_neg fun he => hne (congrArg some he)]
    exact congrArg (List.filterMap _) ht
  cases a with
  | nothing => rw [show d' = d from h]
  | create slot => exact launches_create h other
  | submit s => exact hsched ho rfl h
  | cancel slot =>
    obtain ⟨-, rfl⟩ := h
    rfl
  | extend e =>
    obtain ⟨-, ⟨-, rfl⟩ | ⟨-, h⟩⟩ := h
    · rfl
    · exact hsched ho rfl h
  | finish slot task exitCode =>
    obtain ⟨-, h⟩ := h
    rcases handleTask_cases h with ⟨-, -, trace, rfl, htrace⟩ | ⟨-, hs⟩ | ⟨-, -, hs⟩ | ⟨-, -, rfl⟩
    · rcases htrace with rfl | ⟨handle, rfl⟩ <;> rfl
    · exact hsched (e := released d) ho rfl hs
    · exact hsched (e := released d) ho rfl hs
    · rfl

/-! ### Workloads that are over -/

/-- The workloads that are over are left as they are. -/
def Settled (d d' : WorkloadDaemon) : Prop := ∀ slot, Terminal (d.workloads slot) →
  (d'.workloads slot).state = (d.workloads slot).state ∧
  (d'.workloads slot).taskCount = (d.workloads slot).taskCount ∧
  (d'.workloads slot).tasks = (d.workloads slot).tasks ∧
  (d'.workloads slot).generation = (d.workloads slot).generation ∧
  launches d' slot = launches d slot

lemma Settled.refl (d : WorkloadDaemon) : Settled d d := fun _ _ => ⟨rfl, rfl, rfl, rfl, rfl⟩

lemma Settled.trans {d₁ d₂ d₃ : WorkloadDaemon} (h : Settled d₁ d₂) (h' : Settled d₂ d₃) :
    Settled d₁ d₃ := by
  intro slot ht
  obtain ⟨hs, hc, htasks, hg, hl⟩ := h slot ht
  have ht' : Terminal (d₂.workloads slot) := by
    unfold Terminal
    rw [hs]
    exact ht
  obtain ⟨hs', hc', htasks', hg', hl'⟩ := h' slot ht'
  exact ⟨hs'.trans hs, hc'.trans hc, htasks'.trans htasks, hg'.trans hg, hl'.trans hl⟩

lemma cancelled_of_terminal (ho : Ordered w) (ht : Terminal w) :
    (cancelledBlock w).state = w.state ∧ (cancelledBlock w).tasks = w.tasks := by
  constructor
  · unfold cancelledBlock
    rcases ht with ht | ht | ht
    · simp [ht]
    · simp [ht]
    · exact absurd ht ho.failed
  funext i
  unfold cancelledBlock
  dsimp only
  rw [if_neg fun hc => ho.idle ht i hc.1 hc.2]

/-- The action is no submission to a workload that is over. -/
def Pending : Action d → Prop
  | .submit s => ¬Terminal (d.workloads s.slot)
  | _ => True

instance : DecidablePred (Pending (d := d)) := fun a => by
  apply @Effects.Action.casesOn _ _ a <;> intros <;> unfold Pending <;> infer_instance

/-- Where an action that is not a submission finds a workload that is over, it changes nothing. -/
lemma settled_of_pending (hd : Orderly d) (h : Acts d req d' a)
    (hs : Pending a) : Settled d d' := by
  intro slot ht
  by_cases htarget : target a = some slot
  · cases a with
    | nothing => cases htarget
    | create other =>
      cases htarget
      exact absurd (findFree_ok h.1) ht.not_free
    | submit s =>
      cases htarget
      exact absurd ht hs
    | cancel other =>
      cases htarget
      obtain ⟨-, rfl⟩ := h
      obtain ⟨hstate, htasks⟩ := cancelled_of_terminal (hd slot) ht
      unfold execute4phaseCancellation
      rw [setBlock_self]
      exact ⟨hstate, rfl, htasks, rfl, rfl⟩
    | extend e =>
      cases htarget
      have hw : Underway (d.workloads e.slot) := (readExtension_ok h.1).imp id .inl
      exact absurd ht hw.not_terminal
    | finish other task exitCode =>
      cases htarget
      have hw : Underway (d.workloads slot) := .inr (notified_ok h.1).1
      exact absurd ht hw.not_terminal
  obtain ⟨hw, hl⟩ := acts_elsewhere h htarget
  rw [hw]
  exact ⟨rfl, rfl, rfl, rfl, hl⟩

/-- **Workloads that are over are left alone by every action but a submission to one of them.** -/
lemma settled_acts_iff (hd : Orderly d) (h : Acts d req d' a) : Settled d d' ↔ Pending a := by
  refine ⟨fun hsettled => ?_, settled_of_pending hd h⟩
  cases a with
  | nothing | create | cancel | extend | finish => exact trivial
  | submit s =>
    intro ht
    have hunder : Underway (d'.workloads s.slot) := by
      rw [schedule_workloads h, update_self]
      exact underway_launched (by rw [setBlock_self]; exact .inl rfl)
    refine hunder.not_terminal ?_
    unfold Terminal
    rw [(hsettled s.slot ht).1]
    exact ht

/-! ### Irreversible workloads -/

def Unstarted (d : WorkloadDaemon) : Prop := ∀ slot, Free (d.workloads slot) → launches d slot = []

lemma acts_class (h : Acts d req d' a) (slot : Fin 8) : a = .create slot ∨
    (Free (d'.workloads slot) → target a ≠ some slot ∧ Free (d.workloads slot)) ∧
      (d'.workloads slot).recoveryClass = (d.workloads slot).recoveryClass := by
  by_cases ht : target a = some slot
  · rcases acts_block h with ⟨-, ⟨rfl, -⟩ | ⟨other, rfl⟩⟩ | ⟨other, w, he, hw, -⟩
    · cases ht
    · cases ht
      exact .inl rfl
    cases hw.target.symm.trans ht
    rw [he, update_self]
    exact hw.started.imp id fun hs => ⟨fun hf => absurd hf hs.1, hs.2.2⟩
  rw [(acts_elsewhere h ht).1]
  exact .inr ⟨fun hf => ⟨ht, hf⟩, rfl⟩

lemma unstarted_acts (hu : Unstarted d) (h : Acts d req d' a) : Unstarted d' := by
  intro slot hfree
  rcases acts_class h slot with rfl | ⟨hold, -⟩
  · rw [launches_create h]
    exact hu slot (findFree_ok h.1)
  obtain ⟨ht, hf⟩ := hold hfree
  rw [(acts_elsewhere h ht).2]
  exact hu slot hf

/-- The task is one of the workload that is not waiting to be launched. -/
def Spent (w : WorkloadControlBlock) (i : Fin 16) : Prop :=
  i.val < w.taskCount ∧ (w.tasks i).state ≠ .ready ∧ (w.tasks i).state ≠ .blocked

/-- No task of the workload was launched twice, and those that were are spent. -/
def Tried (d : WorkloadDaemon) (slot : Fin 8) : Prop :=
  (launches d slot).Nodup ∧ ∀ i ∈ launches d slot, Spent (d.workloads slot) i

/-- **The scheduler** launches no task that is spent, and those it launches are. -/
lemma tried_schedule (hn : (launches d slot).Nodup) (hs : ∀ i ∈ launches d slot, Spent w i)
    (h : scheduleWorkloadTasks (d.setBlock slot w) slot = .ok d') : Tried d' slot := by
  have hl := launches_schedule h slot
  rw [if_pos rfl] at hl
  have hw : d'.workloads slot =
      launchedBlock (d.setBlock slot w) slot (due w d.activeRunningTasks) := by
    rw [schedule_workloads h, update_self]
  constructor
  · rw [hl]
    refine (List.nodup_reverse.mpr (nodup_due _)).append hn fun i hi hmem => ?_
    exact (hs i hmem).2.1 (due_ready (List.mem_reverse.mp hi)).2
  intro i hi
  rw [hl, List.mem_append, List.mem_reverse] at hi
  have hspent : i ∈ due w d.activeRunningTasks ∨ Spent w i := hi.imp id (hs i)
  rw [hw]
  unfold Spent launchedBlock
  rw [setBlock_self]
  dsimp only
  split
  next hdue => exact ⟨(due_ready hdue).1, nofun, nofun⟩
  next hdue => exact hspent.resolve_left hdue

lemma Spent.update {i k : Fin 16} {t : TaskDescriptor} (h : Spent w i)
    (ht : t.state ≠ .ready ∧ t.state ≠ .blocked) :
    i.val < w.taskCount ∧ (update w.tasks k t i).state ≠ .ready ∧
      (update w.tasks k t i).state ≠ .blocked := by
  by_cases hi : i = k
  · rw [hi, update_self]
    exact ⟨hi ▸ h.1, ht⟩
  · rw [update_of_ne hi]
    exact h

lemma Spent.cancelled {i : Fin 16} (h : Spent w i) : Spent (cancelledBlock w) i := by
  unfold Spent cancelledBlock at *
  dsimp only
  split
  · exact ⟨h.1, nofun, nofun⟩
  · exact h

lemma Spent.completed {i : Fin 16} (h : Spent w i) (task : Fin 16) :
    Spent (completedBlock w task) i := by
  have hu := h.update (k := task) (t := { w.tasks task with state := .completed }) ⟨nofun, nofun⟩
  unfold Spent completedBlock promote
  dsimp only
  rw [if_neg fun hb => hu.2.2 hb.2.1]
  exact hu

lemma Spent.extended {e : Extension d} {i : Fin 16} (h : Spent (d.workloads e.slot) i) :
    Spent e.undone i ∧ Spent e.block i := by
  have hne : i ≠ e.index := fun hi => (Nat.ne_of_lt h.1) (congrArg Fin.val hi)
  have htask : e.tasks i = (d.workloads e.slot).tasks i := update_of_ne hne _ _
  refine ⟨⟨h.1, ?_⟩, Nat.lt_succ_of_lt h.1, ?_⟩
  · show (e.tasks i).state ≠ _ ∧ (e.tasks i).state ≠ _
    rw [htask]
    exact h.2
  unfold Extension.block
  dsimp only
  split
  · rw [update_of_ne hne, htask]
    exact h.2
  · rw [htask]
    exact h.2

/-- The action is no submission to an irreversible workload of which a task was launched. -/
def Untried : Action d → Prop
  | .submit s => (d.workloads s.slot).recoveryClass = .class3Irreversible → launches d s.slot = []
  | _ => True

instance : DecidablePred (Untried (d := d)) := fun a => by
  apply @Effects.Action.casesOn _ _ a <;> intros <;> unfold Untried <;> infer_instance

def Once (d : WorkloadDaemon) : Prop := ∀ slot,
  (d.workloads slot).recoveryClass = .class3Irreversible → Tried d slot

/-- **A task of an irreversible workload is tried once**, whatever ends it. -/
lemma once_acts (hd : Once d) (hu : Unstarted d) (h : Acts d req d' a) (ha : Untried a) :
    Once d' := by
  intro slot hclass
  by_cases hcr : a = .create slot
  · subst hcr
    have hnone : launches d' slot = [] := by
      rw [launches_create h]
      exact hu slot (findFree_ok h.1)
    exact ⟨hnone ▸ List.nodup_nil, by rw [hnone]; exact nofun⟩
  rw [((acts_class h slot).resolve_left hcr).2] at hclass
  obtain ⟨hn, hs⟩ := hd slot hclass
  by_cases ht : target a = some slot
  swap
  · obtain ⟨hw, hl⟩ := acts_elsewhere h ht
    rw [Tried, hw, hl]
    exact ⟨hn, hs⟩
  cases a with
  | nothing => cases ht
  | create other => exact absurd (congrArg _ (Option.some.inj ht)) hcr
  | submit s =>
    cases ht
    have hnone := ha hclass
    exact tried_schedule hn (by rw [hnone]; exact nofun) h
  | cancel other =>
    cases ht
    obtain ⟨-, rfl⟩ := h
    unfold Tried execute4phaseCancellation
    rw [setBlock_self]
    exact ⟨hn, fun i hi => (hs i hi).cancelled⟩
  | extend e =>
    cases ht
    obtain ⟨-, ⟨-, rfl⟩ | ⟨-, h⟩⟩ := h
    · unfold Tried
      rw [setBlock_self]
      exact ⟨hn, fun i hi => (hs i hi).extended.1⟩
    · exact tried_schedule hn (fun i hi => (hs i hi).extended.2) h
  | finish other task exitCode =>
    cases ht
    obtain ⟨-, h⟩ := h
    rcases handleTask_cases h with ⟨-, -, trace, rfl, htrace⟩ | ⟨-, h⟩ | ⟨-, hr, -⟩ | ⟨-, -, rfl⟩
    · have hl : launches { (released d).setBlock slot { completedBlock (d.workloads slot) task with
          state := .completed } with trace := trace } slot = launches d slot := by
        rcases htrace with rfl | ⟨handle, rfl⟩ <;> rfl
      refine ⟨hl ▸ hn, fun i hi => ?_⟩
      rw [hl] at hi
      rw [setBlock_self]
      exact (hs i hi).completed task
    · exact tried_schedule (d := released d) hn (fun i hi => (hs i hi).completed task) h
    · exact absurd hclass hr.1
    unfold Tried execute4phaseCancellation
    rw [setBlock_self]
    refine ⟨hn, fun i hi => ?_⟩
    have hf : Spent (failedBlock (d.workloads slot) task) i := (hs i hi).update ⟨nofun, nofun⟩
    dsimp only
    rw [setBlock_self]
    exact hf.cancelled

/-! ### Runs -/

/-- **The condition.** -/
def Fresh (d : WorkloadDaemon) (req : IpcMessage) : Prop :=
  Pending (action d req) ∧ Untried (action d req)
  deriving Decidable

/-- What holds between two requests. -/
structure Sound (d : WorkloadDaemon) : Prop where
  orderly : Orderly d
  unstarted : Unstarted d
  once : Once d

lemma sound_boot (h : Boot d) : Sound d := by
  obtain ⟨-, -, htrace⟩ := boot_eq h
  have hnone : ∀ slot, launches d slot = [] := fun slot => by
    unfold launches
    rw [htrace]
    rfl
  refine ⟨orderly_boot h, fun slot _ => hnone slot, fun slot _ => ⟨hnone slot ▸ List.nodup_nil, ?_⟩⟩
  rw [hnone]
  exact nofun

lemma sound_step (h : Sound d) (hstep : StepIf Fresh d d') : Settled d d' ∧ Sound d' := by
  obtain ⟨req, resp, hfresh, hstep⟩ := hstep
  have hacts := dispatch_acts hstep
  exact ⟨(settled_acts_iff h.orderly hacts).mpr hfresh.1, orderly_acts h.orderly hacts,
    unstarted_acts h.unstarted hacts, once_acts h.once h.unstarted hacts hfresh.2⟩

lemma sound_reach (h : Reach Boot (StepIf Fresh) d) : Sound d :=
  h.invariant (I := Sound) (fun _ hs => sound_boot hs) fun _ _ hI hstep => (sound_step hI hstep).2

lemma settled_reach (h : Sound d) (hr : Reach (· = d) (StepIf Fresh) d') :
    Settled d d' ∧ Sound d' := by
  refine hr.invariant (I := fun d' => Settled d d' ∧ Sound d') ?_ fun s s' hI hstep => ?_
  · rintro s rfl
    exact ⟨Settled.refl s, h⟩
  obtain ⟨hsettled, hsound⟩ := sound_step hI.2 hstep
  exact ⟨hI.1.trans hsettled, hsound⟩

/-- **Workloads that are over.** After every sequence of requests that meet the condition, no task of
an irreversible workload was launched twice, and what is over then stays as it is in every
continuation. The next request leaves what is over alone if and only if it is no submission to it. -/
theorem terminal_iff (h : Reach Boot (StepIf Fresh) d) :
    (∀ slot, (d.workloads slot).recoveryClass = .class3Irreversible → (launches d slot).Nodup) ∧
      (∀ d', Reach (· = d) (StepIf Fresh) d' → Settled d d') ∧
      ∀ req resp d', dispatch d req = .ok (resp, d') →
        (Settled d d' ↔ Pending (action d req)) := by
  have hsound := sound_reach h
  refine ⟨fun slot hc => (hsound.once slot hc).1, fun d' hr => (settled_reach hsound hr).1,
    fun req resp d' hstep => ?_⟩
  exact settled_acts_iff hsound.orderly (dispatch_acts hstep)

/-- The notification that the process of the first task of slot 0 has ended. -/
def endedRequest : IpcMessage :=
  reply opProcessExitNotify [0xd0, 0x07, 0, 0, 0, 0, 0, 0, 0, 0, 0, 0]

theorem terminal_iff_completed :
    ∃ d, runIf Fresh fresh [createRequest 2, requestFirst opWorkloadSubmitDag [1], endedRequest] =
        some d ∧
      (∀ slot, (d.workloads slot).recoveryClass = .class3Irreversible → (launches d slot).Nodup) ∧
      (∀ d', Reach (· = d) (StepIf Fresh) d' → Settled d d') ∧
      ∀ req resp d', dispatch d req = .ok (resp, d') → (Settled d d' ↔ Pending (action d req)) :=
  exists_runIf terminal_iff (by decide +kernel)

/-- **A task is launched twice.** An irreversible workload of one task is completed and submitted
again. -/
theorem launched_twice :
    ∃ d₁ d₂, run fresh [createRequest 2, requestFirst opWorkloadSubmitDag [1], endedRequest] = .ok d₁ ∧
      run d₁ [requestFirst opWorkloadSubmitDag [1]] = .ok d₂ ∧
      (d₁.workloads 0).state = .completed ∧ (d₂.workloads 0).state = .running ∧
      (d₂.workloads 0).recoveryClass = .class3Irreversible ∧ launches d₂ 0 = [0, 0] :=
  exists_ok₂ (by decide +kernel)

end ProjectZero.Workloadd.Terminal
