import ProjectZero.Workloadd.Effects

/-! # The count of running tasks

The daemon counts the tasks that run, in all and, as leases, for each workload. A launch keeps both
counts exact (`exact_schedule_iff`). Four other things do not: a submission over tasks that still run,
a cancellation of tasks that are ready but do not run, and a failure that leads to another try
(`accounting_iff`). The room that one workload leaves is not given to another. -/

namespace ProjectZero.Workloadd.Accounting

open Lib.Run Libzero.Message Libzero.Workload Daemon Effects

variable {d d' : WorkloadDaemon} {slot : Fin 8} {w w' : WorkloadControlBlock} {task : Fin 16}

def tally (w : WorkloadControlBlock) (st : TaskState) : ℕ :=
  (Finset.univ.filter (TaskIn w st)).card

def totalRunning (d : WorkloadDaemon) : ℕ := ∑ slot, tally (d.workloads slot) .running

/-- **The counts are exact.** -/
@[mk_iff]
structure Exact (d : WorkloadDaemon) : Prop where
  total : d.activeRunningTasks = totalRunning d
  bound : d.activeRunningTasks ≤ maxConcurrentRunningTasks
  leases : ∀ slot, (d.workloads slot).activeLeaseCount = tally (d.workloads slot) .running

instance (d : WorkloadDaemon) : Decidable (Exact d) :=
  decidable_of_iff' _ (exact_iff d)

/-! ### One block changes -/

lemma tally_congr {st : TaskState} (h : ∀ i, TaskIn w' st i ↔ TaskIn w st i) :
    tally w' st = tally w st :=
  congrArg Finset.card (Finset.filter_congr fun i _ => h i)

lemma tally_eq_zero {st : TaskState} (h : ∀ i, ¬TaskIn w st i) : tally w st = 0 := by
  unfold tally
  rw [Finset.filter_false_of_mem fun i _ => h i, Finset.card_empty]

lemma tally_free (h : Ordered (d.workloads slot)) (hfree : findFreeWorkloadSlot d = some slot) :
    tally (d.workloads slot) .running = 0 := by
  have hempty := h.empty (findFree_ok hfree)
  exact tally_eq_zero fun i hi => by have := hi.1; omega

lemma tally_erase {st : TaskState} (htask : TaskIn w st task)
    (h : ∀ i, TaskIn w' st i ↔ i ≠ task ∧ TaskIn w st i) : tally w st = tally w' st + 1 := by
  have hset : Finset.univ.filter (TaskIn w' st) = (Finset.univ.filter (TaskIn w st)).erase task := by
    ext i
    simp [h i]
  have hmem : task ∈ Finset.univ.filter (TaskIn w st) := by simpa using htask
  unfold tally
  rw [hset, Finset.card_erase_of_mem hmem]
  have := Finset.card_pos.mpr ⟨task, hmem⟩
  omega

lemma totalRunning_update (hw : d'.workloads = update d.workloads slot w) :
    totalRunning d' + tally (d.workloads slot) .running = totalRunning d + tally w .running := by
  have hsum : totalRunning d' = ∑ s, update
      (fun s => tally (d.workloads s) .running) slot (tally w .running) s := by
    refine Finset.sum_congr rfl fun s _ => ?_
    rw [hw]
    by_cases hs : s = slot
    · subst hs
      simp
    · simp [hs]
  have hold := Finset.add_sum_erase Finset.univ (fun s => tally (d.workloads s) .running)
    (Finset.mem_univ slot)
  rw [Finset.sum_update_of_mem (Finset.mem_univ slot), Finset.sdiff_singleton_eq_erase] at hsum
  unfold totalRunning at *
  omega

lemma tally_le_total (d : WorkloadDaemon) (slot : Fin 8) :
    tally (d.workloads slot) .running ≤ totalRunning d :=
  Finset.single_le_sum (f := fun s => tally (d.workloads s) .running) (fun _ _ => Nat.zero_le _)
    (Finset.mem_univ slot)

/-- **One block and the counter change.** -/
lemma exact_update_iff (h : Exact d) (slot : Fin 8)
    (hw : d'.workloads = update d.workloads slot w) :
    Exact d' ↔ d'.activeRunningTasks + tally (d.workloads slot) .running =
        d.activeRunningTasks + tally w .running ∧
      d'.activeRunningTasks ≤ maxConcurrentRunningTasks ∧
      w.activeLeaseCount = tally w .running := by
  have hsum := totalRunning_update hw
  have htotal := h.total
  constructor
  · intro h'
    have hlease := h'.leases slot
    rw [hw, update_self] at hlease
    have := h'.total
    exact ⟨by omega, h'.bound, hlease⟩
  rintro ⟨hcount, hbound, hlease⟩
  refine ⟨by omega, hbound, fun s => ?_⟩
  rw [hw]
  by_cases hs : s = slot
  · subst hs
    rw [update_self]
    exact hlease
  rw [update_of_ne hs]
  exact h.leases s

lemma Exact.congr (h : Exact d) (hw : d'.workloads = d.workloads)
    (ha : d'.activeRunningTasks = d.activeRunningTasks) : Exact d' := by
  refine ⟨?_, ha ▸ h.bound, fun s => hw ▸ h.leases s⟩
  unfold totalRunning
  rw [ha, hw]
  exact h.total

/-! ### Launches -/

lemma tally_launched (d : WorkloadDaemon) (slot : Fin 8) {l : List (Fin 16)} (hl : l.Nodup)
    (hready : ∀ i ∈ l, TaskIn (d.workloads slot) .ready i) :
    tally (launchedBlock d slot l) .running = tally (d.workloads slot) .running + l.length := by
  have hset : Finset.univ.filter (TaskIn (launchedBlock d slot l) .running) =
      Finset.univ.filter (TaskIn (d.workloads slot) .running) ∪ l.toFinset := by
    ext i
    simp only [Finset.mem_union, Finset.mem_filter, Finset.mem_univ, true_and, List.mem_toFinset]
    by_cases hi : i ∈ l
    · have hlt := (hready i hi).1
      simp [TaskIn, launchedBlock, launchedTask, hi, hlt]
    · simp [TaskIn, launchedBlock, hi]
  have hdisjoint : Disjoint (Finset.univ.filter (TaskIn (d.workloads slot) .running))
      l.toFinset := by
    refine Finset.disjoint_left.mpr fun i hrun hi => ?_
    have hrun' := (Finset.mem_filter.mp hrun).2.2
    rw [(hready i (List.mem_toFinset.mp hi)).2] at hrun'
    cases hrun'
  unfold tally
  rw [hset, Finset.card_union_of_disjoint hdisjoint, List.toFinset_card_of_nodup hl]

/-- **Launches**: as many tasks are counted as launched, and while there is room none is left. -/
lemma schedule_counts (h : scheduleWorkloadTasks d slot = .ok d') : ∃ n w,
    d'.workloads = update d.workloads slot w ∧ n ≤ 8 - d.activeRunningTasks ∧
      d'.activeRunningTasks = d.activeRunningTasks + n ∧
      tally w .running = tally (d.workloads slot) .running + n ∧
      w.activeLeaseCount = (d.workloads slot).activeLeaseCount + n ∧
      (d'.activeRunningTasks < 8 → ∀ i, ¬TaskIn w .ready i) := by
  obtain rfl := schedule_eq h
  refine ⟨_, _, rfl, length_due_le _, rfl, tally_launched d slot (nodup_due _) fun _ => due_ready,
    rfl, fun hroom i hi => ?_⟩
  have hlen : d.activeRunningTasks + (due (d.workloads slot) d.activeRunningTasks).length < 8 := hroom
  by_cases hl : i ∈ due (d.workloads slot) d.activeRunningTasks
  · simp [TaskIn, launchedBlock, launchedTask, hl] at hi
  have hold : TaskIn (d.workloads slot) .ready i := by simpa [TaskIn, launchedBlock, hl] using hi
  unfold due maxConcurrentRunningTasks at hl hlen
  rw [List.length_take] at hlen
  rw [List.take_of_length_le (by omega)] at hl
  exact hl (by simpa [TaskIn] using hold)

lemma exact_schedule_iff (h : scheduleWorkloadTasks d slot = .ok d') : Exact d' ↔ Exact d := by
  obtain ⟨n, w, hw, hn, ha, ht, hlease, -⟩ := schedule_counts h
  constructor
  · intro h'
    have hsum := totalRunning_update hw
    have htotal := h'.total
    have hbound : d'.activeRunningTasks ≤ 8 := h'.bound
    refine ⟨by omega, show _ ≤ 8 by omega, fun s => ?_⟩
    have hs := h'.leases s
    rw [hw] at hs
    by_cases he : s = slot
    · subst he
      rw [update_self] at hs
      omega
    rw [update_of_ne he] at hs
    exact hs
  intro h'
  have hbound : d.activeRunningTasks ≤ 8 := h'.bound
  have hold := h'.leases slot
  exact (exact_update_iff h' slot hw).mpr ⟨by omega, show _ ≤ 8 by omega, by omega⟩

/-! ### The other actions -/

/-- A cancellation of the workload takes the counter down by the right amount: no task of it waits for
a launch, or no other workload has a running task. -/
def Lone (d : WorkloadDaemon) (slot : Fin 8) : Prop :=
  tally (d.workloads slot) .ready = 0 ∨
    d.activeRunningTasks = tally (d.workloads slot) .running
  deriving Decidable

/-- The condition on an action. -/
def Safe (d : WorkloadDaemon) : Action d → Prop
  | .submit s => tally (d.workloads s.slot) .running = 0
  | .cancel slot => Lone d slot
  | .finish slot task exitCode =>
    exitCode ≠ 0 → ¬Replays (d.workloads slot) task ∧ Lone d slot
  | _ => True

instance : DecidablePred (Safe d) := fun _ => by
  unfold Safe
  split <;> infer_instance

/-- **The condition.** -/
def Careful (d : WorkloadDaemon) (req : IpcMessage) : Prop := Safe d (action d req)
  deriving Decidable

lemma length_stopped (w : WorkloadControlBlock) :
    ((firstTasks w.taskCount).filter fun i => Stoppable (w.tasks i)).length =
      tally w .running + tally w .ready := by
  rw [← List.toFinset_card_of_nodup ((nodup_firstTasks _).filter _)]
  unfold tally
  rw [← Finset.card_union_of_disjoint]
  · congr 1
    ext i
    simp only [List.mem_toFinset, List.mem_filter, mem_firstTasks, decide_eq_true_eq,
      Finset.mem_union, Finset.mem_filter, Finset.mem_univ, true_and]
    exact and_or_left
  refine Finset.disjoint_left.mpr fun i hrun hready => ?_
  have hrun' := (Finset.mem_filter.mp hrun).2.2
  rw [(Finset.mem_filter.mp hready).2.2] at hrun'
  cases hrun'

lemma tally_cancelled (w : WorkloadControlBlock) : tally (cancelledBlock w) .running = 0 := by
  refine tally_eq_zero fun i hi => ?_
  unfold TaskIn cancelledBlock at hi
  dsimp only at hi
  split at hi
  · exact absurd hi.2 nofun
  rename_i hc
  exact hc ⟨hi.1, .inl hi.2⟩

lemma cancelled_count (d : WorkloadDaemon) (slot : Fin 8) :
    (execute4phaseCancellation d slot).activeRunningTasks = d.activeRunningTasks -
      (tally (d.workloads slot) .running + tally (d.workloads slot) .ready) := by
  rw [← length_stopped]
  rfl

lemma tally_submitted (s : Submission) (w : WorkloadControlBlock) :
    tally (s.block w) .running = 0 := by
  refine tally_eq_zero fun i hi => ?_
  unfold TaskIn Submission.block at hi
  dsimp only at hi
  rw [if_pos hi.1] at hi
  have hrun := hi.2
  unfold Submission.admitted at hrun
  split at hrun
  · cases hrun
  rw [s.blocked i hi.1] at hrun
  cases hrun

lemma taskIn_undone (e : Extension d) (st : TaskState) (i : Fin 16) :
    TaskIn e.undone st i ↔ TaskIn (d.workloads e.slot) st i := by
  refine and_congr_right fun hi : i.val < (d.workloads e.slot).taskCount => ?_
  have hne : i ≠ e.index := fun he => by
    have hval : e.index.val = (d.workloads e.slot).taskCount := rfl
    omega
  show (e.tasks i).state = st ↔ _
  rw [Extension.tasks, update_of_ne hne]

lemma tally_extended (e : Extension d) :
    tally e.block .running = tally (d.workloads e.slot) .running ∧
      tally e.undone .running = tally (d.workloads e.slot) .running := by
  refine ⟨?_, tally_congr (taskIn_undone e .running)⟩
  have hindex : (e.tasks e.index).state = .blocked := by simp [Extension.tasks, admittedTask]
  have hother : ∀ i ≠ e.index, e.tasks i = (d.workloads e.slot).tasks i := fun i hi =>
    update_of_ne hi ..
  have hval : e.index.val = (d.workloads e.slot).taskCount := rfl
  refine tally_congr fun i => ?_
  unfold TaskIn Extension.block
  dsimp only
  by_cases hi : i = e.index
  · subst hi
    rw [hval]
    split
    · simp
    · simp [hindex]
  have hne : i.val ≠ e.index.val := fun he => hi (Fin.ext he)
  have hlt : i.val < (d.workloads e.slot).taskCount + 1 ↔
      i.val < (d.workloads e.slot).taskCount := by omega
  rw [hlt]
  split
  · rw [update_of_ne hi, hother i hi]
  · rw [hother i hi]

section

variable (htask : TaskIn w .running task)

include htask

lemma tally_left {t : TaskDescriptor}
    (hcount : w'.taskCount = w.taskCount) (htasks : w'.tasks = update w.tasks task t)
    (ht : t.state ≠ .running) : tally w .running = tally w' .running + 1 := by
  refine tally_erase htask fun i => ?_
  unfold TaskIn
  rw [hcount, htasks]
  by_cases hi : i = task
  · subst hi
    simp [ht]
  · simp [hi]

lemma tally_completed : tally w .running = tally (completedBlock w task) .running + 1 := by
  have hleft : tally w .running = tally { w with
      tasks := update w.tasks task { w.tasks task with state := .completed } } .running + 1 :=
    tally_left htask rfl rfl nofun
  rw [hleft]
  refine congrArg (· + 1) (tally_congr fun i => ?_).symm
  unfold TaskIn completedBlock promote
  dsimp only
  refine and_congr_right fun _ => ?_
  split
  next hp =>
    simp [hp.2.1]
  · exact Iff.rfl

lemma tally_failed :
    tally w .running = tally (failedBlock w task) .running + 1 ∧
      tally (failedBlock w task) .ready = tally w .ready := by
  refine ⟨tally_left htask rfl rfl nofun, tally_congr fun i => ?_⟩
  unfold TaskIn failedBlock
  by_cases hi : i = task
  · subst hi
    simp [htask.2]
  · simp [hi]

end

lemma failed_counts (htask : TaskIn (d.workloads slot) .running task)
    (h : d' = execute4phaseCancellation ((released d).setBlock slot
      (failedBlock (d.workloads slot) task)) slot) :
    d'.workloads = update d.workloads slot (cancelledBlock (failedBlock (d.workloads slot) task)) ∧
      d'.activeRunningTasks = d.activeRunningTasks -
        (tally (d.workloads slot) .running + tally (d.workloads slot) .ready) := by
  obtain ⟨hfailed, hready⟩ := tally_failed htask
  subst h
  constructor
  · unfold execute4phaseCancellation
    rw [setBlock_self]
    exact update_idem ..
  rw [cancelled_count, setBlock_self, hready]
  show d.activeRunningTasks - 1 - _ = _
  omega

/-- The counter after a cancellation is right only for a lone workload. -/
lemma sub_add_eq_iff {a r q : ℕ} (h : r ≤ a) : a - (r + q) + r = a ↔ q = 0 ∨ a = r := by
  omega

/-- **One request**: exact counts stay exact if and only if the request is careful. -/
lemma exact_acts_iff (h : Exact d) (ho : Orderly d) {req : IpcMessage} {a : Action d}
    (ha : Acts d req d' a) : Exact d' ↔ Safe d a := by
  have hbound : d.activeRunningTasks ≤ 8 := h.bound
  have hle : ∀ slot, tally (d.workloads slot) .running ≤ d.activeRunningTasks := fun slot =>
    h.total ▸ tally_le_total d slot
  cases a with
  | nothing =>
    rw [show d' = d from ha]
    exact iff_of_true h trivial
  | create slot =>
    obtain ⟨hfree, rfl⟩ := ha
    refine iff_of_true ?_ trivial
    have hold := tally_free (ho slot) hfree
    have hlease := h.leases slot
    unfold handleWorkloadCreate
    rw [hfree]
    dsimp only
    split
    · exact h.congr rfl rfl
    refine (exact_update_iff h slot rfl).mpr ⟨?_, hbound, ?_⟩
    · rw [hold, tally_eq_zero fun i hi => absurd hi.1 (Nat.not_lt_zero _)]
      rfl
    rw [tally_eq_zero fun i hi => absurd hi.1 (Nat.not_lt_zero _)]
    exact hlease.trans hold
  | submit s =>
    rw [exact_schedule_iff ha, exact_update_iff h s.slot rfl, tally_submitted]
    have hlease := h.leases s.slot
    show _ ∧ _ ∧ (d.workloads s.slot).activeLeaseCount = 0 ↔ tally _ _ = 0
    constructor
    · rintro ⟨-, -, hz⟩
      omega
    intro hz
    rw [hz]
    exact ⟨rfl, hbound, by omega⟩
  | cancel slot =>
    obtain ⟨-, rfl⟩ := ha
    rw [exact_update_iff h slot rfl, tally_cancelled]
    rw [cancelled_count, Nat.add_zero, sub_add_eq_iff (hle slot)]
    exact ⟨fun hc => hc.1, fun hc => ⟨hc, show _ ≤ 8 by omega, rfl⟩⟩
  | extend e =>
    refine iff_of_true ?_ trivial
    obtain ⟨hblock, hundone⟩ := tally_extended e
    obtain ⟨-, ⟨-, rfl⟩ | ⟨-, hs⟩⟩ := ha
    · exact (exact_update_iff h e.slot rfl).mpr
        ⟨by rw [hundone]; rfl, hbound, by rw [hundone]; exact h.leases e.slot⟩
    exact (exact_schedule_iff hs).mpr ((exact_update_iff h e.slot rfl).mpr
      ⟨by rw [hblock]; rfl, hbound, by rw [hblock]; exact h.leases e.slot⟩)
  | finish slot task exitCode =>
    obtain ⟨hplace, ha⟩ := ha
    obtain ⟨-, htask⟩ := notified_ok hplace
    have hlease := h.leases slot
    have hrun := hle slot
    have hdone := tally_completed htask
    have hkeep : ∀ {d₁ w}, d₁.workloads = update d.workloads slot w →
        d₁.activeRunningTasks = d.activeRunningTasks - 1 →
        tally (d.workloads slot) .running = tally w .running + 1 →
        w.activeLeaseCount = (d.workloads slot).activeLeaseCount - 1 → Exact d₁ :=
      fun hw ha ht hl => (exact_update_iff h slot hw).mpr ⟨by omega, show _ ≤ 8 by omega, by omega⟩
    rcases handleTask_cases ha with ⟨rfl, -, trace, rfl, -⟩ | ⟨rfl, hs⟩ | ⟨hcode, hr, hs⟩ |
        ⟨hcode, hr, hd⟩
    · exact iff_of_true (hkeep rfl rfl hdone rfl) fun hc => absurd rfl hc
    · refine iff_of_true ((exact_schedule_iff hs).mpr ?_) fun hc => absurd rfl hc
      exact hkeep rfl rfl hdone rfl
    · -- the lease of the failed try is never given back
      rw [exact_schedule_iff hs, exact_update_iff h slot rfl]
      have hretry : tally (d.workloads slot) .running =
          tally (retriedBlock (d.workloads slot) task) .running + 1 := tally_left htask rfl rfl nofun
      refine iff_of_false ?_ fun hc => (hc hcode).1 hr
      rintro ⟨-, -, hl⟩
      have : (d.workloads slot).activeLeaseCount =
        tally (retriedBlock (d.workloads slot) task) .running := hl
      omega
    obtain ⟨hw, hcount⟩ := failed_counts htask hd
    rw [exact_update_iff h slot hw, tally_cancelled, hcount, Nat.add_zero, sub_add_eq_iff hrun]
    exact ⟨fun hc _ => ⟨hr, hc.1⟩, fun hc => ⟨(hc hcode).2, show _ ≤ 8 by omega, rfl⟩⟩

/-! ### Runs -/

lemma exact_boot (h : Boot d) : Exact d := by
  obtain ⟨hw, ha, -⟩ := boot_eq h
  have hzero : ∀ slot, tally (d.workloads slot) .running = 0 := fun slot => by
    rw [hw slot]
    exact tally_eq_zero fun i hi => absurd hi.1 (Nat.not_lt_zero _)
  refine ⟨?_, by rw [ha]; exact Nat.zero_le _, fun slot => ?_⟩
  · unfold totalRunning
    rw [ha, Finset.sum_eq_zero fun slot _ => hzero slot]
  rw [hzero slot, hw slot]
  rfl

lemma exact_reach (h : Reach Boot (StepIf Careful) d) : Exact d ∧ Orderly d := by
  refine h.invariant (I := fun d => Exact d ∧ Orderly d)
    (fun s hs => ⟨exact_boot hs, orderly_boot hs⟩) fun s s' hI ⟨req, resp, hc, hstep⟩ => ?_
  have hacts := dispatch_acts hstep
  exact ⟨(exact_acts_iff hI.1 hI.2 hacts).mpr hc, orderly_acts hI.2 hacts⟩

/-- **The accounting of the daemon** is exact after every sequence of careful requests, and the next
request keeps it exact if and only if it is careful. -/
theorem accounting_iff (h : Reach Boot (StepIf Careful) d) :
    Exact d ∧ ∀ req resp d', dispatch d req = .ok (resp, d') → (Exact d' ↔ Careful d req) := by
  obtain ⟨hexact, ho⟩ := exact_reach h
  exact ⟨hexact, fun req resp d' hstep => exact_acts_iff hexact ho (dispatch_acts hstep)⟩

theorem accounting_iff_submitted :
    ∃ d, runIf Careful fresh [createRequest 0, requestFirst opWorkloadSubmitDag [1]] = some d ∧
      Exact d ∧ ∀ req resp d', dispatch d req = .ok (resp, d') → (Exact d' ↔ Careful d req) :=
  exists_runIf accounting_iff (by decide +kernel)

/-- **The count drifts.** A workload of one task is submitted twice: two are counted, one runs. -/
theorem accounting_drifts :
    ∃ d, run fresh [createRequest 0, requestFirst opWorkloadSubmitDag [1],
        requestFirst opWorkloadSubmitDag [1]] = .ok d ∧
      d.activeRunningTasks = 2 ∧ totalRunning d = 1 ∧ ¬Exact d :=
  exists_ok (by decide +kernel)

/-! ### Work conservation -/

/-- A task of the workload waits for a launch. -/
def Waits (w : WorkloadControlBlock) : Prop := Underway w ∧ ∃ i, TaskIn w .ready i
  deriving Decidable

/-- **No task waits** while fewer tasks run than may. -/
def Conserving (d : WorkloadDaemon) : Prop :=
  totalRunning d < maxConcurrentRunningTasks → ∀ slot, ¬Waits (d.workloads slot)
  deriving Decidable

/-- No task ends while one of another workload waits, and none that runs is submitted over. -/
def Fair : Action d → Prop
  | .submit s => tally (d.workloads s.slot) .running = 0
  | .cancel slot | .finish slot _ _ => ∀ other ≠ slot, ¬Waits (d.workloads other)
  | _ => True

instance : DecidablePred (Fair (d := d)) := fun _ => by
  unfold Fair
  split <;> infer_instance

def Patient (d : WorkloadDaemon) (req : IpcMessage) : Prop := Fair (action d req)
  deriving Decidable

structure Busy (d : WorkloadDaemon) : Prop where
  counted : d.activeRunningTasks ≤ totalRunning d
  conserving : Conserving d

section

variable (h : Busy d) (hother : tally (d.workloads slot) .running ≤ tally w .running ∨
  ∀ other ≠ slot, ¬Waits (d.workloads other))

include h hother

lemma Busy.write (hw : d'.workloads = update d.workloads slot w)
    (hle : d'.activeRunningTasks + tally (d.workloads slot) .running ≤
      totalRunning d + tally w .running)
    (hown : d'.activeRunningTasks < 8 → totalRunning d' < 8 → ¬Waits w) : Busy d' := by
  have hsum := totalRunning_update hw
  refine ⟨by omega, fun hroom s => ?_⟩
  have hroom' : totalRunning d' < 8 := hroom
  rw [hw]
  by_cases hs : s = slot
  · subst hs
    rw [update_self]
    exact hown (by omega) hroom'
  rw [update_of_ne hs]
  rcases hother with hmore | hother
  · exact h.conserving (show _ < 8 by omega) s
  · exact hother s hs

lemma Busy.schedule {e : WorkloadDaemon} (he : e.workloads = d.workloads)
    (hs : scheduleWorkloadTasks (e.setBlock slot w) slot = .ok d')
    (hle : e.activeRunningTasks + tally (d.workloads slot) .running ≤
      totalRunning d + tally w .running) : Busy d' := by
  obtain ⟨n, w', hw, -, ha, ht, -, hown⟩ := schedule_counts hs
  rw [setBlock_self] at ht
  have hw' : d'.workloads = update d.workloads slot w' := by
    rw [hw, ← he]
    exact update_idem ..
  have ha' : d'.activeRunningTasks = e.activeRunningTasks + n := ha
  exact h.write (hother.imp (by omega) id) hw' (by omega) fun hr _ ⟨_, i, hi⟩ => hown hr i hi

end

/-- **One request**: only the end of a task makes room, and only a submission spoils the count. -/
lemma busy_acts (h : Busy d) (ho : Orderly d) {req : IpcMessage} {a : Action d} (ha : Acts d req d' a)
    (hf : Fair a) : Busy d' := by
  have hcount := h.counted
  have hle := tally_le_total d
  cases a with
  | nothing =>
    rw [show d' = d from ha]
    exact h
  | create slot =>
    obtain ⟨hfree, rfl⟩ := ha
    have hold := tally_free (ho slot) hfree
    unfold handleWorkloadCreate
    rw [hfree]
    dsimp only
    split
    · exact ⟨hcount, h.conserving⟩
    · exact h.write (.inl (show tally (d.workloads slot) _ ≤ _ by omega)) rfl
        (by rw [hold]; exact hcount.trans (Nat.le_add_right ..))
        fun _ _ hw => hw.1.not_free (.inl rfl)
  | submit s =>
    have hz : tally (d.workloads s.slot) .running = 0 := hf
    exact h.schedule (.inl (by omega)) rfl ha (by omega)
  | cancel slot =>
    obtain ⟨hslot, rfl⟩ := ha
    have hrun := hle slot
    exact h.write (.inr hf) rfl (by rw [cancelled_count]; omega) fun _ _ hw =>
      hw.1.not_terminal (terminal_cancelled (namedSlot_ok hslot).2)
  | extend e =>
    obtain ⟨hblock, hundone⟩ := tally_extended e
    obtain ⟨-, ⟨-, rfl⟩ | ⟨-, hs⟩⟩ := ha
    · have hsum := totalRunning_update (show (d.setBlock e.slot e.undone).workloads = _ from rfl)
      refine h.write (.inl hundone.ge) rfl (by rw [hundone]; exact Nat.add_le_add_right hcount _)
        fun _ hroom hw => ?_
      exact h.conserving (show _ < 8 by omega) e.slot
        ⟨hw.1, hw.2.imp fun i => (taskIn_undone e .ready i).mp⟩
    · exact h.schedule (.inl hblock.ge) rfl hs (by omega)
  | finish slot task exitCode =>
    obtain ⟨hplace, ha⟩ := ha
    obtain ⟨-, htask⟩ := notified_ok hplace
    have hrun := hle slot
    have hdone := tally_completed htask
    rcases handleTask_cases ha with ⟨-, -, trace, rfl, -⟩ | ⟨-, hs⟩ | ⟨-, -, hs⟩ | ⟨-, -, hd⟩
    · refine h.write (.inr hf) rfl ?_ fun _ _ hw => hw.1.not_terminal (.inl rfl)
      show d.activeRunningTasks - 1 + _ ≤ _ + tally (completedBlock (d.workloads slot) task) _
      omega
    · exact h.schedule (e := released d) (.inr hf) rfl hs (show _ - 1 + _ ≤ _ by omega)
    · have hretry : tally (d.workloads slot) .running =
          tally (retriedBlock (d.workloads slot) task) .running + 1 := tally_left htask rfl rfl nofun
      exact h.schedule (e := released d) (.inr hf) rfl hs (show _ - 1 + _ ≤ _ by omega)
    · obtain ⟨hw, hc⟩ := failed_counts htask hd
      exact h.write (.inr hf) hw (by omega) fun _ _ hw => hw.1.not_terminal (terminal_cancelled nofun)

/-- **Work conservation** in every run in which no task ends while another workload waits. -/
theorem conserving_of_patient (h : Reach Boot (StepIf Patient) d) : Conserving d := by
  refine (h.invariant (I := fun d => Busy d ∧ Orderly d) (fun s hs => ⟨?_, orderly_boot hs⟩)
    fun s s' hI ⟨req, resp, hc, hstep⟩ => ?_).1.conserving
  · obtain ⟨hw, ha, -⟩ := boot_eq hs
    refine ⟨by omega, fun _ slot hwait => ?_⟩
    rw [hw slot] at hwait
    exact hwait.1.not_free (.inl rfl)
  have hacts := dispatch_acts hstep
  exact ⟨busy_acts hI.1 hI.2 hacts hc, orderly_acts hI.2 hacts⟩

theorem conserving_of_patient_cancelled :
    ∃ d, runIf Patient fresh [createRequest 0, requestFirst opWorkloadSubmitDag [9],
      requestFirst opWorkloadCancel []] = some d ∧ Conserving d :=
  exists_runIf conserving_of_patient (by decide +kernel)

/-- **A task starves.** The first of two workloads runs eight tasks and is cancelled; the task of the
second is not launched, and nothing runs. -/
theorem task_starves :
    ∃ d, run fresh [createRequest 0, requestFirst opWorkloadSubmitDag [8], createRequest 0,
        reply opWorkloadSubmitDag (idBytes ⟨1, 102⟩ ++ [1]), requestFirst opWorkloadCancel []] = .ok d ∧
      totalRunning d = 0 ∧ Waits (d.workloads 1) ∧ ¬Conserving d :=
  exists_ok (by decide +kernel)

end ProjectZero.Workloadd.Accounting
