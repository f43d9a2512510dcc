import ProjectZero.Workloadd.Daemon

/-! # What a request does

A request is refused, or it leads to one of a few actions (`Action`, `dispatch_acts`). The loop of the
scheduler launches the tasks that are `due`: the first ready ones, as many as there is room for
(`schedule_eq`). -/

namespace ProjectZero.Workloadd.Effects

open Lib.Run Lib.Update Libzero.Message Libzero.Workload Daemon

variable {d d' : WorkloadDaemon} {slot : Fin 8} {w : WorkloadControlBlock} {l : List (Fin 16)}

@[simp] lemma setBlock_self : (d.setBlock slot w).workloads slot = w := update_self ..

/-! ### The scheduler -/

/-- The task is one of the workload, in the state `st`. -/
def TaskIn (w : WorkloadControlBlock) (st : TaskState) (i : Fin 16) : Prop :=
  i.val < w.taskCount ∧ (w.tasks i).state = st
  deriving Decidable

/-- The tasks the scheduler launches when `active` tasks are running. -/
def due (w : WorkloadControlBlock) (active : ℕ) : List (Fin 16) :=
  ((firstTasks w.taskCount).filter fun i => (w.tasks i).state = .ready).take
    (maxConcurrentRunningTasks - active)

variable {i : Fin 16}

lemma due_ready {active : ℕ} (h : i ∈ due w active) : TaskIn w .ready i := by
  have hi := List.mem_of_mem_take h
  simpa [TaskIn] using hi

lemma nodup_due (active : ℕ) : (due w active).Nodup :=
  ((nodup_firstTasks _).filter _).sublist (List.take_sublist _ _)

lemma length_due_le (active : ℕ) : (due w active).length ≤ 8 - active := List.length_take_le _ _

/-- The task as `launch_task_process` leaves it. -/
def launchedTask (nodeId : ℕ) (slot : Fin 8) (i : Fin 16) (t : TaskDescriptor) : TaskDescriptor :=
  { t with
    leaseId := ⟨nodeId, 100 + i.val⟩
    assignedPid := 2000 + slot.val * 16 + i.val
    state := .running }

local instance lawful : LawfulBEq (Fin 16) := inferInstance

/-- The control block after the launch of the tasks in `l`. -/
def launchedBlock (d : WorkloadDaemon) (slot : Fin 8) (l : List (Fin 16)) : WorkloadControlBlock :=
  let w := d.workloads slot
  { w with
    state := if w.state = .ready ∧ l ≠ [] then .running else w.state
    activeLeaseCount := w.activeLeaseCount + l.length
    tasks := fun i => if i ∈ l then launchedTask d.nodeId slot i (w.tasks i) else w.tasks i }

/-- The daemon after the launch of the tasks in `l`, the first one first. -/
def launchAll (d : WorkloadDaemon) (slot : Fin 8) (l : List (Fin 16)) : WorkloadDaemon :=
  { d.setBlock slot (launchedBlock d slot l) with
    activeRunningTasks := d.activeRunningTasks + l.length
    trace := (l.map (Effect.launch slot)).reverse ++ d.trace }

lemma launchAll_nil : launchAll d slot [] = d := by
  unfold launchAll launchedBlock WorkloadDaemon.setBlock
  simp

lemma launchTaskProcess_eq (h : launchTaskProcess d slot i = .ok d') :
    d' = launchAll d slot [i] := by
  unfold launchTaskProcess at h
  dsimp only at h
  split at h
  · cases h
  cases h
  have hblock : ({ d.workloads slot with
      state := if (d.workloads slot).state = .ready then .running else (d.workloads slot).state
      activeLeaseCount := (d.workloads slot).activeLeaseCount + 1
      tasks := update (d.workloads slot).tasks i
        (launchedTask d.nodeId slot i ((d.workloads slot).tasks i)) } : WorkloadControlBlock) =
      launchedBlock d slot [i] := by
    unfold launchedBlock
    simp only [ne_eq, reduceCtorEq, not_false_eq_true, and_true, List.mem_singleton]
    congr 1
    funext j
    by_cases hj : j = i
    · subst hj
      simp
    · simp [hj]
  unfold launchAll
  rw [← hblock]
  rfl

lemma launchAll_cons (hi : i ∉ l) :
    launchAll (launchAll d slot [i]) slot l = launchAll d slot (i :: l) := by
  unfold launchAll launchedBlock WorkloadDaemon.setBlock
  simp only [update_self, update_idem, List.length_cons, List.length_nil,
    List.map_cons, List.map_nil, List.reverse_cons, List.reverse_nil, List.nil_append,
    List.append_assoc, List.singleton_append, ne_eq, reduceCtorEq, not_false_eq_true, and_true]
  have hcount : ∀ n : ℕ, n + (0 + 1) + l.length = n + (l.length + 1) := by
    intro n
    omega
  rw [hcount, hcount]
  congr 3
  · by_cases hr : (d.workloads slot).state = .ready
    · simp [hr]
    · simp [hr]
  funext j
  by_cases hj : j = i
  · subst hj
    simp [hi]
  · simp [hj]

lemma scheduleFrom_eq (hl : l.Nodup) (h : scheduleFrom slot l d = .ok d') :
    d' = launchAll d slot ((l.filter fun i => ((d.workloads slot).tasks i).state = .ready).take
      (8 - d.activeRunningTasks)) := by
  induction l generalizing d with
  | nil =>
    cases h
    rw [List.filter_nil, List.take_nil, launchAll_nil]
  | cons i rest ih =>
    obtain ⟨hi, hrest⟩ := List.nodup_cons.mp hl
    unfold scheduleFrom at h
    by_cases hfull : d.activeRunningTasks ≥ maxConcurrentRunningTasks
    · rw [if_pos hfull] at h
      cases h
      rw [Nat.sub_eq_zero_of_le (show 8 ≤ _ from hfull), List.take_zero, launchAll_nil]
    rw [if_neg hfull] at h
    by_cases hr : ((d.workloads slot).tasks i).state = .ready
    · rw [if_pos hr] at h
      obtain ⟨d1, h1, h⟩ := bind_eq_ok h
      have hd1 := launchTaskProcess_eq h1
      have hroom : 8 - d.activeRunningTasks = (8 - d1.activeRunningTasks) + 1 := by
        rw [hd1]
        show _ = 8 - (d.activeRunningTasks + 1) + 1
        unfold maxConcurrentRunningTasks at hfull
        omega
      -- the launch changes no other task
      have hsame : (rest.filter fun j => ((d1.workloads slot).tasks j).state = .ready) =
          rest.filter fun j => ((d.workloads slot).tasks j).state = .ready := by
        refine List.filter_congr fun j hj => ?_
        have hji : j ≠ i := fun e => hi (e ▸ hj)
        rw [hd1]
        simp [launchAll, launchedBlock, WorkloadDaemon.setBlock, hji]
      rw [List.filter_cons_of_pos (by simpa using hr), hroom, List.take_succ_cons, ih hrest h, hsame,
        hd1]
      exact launchAll_cons fun hmem => hi (List.mem_filter.mp (List.mem_of_mem_take hmem)).1
    rw [if_neg hr] at h
    rw [List.filter_cons_of_neg (by simpa using hr)]
    exact ih hrest h

/-- **The scheduler launches what is due.** -/
lemma schedule_eq (h : scheduleWorkloadTasks d slot = .ok d') :
    d' = launchAll d slot (due (d.workloads slot) d.activeRunningTasks) :=
  scheduleFrom_eq (nodup_firstTasks _) h

/-! ### Actions -/

/-- What a request leads to. -/
inductive Action (d : WorkloadDaemon)
  | nothing
  | create (slot : Fin 8)
  | submit (s : Submission)
  | cancel (slot : Fin 8)
  | extend (e : Extension d)
  | finish (slot : Fin 8) (task : Fin 16) (exitCode : BitVec 32)

/-- The action of a request, `nothing` if it is refused. -/
def action (d : WorkloadDaemon) (req : IpcMessage) : Action d :=
  if req.tag = opWorkloadCreate then
    match findFreeWorkloadSlot d with
    | none => .nothing
    | some slot => .create slot
  else if req.tag = opWorkloadSubmitDag then
    match readSubmission d req with
    | .ok (.ok s) => .submit s
    | _ => .nothing
  else if req.tag = opWorkloadCancel then
    match namedSlot d req 16 with
    | .error _ => .nothing
    | .ok slot => .cancel slot
  else if req.tag = opWorkloadExtendDag then
    match readExtension d req with
    | .error _ => .nothing
    | .ok e => .extend e
  else if req.tag = opProcessExitNotify then
    match notified d req with
    | .error _ => .nothing
    | .ok (slot, task) => .finish slot task (exitCodeOf req)
  else .nothing

/-- The slot of an action. -/
def target : Action d → Option (Fin 8)
  | .nothing => none
  | .create slot | .cancel slot | .finish slot _ _ => some slot
  | .submit s => some s.slot
  | .extend e => some e.slot

/-- The extension makes the graph cyclic. -/
def Refused (e : Extension d) : Prop := e.dag.verifyAcyclic.toOption = none
  deriving Decidable

variable {req : IpcMessage}

lemma action_create (h : action d req = .create slot) : req.tag = opWorkloadCreate := by
  by_contra hc
  unfold action at h
  rw [if_neg hc] at h
  iterate 4
    split at h
    · split at h <;> cases h
  · cases h

/-- The daemon after an action. -/
def Acts (d : WorkloadDaemon) (req : IpcMessage) (d' : WorkloadDaemon) : Action d → Prop
  | .nothing => d' = d
  | .create slot => findFreeWorkloadSlot d = some slot ∧ d' = (handleWorkloadCreate d req).2
  | .submit s =>
    scheduleWorkloadTasks (d.setBlock s.slot (s.block (d.workloads s.slot))) s.slot = .ok d'
  | .cancel slot => namedSlot d req 16 = .ok slot ∧ d' = execute4phaseCancellation d slot
  | .extend e => readExtension d req = .ok e ∧ (Refused e ∧ d' = d.setBlock e.slot e.undone ∨
      ¬Refused e ∧ scheduleWorkloadTasks (d.setBlock e.slot e.block) e.slot = .ok d')
  | .finish slot task exitCode => notified d req = .ok (slot, task) ∧
      handleTaskCompletionOrFailure d slot task exitCode = .ok d'

/-- **A request does what its action says.** -/
lemma dispatch_acts {resp : IpcMessage} (h : dispatch d req = .ok (resp, d')) :
    Acts d req d' (action d req) := by
  unfold dispatch at h
  unfold action
  by_cases hcreate : req.tag = opWorkloadCreate
  · rw [if_pos hcreate] at h ⊢
    cases hfree : findFreeWorkloadSlot d with
    | none =>
      unfold handleWorkloadCreate at h
      rw [hfree] at h
      cases h
      exact rfl
    | some slot => exact ⟨hfree, (congrArg Prod.snd (Except.ok.inj h)).symm⟩
  rw [if_neg hcreate] at h ⊢
  by_cases hsubmit : req.tag = opWorkloadSubmitDag
  · rw [if_pos hsubmit] at h ⊢
    obtain ⟨r, hr, h⟩ := bind_eq_ok h
    rw [hr]
    cases r with
    | error e =>
      cases h
      exact rfl
    | ok s =>
      obtain ⟨d1, h1, h⟩ := bind_eq_ok h
      cases h
      exact h1
  rw [if_neg hsubmit] at h ⊢
  by_cases hquery : req.tag = opWorkloadQuery
  · rw [if_pos hquery] at h
    cases h
    rw [hquery]
    exact rfl
  rw [if_neg hquery] at h
  by_cases hcancel : req.tag = opWorkloadCancel
  · rw [if_pos hcancel] at h ⊢
    unfold handleWorkloadCancel at h
    cases hslot : namedSlot d req 16 with
    | error e =>
      rw [hslot] at h
      cases h
      exact rfl
    | ok slot =>
      rw [hslot] at h
      cases h
      exact ⟨hslot, rfl⟩
  rw [if_neg hcancel] at h ⊢
  by_cases hextend : req.tag = opWorkloadExtendDag
  · rw [if_pos hextend] at h ⊢
    unfold handleWorkloadExtendDag at h
    cases hext : readExtension d req with
    | error e =>
      rw [hext] at h
      cases h
      exact rfl
    | ok e =>
      rw [hext] at h
      dsimp only at h
      refine ⟨hext, ?_⟩
      split at h
      · cases h
      split at h
      next he =>
        cases h
        exact .inl ⟨by simp [Refused, he, Except.toOption], rfl⟩
      rename_i he
      obtain ⟨d1, h1, h⟩ := bind_eq_ok h
      cases h
      exact .inr ⟨by simp [Refused, he, Except.toOption], h1⟩
  rw [if_neg hextend] at h ⊢
  by_cases hexit : req.tag = opProcessExitNotify
  · rw [if_pos hexit] at h ⊢
    unfold handleProcessExitNotify at h
    cases hplace : notified d req with
    | error e =>
      rw [hplace] at h
      cases h
      exact rfl
    | ok place =>
      obtain ⟨slot, task⟩ := place
      rw [hplace] at h
      obtain ⟨d1, h1, h⟩ := bind_eq_ok h
      cases h
      exact ⟨hplace, h1⟩
  rw [if_neg hexit] at h ⊢
  cases h
  exact rfl

/-! ### Where the steps of an action lead -/

lemma notified_ok {task : Fin 16} (h : notified d req = .ok (slot, task)) :
    ((d.workloads slot).state = .running ∨ (d.workloads slot).state = .recovering) ∧
      TaskIn (d.workloads slot) .running task := by
  unfold notified at h
  split at h
  · cases h
  split at h
  · cases h
  rename_i hplace
  cases h
  obtain ⟨other, -, hfound⟩ := List.exists_of_findSome?_eq_some hplace
  dsimp only at hfound
  split at hfound
  next hstate =>
    obtain ⟨i, hi, he⟩ := Option.map_eq_some_iff.mp hfound
    cases he
    have hmem := mem_firstTasks.mp (List.mem_of_find?_eq_some hi)
    have hrun := List.find?_some hi
    simp only [decide_eq_true_eq] at hrun
    exact ⟨hstate, hmem, hrun.2⟩
  · cases hfound

lemma namedSlot_ok {least : ℕ} (h : namedSlot d req least = .ok slot) :
    (d.workloads slot).workloadId = req.idAt 0 ∧ (d.workloads slot).state ≠ .reclaimed := by
  unfold namedSlot at h
  split at h
  · cases h
  split at h
  · cases h
  rename_i hfound
  cases h
  simpa using List.find?_some hfound

lemma readExtension_ok {e : Extension d} (h : readExtension d req = .ok e) :
    (d.workloads e.slot).state = .ready ∨ (d.workloads e.slot).state = .running := by
  unfold readExtension at h
  split at h
  · cases h
  dsimp only at h
  split at h
  · cases h
  rename_i hstate
  split at h
  · cases h
  split at h
  · cases h
  cases h
  by_contra hc
  exact hstate (not_or.mp hc)

variable (w)

/-- The slot can be given to a new workload. -/
def Free : Prop := w.state = .creating ∨ w.state = .reclaimed

lemma findFree_ok (h : findFreeWorkloadSlot d = some slot) : Free (d.workloads slot) := by
  unfold Free
  simpa using List.find?_some h

def Terminal : Prop :=
  w.state = .completed ∨ w.state = .cancelled ∨ w.state = .failed
  deriving Decidable

/-- The workload has tasks, and some may still run. -/
def Underway : Prop :=
  w.state = .ready ∨ w.state = .running ∨ w.state = .recovering
  deriving Decidable

variable {w}

/-- What holds of every control block between two requests. -/
structure Ordered (w : WorkloadControlBlock) : Prop where
  empty : Free w → w.taskCount = 0
  reclaimed : w.state ≠ .reclaimed
  failed : w.state ≠ .failed
  idle : Terminal w → ∀ i : Fin 16, i.val < w.taskCount → ¬Stoppable (w.tasks i)

lemma Underway.not_terminal (h : Underway w) : ¬Terminal w := by
  unfold Underway at h
  rintro (ht | ht | ht) <;> · rw [ht] at h; simp at h

lemma Underway.not_free (h : Underway w) : ¬Free w := by
  unfold Underway at h
  rintro (ht | ht) <;> · rw [ht] at h; simp at h

lemma Underway.ordered (h : Underway w) : Ordered w :=
  ⟨fun hf => absurd hf h.not_free, fun hr => h.not_free (.inr hr),
    fun hf => h.not_terminal (.inr (.inr hf)), fun ht => absurd ht h.not_terminal⟩

lemma underway_launched (h : Underway (d.workloads slot)) : Underway (launchedBlock d slot l) := by
  unfold Underway launchedBlock at *
  dsimp only
  split
  · exact .inr (.inl rfl)
  · exact h

lemma Terminal.not_free (h : Terminal w) : ¬Free w := by
  unfold Terminal at h
  rintro (hf | hf) <;> · rw [hf] at h; simp at h

lemma cancelled_state (h : w.state ≠ .reclaimed) :
    (cancelledBlock w).state = .completed ∨ (cancelledBlock w).state = .cancelled := by
  unfold cancelledBlock
  by_cases hc : w.state = .completed
  · simp [hc]
  · simp [hc, h]

lemma terminal_cancelled (h : w.state ≠ .reclaimed) : Terminal (cancelledBlock w) :=
  (cancelled_state h).imp id .inl

lemma ordered_cancelled (h : w.state ≠ .reclaimed) : Ordered (cancelledBlock w) := by
  have hfree := (terminal_cancelled h).not_free
  refine ⟨fun hf => absurd hf hfree, fun hr => hfree (.inr hr), ?_, ?_⟩
  · intro hf
    have hstate := cancelled_state h
    rw [hf] at hstate
    simp at hstate
  intro _ i hi
  unfold cancelledBlock Stoppable at *
  dsimp only at hi ⊢
  split
  · simp
  rename_i hc
  exact fun hs => hc ⟨hi, hs⟩

/-- A failure of the task leads to another try. -/
def Replays (w : WorkloadControlBlock) (task : Fin 16) : Prop :=
  w.recoveryClass ≠ .class3Irreversible ∧ (w.tasks task).retryCount < (w.tasks task).maxRetries
  deriving Decidable

/-- The daemon while the end of a task is handled. -/
def released (d : WorkloadDaemon) : WorkloadDaemon :=
  { d with activeRunningTasks := d.activeRunningTasks - 1 }

/-- **The end of a task**: all tasks are completed, or others are launched, or the task is launched
again, or the workload is cancelled. -/
lemma handleTask_cases {task : Fin 16} {exitCode : BitVec 32}
    (h : handleTaskCompletionOrFailure d slot task exitCode = .ok d') :
    (exitCode = 0 ∧ (∀ i : Fin 16, i.val < (d.workloads slot).taskCount →
        ((completedBlock (d.workloads slot) task).tasks i).state = .completed) ∧
      ∃ trace, d' = { (released d).setBlock slot
        { completedBlock (d.workloads slot) task with state := .completed } with trace := trace } ∧
        (trace = d.trace ∨ ∃ handle, trace = .close handle :: d.trace)) ∨
    (exitCode = 0 ∧
      scheduleWorkloadTasks ((released d).setBlock slot (completedBlock (d.workloads slot) task)) slot =
        .ok d') ∨
    (exitCode ≠ 0 ∧ Replays (d.workloads slot) task ∧
      scheduleWorkloadTasks ((released d).setBlock slot (retriedBlock (d.workloads slot) task)) slot =
        .ok d') ∨
    (exitCode ≠ 0 ∧ ¬Replays (d.workloads slot) task ∧ d' = execute4phaseCancellation
      ((released d).setBlock slot (failedBlock (d.workloads slot) task)) slot) := by
  unfold handleTaskCompletionOrFailure at h
  split at h
  next hzero =>
    unfold completeTask at h
    dsimp only at h
    split at h
    next hall =>
      cases h
      refine .inl ⟨hzero, fun i hi => hall i (mem_firstTasks.mpr hi), _, rfl, ?_⟩
      split
      · exact .inr ⟨_, rfl⟩
      · exact .inl rfl
    · exact .inr (.inl ⟨hzero, h⟩)
  rename_i hcode
  unfold failTask at h
  dsimp only at h
  refine .inr (.inr ?_)
  split at h
  iterate 2
    next hclass =>
      split at h
      next hretry =>
        exact .inl ⟨hcode, ⟨by rw [hclass]; exact nofun, hretry⟩, h⟩
      rename_i hretry
      exact .inr ⟨hcode, fun hr => hretry hr.2, (Except.ok.inj h).symm⟩
  rename_i hclass
  exact .inr ⟨hcode, fun hr => hr.1 hclass, (Except.ok.inj h).symm⟩

section

variable (h : scheduleWorkloadTasks (d.setBlock slot w) slot = .ok d')

include h

lemma schedule_workloads :
    d'.workloads = update d.workloads slot
      (launchedBlock (d.setBlock slot w) slot (due w d.activeRunningTasks)) := by
  rw [schedule_eq h, setBlock_self]
  exact update_idem ..

lemma schedule_allocator : d'.allocator = d.allocator := by
  rw [schedule_eq h]
  rfl

end

def Orderly (d : WorkloadDaemon) : Prop := ∀ slot, Ordered (d.workloads slot)

def SameWorkload (w w' : WorkloadControlBlock) : Prop :=
  w'.workloadId = w.workloadId ∧ w'.recoveryClass = w.recoveryClass

/-- The control block `w` that an action writes is in order. It is the one of a new workload, or the
workload was there and has started. -/
structure Written (a : Action d) (slot : Fin 8) (w : WorkloadControlBlock) : Prop where
  target : target a = some slot
  ordered : Ordered w
  started : a = .create slot ∨ ¬Free w ∧ SameWorkload (d.workloads slot) w

variable {a : Action d}

section

variable (h : Underway w) (ht : target a = some slot) (hc : SameWorkload (d.workloads slot) w)

include h ht hc

lemma Underway.written : Written a slot w :=
  ⟨ht, h.ordered, .inr ⟨h.not_free, hc⟩⟩

lemma Underway.scheduled {e : WorkloadDaemon} :
    Written a slot (launchedBlock (e.setBlock slot w) slot l) := by
  have hw : Underway ((e.setBlock slot w).workloads slot) := by
    rw [setBlock_self]
    exact h
  refine (underway_launched hw).written ht ?_
  unfold launchedBlock
  rw [setBlock_self]
  exact hc

end

lemma written_cancelled (h : w.state ≠ .reclaimed) (ht : target a = some slot)
    (hc : SameWorkload (d.workloads slot) w) : Written a slot (cancelledBlock w) :=
  ⟨ht, ordered_cancelled h, .inr ⟨(terminal_cancelled h).not_free, hc⟩⟩

/-- An action writes one control block, but if it is refused or finds no identifier. -/
lemma acts_block (h : Acts d req d' a) :
    (d'.workloads = d.workloads ∧
        (a = .nothing ∧ d'.allocator = d.allocator ∨ ∃ slot, a = .create slot)) ∨
      ∃ slot w, d'.workloads = update d.workloads slot w ∧ Written a slot w ∧
        (a = .create slot ∨ d'.allocator = d.allocator) := by
  cases a with
  | nothing =>
    rw [show d' = d from h]
    exact .inl ⟨rfl, .inl ⟨rfl, rfl⟩⟩
  | create slot =>
    obtain ⟨hfree, rfl⟩ := h
    unfold handleWorkloadCreate
    rw [hfree]
    dsimp only
    split
    · exact .inl ⟨rfl, .inr ⟨slot, rfl⟩⟩
    refine .inr ⟨slot, _, rfl, ⟨rfl, ⟨fun _ => rfl, nofun, nofun, ?_⟩, .inl rfl⟩, .inl rfl⟩
    rintro (ht | ht | ht) <;> cases ht
  | submit s =>
    have hw : Underway (s.block (d.workloads s.slot)) := .inl rfl
    exact .inr ⟨s.slot, _, schedule_workloads h, hw.scheduled rfl ⟨rfl, rfl⟩,
      .inr (schedule_allocator h)⟩
  | cancel slot =>
    obtain ⟨hslot, rfl⟩ := h
    exact .inr ⟨slot, _, rfl, written_cancelled (namedSlot_ok hslot).2 rfl ⟨rfl, rfl⟩, .inr rfl⟩
  | extend e =>
    obtain ⟨hext, ⟨-, rfl⟩ | ⟨-, h⟩⟩ := h
    · have hw : Underway e.undone := (readExtension_ok hext).imp id .inl
      exact .inr ⟨e.slot, _, rfl, hw.written rfl ⟨rfl, rfl⟩, .inr rfl⟩
    have hw : Underway e.block := (readExtension_ok hext).imp id .inl
    exact .inr ⟨e.slot, _, schedule_workloads h, hw.scheduled rfl ⟨rfl, rfl⟩,
      .inr (schedule_allocator h)⟩
  | finish slot task exitCode =>
    obtain ⟨hplace, h⟩ := h
    obtain ⟨hstate, -⟩ := notified_ok hplace
    rcases handleTask_cases h with ⟨-, hall, trace, rfl, -⟩ | ⟨-, h⟩ | ⟨-, -, h⟩ | ⟨-, -, rfl⟩
    · have hfree : ¬Free { completedBlock (d.workloads slot) task with state := .completed } := by
        rintro (hf | hf) <;> cases hf
      refine .inr ⟨slot, _, rfl, ⟨rfl, ⟨fun hf => absurd hf hfree, nofun, nofun, ?_⟩,
        .inr ⟨hfree, rfl, rfl⟩⟩, .inr rfl⟩
      intro _ i hi
      have hdone := hall i hi
      rintro (hs | hs) <;> · rw [hdone] at hs; cases hs
    · have hw : Underway (completedBlock (d.workloads slot) task) := .inr hstate
      exact .inr ⟨slot, _, schedule_workloads (d := released d) h, hw.scheduled rfl ⟨rfl, rfl⟩,
        .inr (schedule_allocator (d := released d) h)⟩
    · have hw : Underway (retriedBlock (d.workloads slot) task) := .inr (.inr rfl)
      exact .inr ⟨slot, _, schedule_workloads (d := released d) h, hw.scheduled rfl ⟨rfl, rfl⟩,
        .inr (schedule_allocator (d := released d) h)⟩
    refine .inr ⟨slot, cancelledBlock (failedBlock (d.workloads slot) task), ?_,
      written_cancelled nofun rfl ⟨rfl, rfl⟩, .inr rfl⟩
    unfold execute4phaseCancellation
    rw [setBlock_self]
    exact update_idem ..

lemma orderly_acts (hd : Orderly d) (h : Acts d req d' a) : Orderly d' := by
  intro other
  rcases acts_block h with ⟨he, -⟩ | ⟨slot, w, he, hw, -⟩
  · rw [he]
    exact hd other
  rw [he]
  by_cases ho : other = slot
  · subst ho
    rw [update_self]
    exact hw.ordered
  rw [update_of_ne ho]
  exact hd other

/-! ### Runs -/

/-- A step of the daemon: a request that meets a condition, and that it answers. -/
def StepIf (P : WorkloadDaemon → IpcMessage → Prop) (d d' : WorkloadDaemon) : Prop :=
  ∃ req resp, P d req ∧ dispatch d req = .ok (resp, d')

def Boot (d : WorkloadDaemon) : Prop := ∃ nodeId, WorkloadDaemon.new nodeId = .ok d

lemma boot_eq (h : Boot d) : (∀ slot, d.workloads slot = emptyBlock) ∧
    d.activeRunningTasks = 0 ∧ d.trace = [] := by
  obtain ⟨nodeId, h⟩ := h
  cases h
  exact ⟨fun _ => rfl, rfl, rfl⟩

lemma orderly_boot (h : Boot d) : Orderly d := by
  intro slot
  rw [(boot_eq h).1 slot]
  exact ⟨fun _ => rfl, nofun, nofun, by rintro (ht | ht | ht) <;> cases ht⟩

/-! ### The graphs of the tasks -/

def graph (w : WorkloadControlBlock) : TaskDag := .fromTasks w.tasks w.taskCount

def Acyclic (d : WorkloadDaemon) : Prop := ∀ slot, (graph (d.workloads slot)).Acyclic

lemma Acyclic.setBlock (hd : Acyclic d) (hw : (graph w).Acyclic) : Acyclic (d.setBlock slot w) :=
  update_all (P := fun _ w => (graph w).Acyclic) hw fun b _ => hd b

lemma Acyclic.update (hd : Acyclic d) (slot : Fin 8) (task : Fin 16) {t : TaskDescriptor}
    (ht : t.dependencies = ((d.workloads slot).tasks task).dependencies) :
    (TaskDag.fromTasks (update (d.workloads slot).tasks task t)
      (d.workloads slot).taskCount).Acyclic :=
  (hd slot).congr fun i _ => update_keep TaskDescriptor.dependencies ht i

lemma Acyclic.schedule (hd : Acyclic d) (h : scheduleWorkloadTasks d slot = .ok d') :
    Acyclic d' := by
  rw [schedule_eq h]
  refine hd.setBlock ((hd slot).congr fun i _ => ?_)
  unfold launchedBlock
  dsimp only
  split <;> rfl

lemma Acyclic.cancel (hd : Acyclic d) : Acyclic (execute4phaseCancellation d slot) := by
  refine hd.setBlock ((hd slot).congr fun i _ => ?_)
  unfold cancelledBlock
  dsimp only
  split <;> rfl

lemma Acyclic.complete (hd : Acyclic d) (slot : Fin 8) (task : Fin 16) :
    (graph (completedBlock (d.workloads slot) task)).Acyclic := by
  refine (hd.update slot task (t := { (d.workloads slot).tasks task with state := .completed })
    rfl).congr fun i _ => ?_
  unfold completedBlock promote
  dsimp only
  split <;> rfl

lemma acyclic_submission {s : Submission} (h : action d req = .submit s) :
    (graph (s.block w)).Acyclic := by
  have hs : readSubmission d req = .ok (.ok s) := by
    unfold action at h
    grind
  unfold readSubmission at hs
  dsimp only at hs
  iterate 5
    split at hs
    · cases hs
  rename_i hok
  cases hs
  refine (TaskDag.acyclic_of_ok hok).congr fun i hi => ?_
  unfold Submission.block Submission.admitted
  grind

lemma acyclic_extension {e : Extension d} (h : ¬Refused e) : (graph e.block).Acyclic := by
  have hok : e.dag.verifyAcyclic = .ok () := by
    unfold Refused at h
    cases hv : e.dag.verifyAcyclic with
    | error e => simp [hv, Except.toOption] at h
    | ok u => rfl
  refine (TaskDag.acyclic_of_ok hok).congr fun i hi => ?_
  unfold Extension.block
  grind

lemma acyclic_acts (hd : Acyclic d) (h : Acts d req d' (action d req)) : Acyclic d' := by
  cases ha : action d req with rw [ha] at h
  | nothing => exact h ▸ hd
  | create slot =>
    obtain ⟨hfree, rfl⟩ := h
    unfold handleWorkloadCreate
    rw [hfree]
    dsimp only
    split
    · exact hd
    · exact hd.setBlock TaskDag.acyclic_zero
  | submit s => exact (hd.setBlock (acyclic_submission ha)).schedule h
  | cancel slot => exact h.2 ▸ hd.cancel
  | extend e =>
    obtain ⟨-, ⟨-, rfl⟩ | ⟨hr, h⟩⟩ := h
    · -- the entry behind the last task is overwritten, but is no task
      refine hd.setBlock ((hd e.slot).congr fun i hi => ?_)
      have hne : i ≠ e.index := fun he => by simp [he, Extension.index] at hi
      simp [Extension.undone, Extension.tasks, hne]
    · exact (hd.setBlock (acyclic_extension hr)).schedule h
  | finish slot task exitCode =>
    have hd' : Acyclic (released d) := hd
    have hc := hd.complete slot task
    have hr : (graph (retriedBlock (d.workloads slot) task)).Acyclic := hd.update slot task rfl
    have hf : (graph (failedBlock (d.workloads slot) task)).Acyclic := hd.update slot task rfl
    rcases handleTask_cases h.2 with ⟨-, -, trace, rfl, -⟩ | ⟨-, h⟩ | ⟨-, -, h⟩ | ⟨-, -, rfl⟩
    · exact hd'.setBlock hc
    · exact (hd'.setBlock hc).schedule h
    · exact (hd'.setBlock hr).schedule h
    · exact (hd'.setBlock hf).cancel

/-! ### Runs on given requests -/

/-- The daemon of node 1 at its start. -/
def fresh : WorkloadDaemon where
  nodeId := 1
  allocator := ⟨1, 100, 164, 64⟩
  ceilingSlot := 164
  workloads := fun _ => emptyBlock
  activeRunningTasks := 0
  trace := []

lemma boot_fresh : Boot fresh := ⟨1#64, rfl⟩

/-- The state after some requests. -/
def run (d : WorkloadDaemon) (reqs : List IpcMessage) : Except Panic WorkloadDaemon :=
  reqs.foldlM (fun d req => Prod.snd <$> dispatch d req) d

/-- The state after some requests that all meet a condition. -/
def runIf (P : WorkloadDaemon → IpcMessage → Prop) [∀ d, DecidablePred (P d)] (d : WorkloadDaemon)
    (reqs : List IpcMessage) : Option WorkloadDaemon :=
  reqs.foldlM (fun d req => if P d req then Prod.snd <$> (dispatch d req).toOption else none) d

lemma reach_runIf {P : WorkloadDaemon → IpcMessage → Prop} [∀ d, DecidablePred (P d)]
    {init : WorkloadDaemon → Prop} {reqs : List IpcMessage} (hd : Reach init (StepIf P) d)
    (h : runIf P d reqs = some d') : Reach init (StepIf P) d' := by
  induction reqs generalizing d with
  | nil =>
    cases h
    exact hd
  | cons req rest ih =>
    obtain ⟨d1, hstep, hrest⟩ := Option.bind_eq_some_iff.mp h
    dsimp only at hstep
    split at hstep
    next hP =>
      obtain ⟨⟨resp, e⟩, hok, rfl⟩ := Option.map_eq_some_iff.mp hstep
      refine ih (hd.next ⟨req, resp, hP, ?_⟩) hrest
      cases hdis : dispatch d req with
      | error e => rw [hdis] at hok; cases hok
      | ok r => rw [hdis] at hok; cases hok; rfl
    · cases hstep

lemma exists_runIf {P : WorkloadDaemon → IpcMessage → Prop} [∀ d, DecidablePred (P d)]
    {Q : WorkloadDaemon → Prop} {reqs : List IpcMessage} (hQ : ∀ {d}, Reach Boot (StepIf P) d → Q d)
    (h : (runIf P fresh reqs).isSome) : ∃ d, runIf P fresh reqs = some d ∧ Q d := by
  obtain ⟨d, hd⟩ := Option.isSome_iff_exists.mp h
  exact ⟨d, hd, hQ (reach_runIf (.start boot_fresh) hd)⟩

def createRequest (recovery : Lib.Layout.Byte) : IpcMessage :=
  reply opWorkloadCreate [recovery]

/-- A request `tag` that names the first workload that node 1 creates. -/
def requestFirst (tag : BitVec 64) (bytes : List Lib.Layout.Byte) : IpcMessage :=
  reply tag (idBytes ⟨1, 101⟩ ++ bytes)

/-! ### Every run -/

/-- **Every run is orderly**: no workload is failed or reclaimed, and one that is over has no task left
that runs or could. -/
theorem orderly_of_run (h : Reach Boot (StepIf fun _ _ => True) d) : Orderly d := by
  refine h.invariant (fun _ => orderly_boot) fun _ _ hd hstep => ?_
  obtain ⟨_, _, -, hstep⟩ := hstep
  exact orderly_acts hd (dispatch_acts hstep)

/-- A workload whose second task waits for the first, and which is cancelled. -/
def cancelledPair : List IpcMessage :=
  [createRequest 0, requestFirst opWorkloadSubmitDag [2, 0, 0, 0, 0, 1, 0, 0, 0],
    requestFirst opWorkloadCancel []]

theorem orderly_of_run_cancelled :
    ∃ d, runIf (fun _ _ => True) fresh cancelledPair = some d ∧ Orderly d :=
  exists_runIf orderly_of_run (by decide +kernel)

/-- **No workload is ever cyclic**, whatever is requested. -/
theorem acyclic_of_run (h : Reach Boot (StepIf fun _ _ => True) d) : Acyclic d := by
  refine h.invariant (fun d hd slot => ?_) fun _ _ hd hstep => ?_
  · rw [(boot_eq hd).1 slot]
    exact TaskDag.acyclic_zero
  · obtain ⟨_, _, -, hstep⟩ := hstep
    exact acyclic_acts hd (dispatch_acts hstep)

theorem acyclic_of_run_cancelled :
    ∃ d, runIf (fun _ _ => True) fresh cancelledPair = some d ∧ Acyclic d :=
  exists_runIf acyclic_of_run (by decide +kernel)

end ProjectZero.Workloadd.Effects
