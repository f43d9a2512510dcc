import ProjectZero.Libzero.Identity
import ProjectZero.Libzero.Message
import ProjectZero.Libzero.Workload

/-! # The workload daemon

`WorkloadDaemon` with its six requests: create, submit, query, cancel, extend and the notification
that a task's process has ended. Each handler first reads and checks its request and then acts. What
the daemon does to the outside, launching a task's process and closing a client's channel, is kept in
`trace`, the last effect first. -/

namespace ProjectZero.Workloadd.Daemon

open Lib.Layout Libzero.Resource Libzero.Identity Libzero.Message Libzero.Workload

def opWorkloadCreate : BitVec 64 := 0x4C01#64
def opWorkloadCreateResp : BitVec 64 := 0x4C02#64
def opWorkloadSubmitDag : BitVec 64 := 0x4C03#64
def opWorkloadSubmitDagResp : BitVec 64 := 0x4C04#64
def opWorkloadQuery : BitVec 64 := 0x4C05#64
def opWorkloadQueryResp : BitVec 64 := 0x4C06#64
def opWorkloadCancel : BitVec 64 := 0x4C07#64
def opWorkloadCancelResp : BitVec 64 := 0x4C08#64
def opWorkloadExtendDag : BitVec 64 := 0x4C09#64
def opWorkloadExtendDagResp : BitVec 64 := 0x4C0A#64
def opProcessTerminateResp : BitVec 64 := 0x4A08#64
def opProcessExitNotify : BitVec 64 := 0x4A09#64

/-- An overflow, or an access beyond the payload. The daemon exits. -/
inductive Panic
  | overflow | range
  deriving DecidableEq

inductive Effect
  | launch (slot : Fin 8) (task : Fin 16)
  | close (handle : BitVec 32)
  deriving DecidableEq

/-- `WorkloadDaemon`. The slot in which the allocator keeps its ceiling is part of it. -/
structure WorkloadDaemon where
  nodeId : ℕ
  allocator : DistributedIdAllocator
  ceilingSlot : ℕ
  workloads : Fin 8 → WorkloadControlBlock
  activeRunningTasks : ℕ
  trace : List Effect

def nil : DistributedId := ⟨0, 0⟩

/-- `TaskDescriptor` of `new`. -/
def emptyTask : TaskDescriptor where
  taskId := 0
  state := .unallocated
  retryCount := 0
  maxRetries := defaultMaxTaskRetries
  dependencies := 0
  assignedPid := 0
  leaseId := nil

def emptyBlock : WorkloadControlBlock where
  workloadId := nil
  ownerPid := 0
  generation := 1
  clientChannelHandle := 0
  state := .creating
  recoveryClass := .class1Pure
  taskCount := 0
  activeLeaseCount := 0
  tasks := fun _ => emptyTask
  taskCount_le := by decide

/-- `new`, on a memory that holds the ceiling 100. -/
def WorkloadDaemon.new (nodeId : BitVec 64) : Except ZeroError WorkloadDaemon :=
  match recoverOrInit nodeId.toNat 64 none none 100 with
  | (.error e, _) => .error e
  | (.ok allocator, ceilingSlot) => .ok {
      nodeId := nodeId.toNat
      allocator := allocator
      ceilingSlot := ceilingSlot
      workloads := fun _ => emptyBlock
      activeRunningTasks := 0
      trace := [] }

/-- One control block is replaced. -/
def WorkloadDaemon.setBlock (d : WorkloadDaemon) (slot : Fin 8) (wcb : WorkloadControlBlock) :
    WorkloadDaemon :=
  { d with workloads := update d.workloads slot wcb }

def findFreeWorkloadSlot (d : WorkloadDaemon) : Option (Fin 8) :=
  (List.finRange 8).find? fun i =>
    (d.workloads i).state = .creating ∨ (d.workloads i).state = .reclaimed

def findWorkloadSlot (d : WorkloadDaemon) (id : DistributedId) : Option (Fin 8) :=
  (List.finRange 8).find? fun i =>
    (d.workloads i).workloadId = id ∧ (d.workloads i).state ≠ .reclaimed

/-! ### Scheduling -/

def launchTaskProcess (d : WorkloadDaemon) (slot : Fin 8) (task : Fin 16) :
    Except Panic WorkloadDaemon :=
  let wcb := d.workloads slot
  if wcb.activeLeaseCount + 1 = 2 ^ 8 then .error .overflow
  else .ok { d.setBlock slot { wcb with
      state := if wcb.state = .ready then .running else wcb.state
      activeLeaseCount := wcb.activeLeaseCount + 1
      tasks := update wcb.tasks task { wcb.tasks task with
        leaseId := ⟨d.nodeId, 100 + task.val⟩
        assignedPid := 2000 + slot.val * 16 + task.val
        state := .running } } with
    activeRunningTasks := d.activeRunningTasks + 1
    trace := .launch slot task :: d.trace }

/-- The loop of `schedule_workload_tasks`. -/
def scheduleFrom (slot : Fin 8) : List (Fin 16) → WorkloadDaemon → Except Panic WorkloadDaemon
  | [], d => .ok d
  | task :: rest, d =>
    if d.activeRunningTasks ≥ maxConcurrentRunningTasks then .ok d
    else if ((d.workloads slot).tasks task).state = .ready then do
      scheduleFrom slot rest (← launchTaskProcess d slot task)
    else scheduleFrom slot rest d

def scheduleWorkloadTasks (d : WorkloadDaemon) (slot : Fin 8) : Except Panic WorkloadDaemon :=
  scheduleFrom slot (firstTasks (d.workloads slot).taskCount) d

/-! ### Cancelling -/

def Stoppable (task : TaskDescriptor) : Prop := task.state = .running ∨ task.state = .ready
  deriving Decidable

variable (wcb : WorkloadControlBlock)

/-- The control block after the four phases of a cancellation. -/
def cancelledBlock : WorkloadControlBlock :=
  let state := if wcb.state ≠ .completed ∧ wcb.state ≠ .reclaimed then .cancelling else wcb.state
  { wcb with
    state := if state = .cancelling then .cancelled else state
    activeLeaseCount := 0
    tasks := fun i => if i.val < wcb.taskCount ∧ Stoppable (wcb.tasks i) then
      { wcb.tasks i with state := .cancelled } else wcb.tasks i }

/-- `execute_4phase_cancellation`. The counter is taken down once for every task that is ended,
never below zero. -/
def execute4phaseCancellation (d : WorkloadDaemon) (slot : Fin 8) : WorkloadDaemon :=
  let wcb := d.workloads slot
  { d.setBlock slot (cancelledBlock wcb) with
    activeRunningTasks := d.activeRunningTasks -
      ((firstTasks wcb.taskCount).filter fun i => Stoppable (wcb.tasks i)).length }

/-! ### The end of a task -/

/-- The loop over the tasks after one has completed. It looks only at which tasks are completed, and
completes none. -/
def promote (count : ℕ) (tasks : Fin 16 → TaskDescriptor) (i : Fin 16) : TaskDescriptor :=
  if i.val < count ∧ (tasks i).state = .blocked ∧ ∀ j ∈ firstTasks count,
      dependsOn (tasks i).dependencies j → (tasks j).state = .completed then
    { tasks i with state := .ready }
  else tasks i

/-- The control block after the completion of a task. -/
def completedBlock (task : Fin 16) : WorkloadControlBlock :=
  { wcb with
    activeLeaseCount := wcb.activeLeaseCount - 1
    tasks := promote wcb.taskCount
      (update wcb.tasks task { wcb.tasks task with state := .completed }) }

/-- The branch of `handle_task_completion_or_failure` for the exit code zero. -/
def completeTask (d : WorkloadDaemon) (slot : Fin 8) (task : Fin 16) :
    Except Panic WorkloadDaemon :=
  let wcb := completedBlock (d.workloads slot) task
  if ∀ i ∈ firstTasks wcb.taskCount, (wcb.tasks i).state = .completed then
    .ok { d.setBlock slot { wcb with state := .completed } with
      trace := if wcb.clientChannelHandle ≠ 0#32 then .close wcb.clientChannelHandle :: d.trace
        else d.trace }
  else scheduleWorkloadTasks (d.setBlock slot wcb) slot

/-- The control block of a task that is tried again. -/
def retriedBlock (task : Fin 16) : WorkloadControlBlock :=
  { wcb with
    state := .recovering
    tasks := update wcb.tasks task { wcb.tasks task with
      retryCount := (wcb.tasks task).retryCount + 1
      state := .ready } }

/-- The control block after a failure that ends the workload. -/
def failedBlock (task : Fin 16) : WorkloadControlBlock :=
  { wcb with
    state := .failed
    tasks := update wcb.tasks task { wcb.tasks task with state := .failed } }

/-- The branch for the other exit codes. The first two recovery classes are treated alike. -/
def failTask (d : WorkloadDaemon) (slot : Fin 8) (task : Fin 16) : Except Panic WorkloadDaemon :=
  let wcb := d.workloads slot
  let fail := .ok (execute4phaseCancellation (d.setBlock slot (failedBlock wcb task)) slot)
  match wcb.recoveryClass with
  | .class1Pure | .class2Stateful =>
    if (wcb.tasks task).retryCount < (wcb.tasks task).maxRetries then
      scheduleWorkloadTasks (d.setBlock slot (retriedBlock wcb task)) slot
    else fail
  | .class3Irreversible => fail

def handleTaskCompletionOrFailure (d : WorkloadDaemon) (slot : Fin 8) (task : Fin 16)
    (exitCode : BitVec 32) : Except Panic WorkloadDaemon :=
  let d := { d with activeRunningTasks := d.activeRunningTasks - 1 }
  if exitCode = 0 then completeTask d slot task else failTask d slot task

/-! ### Requests -/

def answer (tag : BitVec 64) (e : ZeroError) : IpcMessage := reply tag (status e)

def recoveryClassOf (req : IpcMessage) : RecoveryClass :=
  if req.payloadLen.toNat ≥ 1 then
    match (req.field 0 u8).toNat with
    | 1 => .class2Stateful
    | 2 => .class3Irreversible
    | _ => .class1Pure
  else .class1Pure

def handleWorkloadCreate (d : WorkloadDaemon) (req : IpcMessage) : IpcMessage × WorkloadDaemon :=
  match findFreeWorkloadSlot d with
  | none => (answer opWorkloadCreateResp .objectTableFull, d)
  | some slot =>
    match allocateId d.allocator none d.ceilingSlot with
    | (.error e, allocator, ceilingSlot) =>
      (answer opWorkloadCreateResp e,
        { d with allocator := allocator, ceilingSlot := ceilingSlot })
    | (.ok workloadId, allocator, ceilingSlot) =>
      (reply opWorkloadCreateResp (status .success ++ idBytes workloadId),
        { d.setBlock slot { d.workloads slot with
            workloadId := workloadId
            ownerPid := req.tag
            generation := 1
            state := .creating
            recoveryClass := recoveryClassOf req
            taskCount := 0
            clientChannelHandle := if req.handlesCount.toNat ≥ 1 then req.handles 0 else 0
            taskCount_le := Nat.zero_le 16 } with
          allocator := allocator
          ceilingSlot := ceilingSlot })

/-- The dependencies of task `i` in a submission, where the payload has them. -/
def depsOf (req : IpcMessage) (i : ℕ) : BitVec 16 :=
  if h : 17 + i * 4 + 2 ≤ req.payloadLen.toNat ∧ 17 + i * 4 + 2 ≤ 48 then
    req.field (17 + i * 4) u16 h.2
  else 0

/-- A task as it is admitted. -/
def admittedTask (i : ℕ) (deps : BitVec 16) : TaskDescriptor where
  taskId := i
  state := .blocked
  retryCount := 0
  maxRetries := defaultMaxTaskRetries
  dependencies := deps
  assignedPid := 0
  leaseId := nil

/-- A submission that was read and checked. -/
structure Submission where
  slot : Fin 8
  taskCount : ℕ
  tasks : Fin 16 → TaskDescriptor
  taskCount_le : taskCount ≤ 16
  blocked : ∀ i : Fin 16, i.val < taskCount → (tasks i).state = .blocked

/-- The first part of `handle_workload_submit_dag`. -/
def readSubmission (d : WorkloadDaemon) (req : IpcMessage) :
    Except Panic (Except ZeroError Submission) :=
  if req.payloadLen.toNat < 17 then .ok (.error .invalidRequest)
  else
    let taskCount := (req.field 16 u8).toNat
    match findWorkloadSlot d (req.idAt 0) with
    | none => .ok (.error .notFound)
    | some slot =>
      if h : taskCount = 0 ∨ taskCount > 16 then .ok (.error .invalidRequest)
      -- a length beyond the payload is believed, and the slice is out of range
      else if ∃ i < taskCount, 17 + i * 4 + 2 ≤ req.payloadLen.toNat ∧ 48 < 17 + i * 4 + 2 then
        .error .range
      else
        let tasks := fun i : Fin 16 =>
          if i.val < taskCount then admittedTask i.val (depsOf req i.val) else emptyTask
        match (TaskDag.fromTasks tasks taskCount).verifyAcyclic with
        | .error e => .ok (.error e)
        | .ok () => .ok (.ok ⟨slot, taskCount, tasks, by omega,
            fun i hi => by simp [tasks, hi, admittedTask]⟩)

/-- The tasks that depend on no task of the workload are ready. -/
def Submission.admitted (s : Submission) (i : Fin 16) : TaskDescriptor :=
  if (TaskDag.fromTasks s.tasks s.taskCount).inDegrees i = 0 then
    { s.tasks i with state := .ready }
  else s.tasks i

/-- The control block with the tasks of a submission. Those beyond the new count stay. -/
def Submission.block (s : Submission) (wcb : WorkloadControlBlock) : WorkloadControlBlock :=
  { wcb with
    taskCount := s.taskCount
    tasks := fun i => if i.val < s.taskCount then s.admitted i else wcb.tasks i
    state := .ready
    taskCount_le := s.taskCount_le }

def handleWorkloadSubmitDag (d : WorkloadDaemon) (req : IpcMessage) :
    Except Panic (IpcMessage × WorkloadDaemon) := do
  match ← readSubmission d req with
  | .error e => .ok (answer opWorkloadSubmitDagResp e, d)
  | .ok s =>
    let d' ← scheduleWorkloadTasks (d.setBlock s.slot (s.block (d.workloads s.slot))) s.slot
    .ok (answer opWorkloadSubmitDagResp .success, d')

/-- The workload that a request names. -/
def namedSlot (d : WorkloadDaemon) (req : IpcMessage) (least : ℕ) : Except ZeroError (Fin 8) :=
  if req.payloadLen.toNat < least then .error .invalidRequest
  else
    match findWorkloadSlot d (req.idAt 0) with
    | none => .error .notFound
    | some slot => .ok slot

def handleWorkloadQuery (d : WorkloadDaemon) (req : IpcMessage) : IpcMessage :=
  match namedSlot d req 16 with
  | .error e => answer opWorkloadQueryResp e
  | .ok slot =>
    let wcb := d.workloads slot
    reply opWorkloadQueryResp (status .success ++ [BitVec.ofNat 8 wcb.state.code,
      BitVec.ofNat 8 wcb.taskCount, BitVec.ofNat 8 wcb.generation])

def handleWorkloadCancel (d : WorkloadDaemon) (req : IpcMessage) : IpcMessage × WorkloadDaemon :=
  match namedSlot d req 16 with
  | .error e => (answer opWorkloadCancelResp e, d)
  | .ok slot => (answer opWorkloadCancelResp .success, execute4phaseCancellation d slot)

/-- An extension that was read and checked: the slot and the new task's dependencies. -/
structure Extension (d : WorkloadDaemon) where
  slot : Fin 8
  deps : BitVec 16
  room : (d.workloads slot).taskCount < 16

/-- The first part of `handle_workload_extend_dag`. -/
def readExtension (d : WorkloadDaemon) (req : IpcMessage) : Except ZeroError (Extension d) :=
  match namedSlot d req 17 with
  | .error e => .error e
  | .ok slot =>
    let wcb := d.workloads slot
    let deps := req.field 16 u16
    if wcb.state ≠ .ready ∧ wcb.state ≠ .running then .error .invalidRequest
    else if h : wcb.taskCount ≥ 16 then .error .unsupportedResourceShape
    else if deps &&& ~~~((1#16 <<< wcb.taskCount) - 1#16) ≠ 0#16 then .error .invalidRequest
    else .ok ⟨slot, deps, Nat.lt_of_not_le h⟩

variable {d : WorkloadDaemon} (e : Extension d)

def Extension.index : Fin 16 := ⟨(d.workloads e.slot).taskCount, e.room⟩

def Extension.tasks : Fin 16 → TaskDescriptor :=
  update (d.workloads e.slot).tasks e.index (admittedTask e.index.val e.deps)

def Extension.dag : TaskDag :=
  TaskDag.fromTasks e.tasks ((d.workloads e.slot).taskCount + 1)

/-- The control block if the graph has become cyclic: the count is taken back, the rest is not. -/
def Extension.undone : WorkloadControlBlock :=
  { d.workloads e.slot with
    tasks := e.tasks
    generation := (d.workloads e.slot).generation + 1 }

/-- The control block with the new task, which is ready if it depends on nothing. -/
def Extension.block : WorkloadControlBlock :=
  { d.workloads e.slot with
    tasks := if e.dag.inDegrees e.index = 0 then
        update e.tasks e.index { e.tasks e.index with state := .ready }
      else e.tasks
    taskCount := (d.workloads e.slot).taskCount + 1
    generation := (d.workloads e.slot).generation + 1
    taskCount_le := e.room }

def handleWorkloadExtendDag (d : WorkloadDaemon) (req : IpcMessage) :
    Except Panic (IpcMessage × WorkloadDaemon) :=
  match readExtension d req with
  | .error e => .ok (answer opWorkloadExtendDagResp e, d)
  | .ok ext =>
    if (d.workloads ext.slot).generation + 1 = 2 ^ 32 then .error .overflow
    else
      match ext.dag.verifyAcyclic with
      | .error e => .ok (answer opWorkloadExtendDagResp e, d.setBlock ext.slot ext.undone)
      | .ok () => do
        let d' ← scheduleWorkloadTasks (d.setBlock ext.slot ext.block) ext.slot
        .ok (answer opWorkloadExtendDagResp .success, d')

/-- The running task of a process, in the first workload that has one. -/
def taskOfPid (d : WorkloadDaemon) (pid : ℕ) : Option (Fin 8 × Fin 16) :=
  (List.finRange 8).findSome? fun slot =>
    let wcb := d.workloads slot
    if wcb.state = .running ∨ wcb.state = .recovering then
      ((firstTasks wcb.taskCount).find? fun task =>
        (wcb.tasks task).assignedPid = pid ∧ (wcb.tasks task).state = .running).map (slot, ·)
    else none

/-- The task whose end is notified. -/
def notified (d : WorkloadDaemon) (req : IpcMessage) : Except ZeroError (Fin 8 × Fin 16) :=
  if req.payloadLen.toNat < 12 then .error .invalidRequest
  else
    match taskOfPid d (req.field 0 u64).toNat with
    | none => .error .notFound
    | some place => .ok place

def exitCodeOf (req : IpcMessage) : BitVec 32 := req.field 8 u32

def handleProcessExitNotify (d : WorkloadDaemon) (req : IpcMessage) :
    Except Panic (IpcMessage × WorkloadDaemon) :=
  match notified d req with
  | .error e => .ok (answer opProcessTerminateResp e, d)
  | .ok (slot, task) => do
    let d' ← handleTaskCompletionOrFailure d slot task (exitCodeOf req)
    .ok (answer opProcessTerminateResp .success, d')

def dispatch (d : WorkloadDaemon) (req : IpcMessage) : Except Panic (IpcMessage × WorkloadDaemon) :=
  if req.tag = opWorkloadCreate then .ok (handleWorkloadCreate d req)
  else if req.tag = opWorkloadSubmitDag then handleWorkloadSubmitDag d req
  else if req.tag = opWorkloadQuery then .ok (handleWorkloadQuery d req, d)
  else if req.tag = opWorkloadCancel then .ok (handleWorkloadCancel d req)
  else if req.tag = opWorkloadExtendDag then handleWorkloadExtendDag d req
  else if req.tag = opProcessExitNotify then handleProcessExitNotify d req
  else .ok (answer (req.tag ||| 1#64) .invalidRequest, d)

end ProjectZero.Workloadd.Daemon
