import ProjectZero.Ipc.Shm

/-! # Process exit

`process_exit` as far as it touches the tables: the threads of the process are cancelled, their calls
in flight are released, its shared-memory mappings are taken out of its address space, and its handles
are closed. Interrupts stay off from the first lock to the last, so this is one atomic step. Mutexes,
sleepers, sockets and the links between processes are not part of the tables. -/

namespace ProjectZero.Task.Process

open Tables Cap.Ops Ipc.Object Ipc.Shm

/-! ### Threads -/

variable (k : Kernel) (pid : ℕ)

/-- The endpoint without the waiters of the process. -/
def cancelWaiters (e : ChannelEndpointData) : ChannelEndpointData :=
  { e with
    waitersRx := e.waitersRx.filter fun t => (k.thread t).processId ≠ pid
    waitersTx := e.waitersTx.filter fun t => (k.thread t).processId ≠ pid }

def cancelChannelWaitersForProcessLocked : Kernel :=
  { k with channel := fun c => { k.channel c with
      endpoint0 := cancelWaiters k pid (k.channel c).endpoint0
      endpoint1 := cancelWaiters k pid (k.channel c).endpoint1 } }

/-- A thread that runs, can run or waits becomes a zombie. -/
def cancelThread (th : KernelThread) : KernelThread :=
  match th.state with
  | .ready | .blocked | .running => { th with state := .zombie }
  | _ => th

/-- All threads of the process but the calling one are cancelled. -/
def cancelProcessThreadsLocked (caller : TSlot) : Kernel :=
  let k := cancelChannelWaitersForProcessLocked k pid
  { k with thread := fun t =>
      if (k.thread t).occupied && (k.thread t).processId = pid && t ≠ caller then
        cancelThread (k.thread t)
      else k.thread t }

/-- The pin of a cancelled thread is released. -/
def releaseCancelled (k : Kernel) (t : TSlot) : Except Halt Kernel :=
  if (k.threadIpc t).occupied ∧ (k.thread t).processId = pid then
    let i := (k.threadIpc t).objectIndex
    let k := dropPin k t i
    if (k.object i).objType = .channel then checkAndReclaimChannelLocked k i else .ok k
  else .ok k

/-! ### Handles and mappings -/

/-- A mapping of the process is removed. -/
def sweepMapping (root : PhysFrame) (k : Kernel) (j : Fin 64) : Except Halt Kernel :=
  if (k.mapping j).occupied ∧ (k.mapping j).processId = pid then dropMapping k root j else .ok k

/-- A handle of the process is closed. -/
def sweepHandle (p : PSlot) (k : Kernel) (h : HSlot) : Except Halt Kernel :=
  if (k.entry (p, h)).occupied then do
    let (_, k) ← closeAndReclaimCapabilityLocked k (p, h)
    .ok k
  else .ok k

/-- The assertions at the end of the teardown. -/
def tornDown (p : PSlot) : Bool :=
  k.count p = 0 && (List.finRange 32).all fun h =>
    !(k.entry (p, h)).occupied && (k.node (p, h)).capabilityId = 0 &&
      (k.node (p, h)).firstChild.isNone

def processExitCapabilityCleanupLocked (p : PSlot) (pid : ℕ) (root : PhysFrame) :
    Except Halt Kernel := do
  let k ← (List.finRange 64).foldlM (sweepMapping pid root) k
  let k ← (List.finRange 32).foldlM (sweepHandle p) k
  if tornDown k p then .ok k else .error .panic

/-! ### Exit -/

/-- The process of the thread, which cannot be the kernel's own. -/
def findProcess : Option PSlot :=
  (List.finRange 16).find? fun p => p ≠ 0 && (k.process p).occupied && (k.process p).id = pid

def setProcessState (p : PSlot) (st : ProcessState) : Kernel :=
  { k with process := update k.process p { k.process p with state := st } }

/-- `process_exit` by the thread `t`. -/
def processExit (t : TSlot) : Except Halt Kernel :=
  let pid := (k.thread t).processId
  if pid = 0 then .error .panic
  else
    match findProcess k pid with
    | none => .error .panic
    | some p =>
      if (k.process p).state ≠ .active then .error .panic
      else do
        let k := setProcessState (cancelProcessThreadsLocked k pid t) p .zombie
        let k ← (List.finRange 16).foldlM (releaseCancelled pid) k
        let k ← processExitCapabilityCleanupLocked k p pid (k.process p).addressSpace
        .ok (setThreadState k t .zombie)

end ProjectZero.Task.Process
