import ProjectZero.Task.Process

/-! # Runs of the kernel

The kernel's tables together with the calls that sleep in them, and what can happen: a running thread
makes a call, or goes on with one after its wake-up; the scheduler starts and stops threads; the
kernel moves, delegates, revokes or closes a capability. Every step is one stretch under
`KERNEL_OBJECT_TABLE_LOCK`, and the steps of all threads interleave freely. -/

namespace ProjectZero.Ipc.Steps

open Lib.Run Tables Mm.Vmm Cap.Ops Object Ipc.Channel Ipc.Shm Task.Process

/-- The tables, and the send or receive each thread is in the middle of. -/
structure System where
  kernel : Kernel
  pending : TSlot → Option Pending

/-- A call of a thread. -/
inductive Syscall
  | channelCreate
  | channelSend (h : Handle) (msg : IpcMessage) (blocking : Bool)
  | channelReceive (h : Handle) (blocking : Bool)
  | channelClose (h : Handle)
  | shmCreate (pageCount : ℕ)
  | shmMap (h : Handle) (vaddr : VirtualAddress) (writable : Bool)
  | shmUnmap (h : Handle) (vaddr : VirtualAddress)
  | shmClose (h : Handle)
  | derive (h : Handle) (rights : Rights)
  | duplicate (h : Handle)
  | exit

/-- What can happen. -/
inductive Op
  | call (t : TSlot) (c : Syscall)
  | resume (t : TSlot)
  | schedule (t : TSlot)
  | preempt (t : TSlot)
  | delegate (src : Slot) (dst : PSlot) (rights : Rights)
  | move (src : Slot) (dst : PSlot)
  | revoke (s : Slot)
  | close (s : Slot)
  | closeAndReclaim (s : Slot)

/-- A send or receive that came through: the thread, the call, and the message of a receive. -/
structure Delivery where
  thread : TSlot
  call : Pending
  msg : Option IpcMessage

/-- A thread calls when it runs and has no call to go on with. -/
def Op.enabled (σ : System) : Op → Bool
  | .call t _ => (σ.kernel.thread t).state = .running && (σ.pending t).isNone
  | .resume t => (σ.kernel.thread t).state = .running
  | .schedule t => (σ.kernel.thread t).state = .ready
  | .preempt t => (σ.kernel.thread t).state = .running
  | _ => true

/-- The tables after a call, when only they change. -/
def System.only {α : Type} (σ : System) (x : Except Halt (α × Kernel)) :
    Except Halt (Option Delivery × System) := do
  let (_, k) ← x
  .ok (none, { σ with kernel := k })

/-- The system after a stretch of a send or receive. -/
def System.settle (σ : System) (t : TSlot) (x : Except Halt (Progress × Kernel)) :
    Except Halt (Option Delivery × System) := do
  let (r, k) ← x
  match r with
  | .failed _ => .ok (none, { kernel := k, pending := update σ.pending t none })
  | .completed c msg =>
    .ok (some { thread := t, call := c, msg := msg },
      { kernel := k, pending := update σ.pending t none })
  | .asleep c => .ok (none, { kernel := k, pending := update σ.pending t (some c) })

/-- A call of a capability operation by the thread `t`, in the slot of its process. -/
def asProcess {α : Type} (k : Kernel) (t : TSlot) (f : PSlot → Outcome α) : Outcome α :=
  match resolveCurrentProcessSlot k (k.thread t).processId with
  | .error e => fail e k
  | .ok p => f p

def Syscall.exec (σ : System) (t : TSlot) : Syscall → Except Halt (Option Delivery × System)
  | .channelCreate => σ.only (Channel.channelCreate σ.kernel t)
  | .channelSend h msg blocking => σ.settle t (Channel.channelSend σ.kernel t h msg blocking)
  | .channelReceive h blocking => σ.settle t (Channel.channelReceive σ.kernel t h blocking)
  | .channelClose h => σ.only (Channel.channelClose σ.kernel t h)
  | .shmCreate pageCount => σ.only (Shm.shmCreate σ.kernel t pageCount)
  | .shmMap h vaddr writable => σ.only (Shm.shmMap σ.kernel t h vaddr writable)
  | .shmUnmap h vaddr => σ.only (Shm.shmUnmap σ.kernel t h vaddr)
  | .shmClose h => σ.only (Shm.shmClose σ.kernel t h)
  | .derive h rights =>
    σ.only (asProcess σ.kernel t fun p => capabilityDerive σ.kernel p h rights)
  | .duplicate h => σ.only (asProcess σ.kernel t fun p => capabilityDuplicate σ.kernel p h)
  | .exit => σ.only ((processExit σ.kernel t).map fun k => ((), k))

def Op.exec (σ : System) : Op → Except Halt (Option Delivery × System)
  | .call t c => c.exec σ t
  | .resume t =>
    match σ.pending t with
    | none => .ok (none, σ)
    | some c => σ.settle t (Channel.resume σ.kernel t c)
  | .schedule t => .ok (none, { σ with kernel := setThreadState σ.kernel t .running })
  | .preempt t => .ok (none, { σ with kernel := setThreadState σ.kernel t .ready })
  | .delegate src dst rights => σ.only (transferDelegateLocked σ.kernel src dst rights)
  | .move src dst => σ.only (transferMoveLocked σ.kernel src dst)
  | .revoke s => σ.only (capabilityRevokeDescendantsLocked σ.kernel s)
  | .close s => σ.only (capabilityCloseLocked σ.kernel s)
  | .closeAndReclaim s => σ.only (closeAndReclaimCapabilityLocked σ.kernel s)

section

variable {σ : System} {k : Kernel} {P : Kernel → Prop} {α : Type} {t : TSlot}

lemma ensures_only {x : Except Halt (α × Kernel)} (hx : Leaves P x) :
    Ensures (fun r => P r.2.kernel) (σ.only x) := Holds.bind hx fun _ h => h

lemma ensures_settle {x : Except Halt (Progress × Kernel)} (hx : Leaves P x) :
    Ensures (fun r => P r.2.kernel) (σ.settle t x) := by
  refine .bind hx fun ⟨r, k'⟩ h => ?_
  cases r <;> exact h

lemma ensures_asProcess {f : PSlot → Outcome α} (hk : P k) (hf : ∀ p, Leaves P (f p)) :
    Leaves P (asProcess k t f) := by
  unfold asProcess
  split
  · exact hk
  · exact hf _

end

/-- A step of the system, with the send or receive it completes. -/
structure Step (σ : System) (op : Op) (d : Option Delivery) (σ' : System) : Prop where
  enabled : op.enabled σ
  exec : op.exec σ = .ok (d, σ')

/-- A step that meets the condition `C`. -/
def Next (C : System → Op → Prop) (σ σ' : System) : Prop := ∃ op d, C σ op ∧ Step σ op d σ'

/-- The system at boot: empty tables and no call in flight, with any memory, threads and processes. A
thread that can run has a descriptor. -/
structure Boot (σ : System) : Prop where
  kernel : σ.kernel = Kernel.boot σ.kernel.pmm σ.kernel.geometry σ.kernel.pageTable σ.kernel.thread
    σ.kernel.process
  pending : ∀ t, σ.pending t = none
  thread : ∀ t, (σ.kernel.thread t).state = .ready ∨ (σ.kernel.thread t).state = .blocked ∨
    (σ.kernel.thread t).state = .running → (σ.kernel.thread t).occupied

/-! ### Runs that can be executed -/

/-- Operations executed one after the other, as long as each is enabled and meets the condition. -/
def runOps (C : System → Op → Prop) [∀ σ op, Decidable (C σ op)] (σ : System) (ops : List Op) :
    Except Halt System :=
  ops.foldlM (fun σ op =>
    if op.enabled σ ∧ C σ op then do
      let (_, σ) ← op.exec σ
      .ok σ
    else .error .panic) σ

lemma reach_runOps {I : System → Prop} {C : System → Op → Prop} [∀ σ op, Decidable (C σ op)]
    {σ σ' : System} {ops : List Op} (hb : I σ) (h : runOps C σ ops = .ok σ') :
    Reach I (Next C) σ' := by
  refine .foldlM (fun σ op σ' hop => ?_) (.start hb) h
  split at hop
  next hc =>
    obtain ⟨r, he, hr⟩ := bind_eq_ok hop
    cases hr
    exact ⟨op, r.1, hc.2, hc.1, he⟩
  · cases hop

lemma exists_reach {I Q : System → Prop} {C : System → Op → Prop} [∀ σ op, Decidable (C σ op)]
    [DecidablePred Q] {σ : System} (hb : I σ) (ops : List Op)
    (h : (runOps C σ ops).toOption.any (fun τ => decide (Q τ))) :
    ∃ τ, Reach I (Next C) τ ∧ Q τ := by
  obtain ⟨τ, hτ, hq⟩ := exists_ok h
  exact ⟨τ, reach_runOps hb hτ, hq⟩

/-- A machine at boot: 32 frames of which the kernel has four, and two user processes with a thread
each, of which the first runs. -/
def twoProcesses : System :=
  { kernel := Kernel.boot
      { initialized := true, trackedFrames := 32, freeFrames := 28, allocatedFrames := 0,
        state := fun n => if n < 4 then .reserved else .free }
      { physicalBits := 36, virtualBits := 48, nxEnabled := true,
        physicalBits_range := range36, virtualBits_range := range48 }
      (fun _ _ => 0#64)
      (fun t =>
        if t = 1 then { occupied := true, processId := 1, priority := 1, state := .running }
        else if t = 2 then { occupied := true, processId := 2, priority := 1, state := .ready }
        else { occupied := false, processId := 0, priority := 0, state := .free })
      (fun p =>
        if p ≤ 2 then
          { occupied := true, id := p, state := .active, addressSpace := (p + 1) * 4096 }
        else { occupied := false, id := 0, state := .free, addressSpace := 0 })
    pending := fun _ => none }

lemma boot_twoProcesses : Boot twoProcesses := by
  refine ⟨rfl, fun _ => rfl, ?_⟩
  decide

end ProjectZero.Ipc.Steps
