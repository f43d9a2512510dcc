import ProjectZero.Ipc.Ranges
import ProjectZero.Task.Reclaim

/-! # Joining a process

`ProcessHandle::join` checks the identifier in the slot, waits for the completion event of the slot,
and takes the scheduler lock again to claim the process. Between these three steps every other
thread may run: the process may exit, the reaper may free its slot, and `create_process` may give
the slot to another process. After the wait the identifier is not checked again. -/

namespace ProjectZero.Task.Join

open Lib.Run Tables Mm.Vmm Process Descriptors Reclaim

/-! ### The processes and the calls of `join` in progress -/

/-- How far a call of `join` has come. -/
inductive JoinPhase
  /-- The identifier was the right one. -/
  | checked
  /-- The thread is in the wait queue of the completion event. -/
  | waiting
  /-- The event has let the thread go, and it has not run since. -/
  | woken
  deriving DecidableEq

/-- A call of `join` by a thread of the process `caller`. -/
structure JoinCall where
  handle : ProcessHandle
  caller : ℕ
  phase : JoinPhase
  deriving DecidableEq

/-- The machine with `ZOMBIE_PROCESS_QUEUE` and the calls in progress; `exits` is the record of the
codes with which processes have exited. -/
structure Family where
  machine : Machine
  zombies : List PSlot
  call : TSlot → Option JoinCall
  exits : List (ℕ × ℤ)

variable {σ σ' : Family} {p q : PSlot}

variable (σ)

def Family.process : PSlot → ProcessSlot := σ.machine.process

def Family.info : PSlot → ProcessInfo := σ.machine.processInfo

variable (p)

def Family.setInfo (i : ProcessInfo) : Family :=
  { σ with machine :=
      { σ.machine with processInfo := update σ.machine.processInfo p i } }

def Family.setState (st : ProcessState) : Family :=
  { σ with machine := { σ.machine with toKernel := setProcessState σ.machine.toKernel p st } }

/-! ### The zombie queue -/

def enqueueZombieProcessLocked : Except Halt Family :=
  if (σ.process p).id = 0 ∨ (σ.process p).state ≠ .zombie ∨ (σ.info p).zombieQueued then
    .error .panic
  else
    .ok { σ.setInfo p { σ.info p with zombieQueued := true } with zombies := σ.zombies ++ [p] }

def removeZombieProcessLocked : Family :=
  if p ∈ σ.zombies then
    { σ.setInfo p { σ.info p with zombieQueued := false } with zombies := σ.zombies.erase p }
  else σ

/-- What `reclaim_process_resources_locked` does to the table of processes. -/
def reclaimSlot : Except Halt Family :=
  if (σ.process p).id = 0 ∨ (σ.info p).threadCount ≠ 0 then .error .panic
  else
    let process := update σ.process p
      { σ.process p with addressSpace := 0, state := .free }
    .ok { σ with machine := { σ.machine with process := vacate process (σ.process p).id } }

variable {σ}

/-! ### Exit -/

/-- The loop over the children from `child` on. A visited child has no sibling any more, so the loop
makes at most one turn more than there are slots. -/
def abandonChildren : ℕ → Option PSlot → Family → Except Halt Family
  | _, none, σ => .ok σ
  | 0, some _, _ => .error .hang
  | n + 1, some child, σ => do
    let next := (σ.info child).nextSibling
    let σ := σ.setInfo child { σ.info child with parentPid := 0, nextSibling := none }
    let σ ← if (σ.process child).state = .zombie ∧ !(σ.info child).zombieQueued then
        enqueueZombieProcessLocked σ child
      else .ok σ
    abandonChildren n next σ

variable (σ)

local instance lawful : LawfulBEq TSlot := inferInstance

/-- The completion event of the slot `p` lets its waiters go. The calls of the threads of the process
`pid` itself end with it; where one of these stood in the wait queue of an event, the threads behind
it are cut off, so a signal may miss some. -/
def signalJoins (pid : ℕ) (missed : List TSlot) :
    TSlot → Option JoinCall := fun t =>
  match σ.call t with
  | none => none
  | some c =>
    if c.caller = pid then none
    else if c.handle.process = p ∧ c.phase = .waiting ∧ t ∉ missed then
      some { c with phase := .woken }
    else some c

/-- The process in the slot `p` becomes a zombie, by `process_exit` or by the exit of its last
thread. -/
def exitProcess (code : ℤ) (missed : List TSlot) :
    Except Halt Family :=
  let pid := (σ.process p).id
  if (σ.process p).occupied = false ∨ pid = 0 ∨ (σ.process p).state ≠ .active then .error .panic
  else do
    let σ := σ.setInfo p { σ.info p with exitCode := code, threadCount := 0 }
    let σ ← abandonChildren 17 (σ.info p).firstChild σ
    let σ := (σ.setState p .zombie).setInfo p
      { σ.info p with firstChild := none, completed := true }
    let σ := { σ with call := signalJoins σ p pid missed, exits := (pid, code) :: σ.exits }
    if ((σ.info p).parentPid = 0 ∨ (σ.info p).isDetached) ∧ !(σ.info p).zombieQueued then
      enqueueZombieProcessLocked σ p
    else .ok σ

variable {p}

/-! ### Join, detach and the reaper -/

/-- `join` up to the wait. -/
def joinCheck (caller : ℕ) (h : ProcessHandle) : Except ProcessError JoinCall :=
  if h.pid = caller then .error .selfJoin
  else if (σ.process h.process).id ≠ h.pid then .error .invalidHandle
  else .ok { handle := h, caller := caller, phase := .checked }

/-- `completion_event.wait()` up to the point where the thread blocks or goes on. -/
def joinWait (c : JoinCall) : JoinCall :=
  { c with phase := if (σ.info c.handle.process).completed then .woken else .waiting }

/-- `join` after the wait. -/
def joinFinish (h : ProcessHandle) :
    Except Halt (Except ProcessError ℤ × Family) :=
  let p := h.process
  if (σ.process p).state = .reclaiming ∨ (σ.process p).state = .free then
    .ok (.error .alreadyReclaimed, σ)
  else if (σ.process p).state ≠ .zombie ∨ (σ.info p).threadCount ≠ 0 then .error .panic
  else do
    let σ := σ.setState p .reclaiming
    let σ := if (σ.info p).zombieQueued then removeZombieProcessLocked σ p else σ
    let code := (σ.info p).exitCode
    let σ ← reclaimSlot σ p
    .ok (.ok code, σ)

def detach (h : ProcessHandle) : Except Halt Family :=
  if (σ.process h.process).id = h.pid then
    let σ := σ.setInfo h.process { σ.info h.process with isDetached := true }
    if (σ.process h.process).state = .zombie ∧ !(σ.info h.process).zombieQueued then
      enqueueZombieProcessLocked σ h.process
    else .ok σ
  else .ok σ

/-- One turn of the loop of `reap_zombie_processes`. -/
def reapZombieProcess : Except Halt Family :=
  match σ.zombies with
  | [] => .ok σ
  | p :: rest =>
    if (σ.info p).zombieQueued = false then .error .panic
    else
      let σ := { σ.setInfo p { σ.info p with zombieQueued := false } with zombies := rest }
      if (σ.process p).state = .zombie then
        if (σ.info p).threadCount ≠ 0 then .error .panic
        else reclaimSlot (σ.setState p .reclaiming) p
      else .ok σ

/-! ### Runs -/

/-- What a thread may do while it has the scheduler lock. -/
inductive Event
  /-- `create_process`, with the address space it has made. -/
  | create (parentPid : ℕ) (root : PhysFrame)
  /-- The threads of a process that runs come and go. -/
  | threads (p : PSlot) (n : ℕ)
  | exit (p : PSlot) (code : ℤ) (missed : List TSlot)
  | join (t : TSlot) (caller : ℕ) (h : ProcessHandle)
  | wait (t : TSlot)
  | resume (t : TSlot)
  | detach (h : ProcessHandle)
  | reap

/-- The event `e`; a call of `join` that is over leaves `call`. -/
def exec : Event → Except Halt Family
  | .create parentPid root =>
    match freeProcessSlot σ.machine.toKernel with
    | none => .ok σ
    | some p => .ok { σ with machine := enterProcess σ.machine p parentPid root }
  | .threads p n =>
    if (σ.process p).state = .active then .ok (σ.setInfo p { σ.info p with threadCount := n })
    else .ok σ
  | .exit p code missed => exitProcess σ p code missed
  | .join t caller h =>
    match σ.call t, joinCheck σ caller h with
    | none, .ok c => .ok { σ with call := update σ.call t (some c) }
    | _, _ => .ok σ
  | .wait t =>
    match σ.call t with
    | some c =>
      if c.phase = .checked then
        .ok { σ with call := update σ.call t (some (joinWait σ c)) }
      else .ok σ
    | none => .ok σ
  | .resume t =>
    match σ.call t with
    | some c =>
      if c.phase = .woken then do
        let (_, σ) ← joinFinish σ c.handle
        .ok { σ with call := update σ.call t none }
      else .ok σ
    | none => .ok σ
  | .detach h => Join.detach σ h
  | .reap => reapZombieProcess σ

variable {σ}

/-- As `init_process_subsystem` leaves the table: no process but the kernel's own, which is 0. -/
structure Boot (σ : Family) : Prop where
  ids : ∀ p, (σ.process p).id = 0
  alive : ∀ p, (σ.process p).state ≠ .zombie
  silent : ∀ p, (σ.info p).completed = false
  next : σ.machine.nextProcessId = 1
  calls : ∀ t, σ.call t = none
  zombies : σ.zombies = []
  exits : σ.exits = []

def Step (σ σ' : Family) : Prop := ∃ e, exec σ e = .ok σ'

/-! ### What the calls rely on -/

/-- The slot has what the calls of `join` read as it was. -/
structure SameSlot (σ σ' : Family) (p : PSlot) : Prop where
  id : (σ'.process p).id = (σ.process p).id
  state : (σ'.process p).state = (σ.process p).state
  threadCount : (σ'.info p).threadCount = (σ.info p).threadCount
  exitCode : (σ'.info p).exitCode = (σ.info p).exitCode
  completed : (σ'.info p).completed = (σ.info p).completed

/-- Only flags and links of the processes and the zombie queue have changed. -/
structure Same (σ σ' : Family) : Prop where
  slots : ∀ p, SameSlot σ σ' p
  next : σ'.machine.nextProcessId = σ.machine.nextProcessId
  call : σ'.call = σ.call
  exits : σ'.exits = σ.exits

variable (σ)

lemma SameSlot.refl (p : PSlot) : SameSlot σ σ p := ⟨rfl, rfl, rfl, rfl, rfl⟩

lemma Same.refl : Same σ σ := ⟨SameSlot.refl σ, rfl, rfl, rfl⟩

lemma Same.trans {σ₁ σ₂ σ₃ : Family} (h : Same σ₁ σ₂) (h' : Same σ₂ σ₃) : Same σ₁ σ₃ where
  slots p :=
    { id := (h'.slots p).id.trans (h.slots p).id
      state := (h'.slots p).state.trans (h.slots p).state
      threadCount := (h'.slots p).threadCount.trans (h.slots p).threadCount
      exitCode := (h'.slots p).exitCode.trans (h.slots p).exitCode
      completed := (h'.slots p).completed.trans (h.slots p).completed }
  next := h'.next.trans h.next
  call := h'.call.trans h.call
  exits := h'.exits.trans h.exits

@[simp] lemma setInfo_process (p : PSlot) (i : ProcessInfo) :
    (σ.setInfo p i).process = σ.process := rfl

@[simp] lemma setInfo_info (p : PSlot) (i : ProcessInfo) :
    (σ.setInfo p i).info = update σ.info p i := rfl

@[simp] lemma setState_info (p : PSlot) (st : ProcessState) :
    (σ.setState p st).info = σ.info := rfl

@[simp] lemma setState_process (p : PSlot) (st : ProcessState) :
    (σ.setState p st).process = update σ.process p { σ.process p with state := st } := rfl

lemma setInfo_same (p : PSlot) {i : ProcessInfo}
    (hn : i.threadCount = (σ.info p).threadCount) (he : i.exitCode = (σ.info p).exitCode)
    (hc : i.completed = (σ.info p).completed) : Same σ (σ.setInfo p i) := by
  refine ⟨fun q => ?_, rfl, rfl, rfl⟩
  by_cases hq : q = p
  · subst hq
    exact ⟨rfl, rfl, by simpa using hn, by simpa using he, by simpa using hc⟩
  · exact ⟨rfl, rfl, by simp [hq], by simp [hq], by simp [hq]⟩

variable {σ}

lemma Same.queue {z : List PSlot} (h : Same σ σ') : Same σ { σ' with zombies := z } :=
  ⟨fun p => ⟨(h.slots p).id, (h.slots p).state, (h.slots p).threadCount, (h.slots p).exitCode,
    (h.slots p).completed⟩, h.next, h.call, h.exits⟩

lemma enqueueZombieProcess_same (σ : Family) (p : PSlot) :
    Ensures (Same σ) (enqueueZombieProcessLocked σ p) := by
  unfold enqueueZombieProcessLocked
  split
  · trivial
  · exact (setInfo_same σ p (i := { σ.info p with zombieQueued := true }) rfl rfl rfl).queue

lemma removeZombieProcess_same (σ : Family) (p : PSlot) :
    Same σ (removeZombieProcessLocked σ p) := by
  unfold removeZombieProcessLocked
  split
  · exact (setInfo_same σ p (i := { σ.info p with zombieQueued := false }) rfl rfl rfl).queue
  · exact .refl σ

lemma abandonChildren_same :
    ∀ (n : ℕ) (child : Option PSlot) (σ : Family), Ensures (Same σ) (abandonChildren n child σ)
  | 0, none, σ => .refl σ
  | _ + 1, none, σ => .refl σ
  | 0, some _, _ => trivial
  | n + 1, some child, σ => by
    unfold abandonChildren
    have hset := setInfo_same σ child
      (i := { σ.info child with parentPid := 0, nextSibling := none }) rfl rfl rfl
    dsimp only
    split
    · refine (enqueueZombieProcess_same _ child).bind fun τ hτ => ?_
      exact (abandonChildren_same n _ τ).mono fun _ => (hset.trans hτ).trans
    · exact (abandonChildren_same n _ _).mono fun _ => hset.trans

/-- What holds of every slot: a zombie has no threads, and its exit code is in the record; the
completion event is signaled only once the process is dead. -/
structure SlotKept (σ : Family) (p : PSlot) : Prop where
  id_lt : (σ.process p).id < σ.machine.nextProcessId
  zombie : (σ.process p).state = .zombie → (σ.info p).threadCount = 0 ∧ (σ.process p).id ≠ 0 ∧
    ((σ.process p).id, (σ.info p).exitCode) ∈ σ.exits
  completed : (σ.info p).completed → (σ.process p).state = .zombie ∨
    (σ.process p).state = .reclaiming ∨ (σ.process p).state = .free

/-- What holds of a call: if the slot still has the process of the handle and the thread has been
let go, then by the event of this process. -/
structure CallKept (σ : Family) (c : JoinCall) : Prop where
  pid_lt : c.handle.pid < σ.machine.nextProcessId
  woken : c.phase = .woken → (σ.process c.handle.process).id = c.handle.pid →
    (σ.info c.handle.process).completed

structure Kept (σ : Family) : Prop where
  slots : ∀ p, SlotKept σ p
  calls : ∀ t c, σ.call t = some c → CallKept σ c

lemma SlotKept.same (h : SlotKept σ p) (hs : SameSlot σ σ' p)
    (hn : σ.machine.nextProcessId ≤ σ'.machine.nextProcessId)
    (he : ∀ e ∈ σ.exits, e ∈ σ'.exits) : SlotKept σ' p where
  id_lt := by
    rw [hs.id]
    exact lt_of_lt_of_le h.id_lt hn
  zombie hz := by
    rw [hs.state] at hz
    obtain ⟨h1, h2, h3⟩ := h.zombie hz
    rw [hs.threadCount, hs.id, hs.exitCode]
    exact ⟨h1, h2, he _ h3⟩
  completed hc := by
    rw [hs.completed] at hc
    rw [hs.state]
    exact h.completed hc

/-- **One slot changes.** Its process stays and does not lose its completion, or a new process comes
with an identifier that no call has. -/
lemma Kept.at_slot (h : Kept σ) (hq : ∀ q ≠ p, SameSlot σ σ' q) (hp : SlotKept σ' p)
    (hid : (σ'.process p).id = (σ.process p).id ∧ ((σ.info p).completed → (σ'.info p).completed) ∨
      (σ'.process p).id = σ.machine.nextProcessId)
    (hn : σ.machine.nextProcessId ≤ σ'.machine.nextProcessId)
    (he : ∀ e ∈ σ.exits, e ∈ σ'.exits) (hc : σ'.call = σ.call) : Kept σ' := by
  refine ⟨fun q => ?_, fun t c ht => ?_⟩
  · by_cases hqp : q = p
    · exact hqp ▸ hp
    · exact (h.slots q).same (hq q hqp) hn he
  rw [hc] at ht
  have hold := h.calls t c ht
  refine ⟨lt_of_lt_of_le hold.pid_lt hn, fun hw hpid => ?_⟩
  by_cases hqp : c.handle.process = p
  · rcases hid with ⟨hsame, hdone⟩ | hnew
    · rw [hqp] at hpid ⊢
      have := hold.woken hw (by rw [hqp, ← hsame]; exact hpid)
      rw [hqp] at this
      exact hdone this
    -- the identifier of the new process is larger than that of the handle
    rw [hqp, hnew] at hpid
    exact absurd hpid hold.pid_lt.ne'
  rw [(hq _ hqp).completed]
  rw [(hq _ hqp).id] at hpid
  exact hold.woken hw hpid

lemma Kept.same (h : Kept σ) (hs : Same σ σ') : Kept σ' :=
  h.at_slot (p := 0) (fun q _ => hs.slots q)
    ((h.slots 0).same (hs.slots 0) hs.next.ge fun e he => by rw [hs.exits]; exact he)
    (.inl ⟨(hs.slots 0).id, fun hc => by rw [(hs.slots 0).completed]; exact hc⟩) hs.next.ge
    (fun e he => by rw [hs.exits]; exact he) hs.call

lemma Kept.set_calls (h : Kept σ) {call : TSlot → Option JoinCall}
    (hc : ∀ t c, call t = some c → CallKept σ c) : Kept { σ with call := call } where
  slots p := ⟨(h.slots p).id_lt, (h.slots p).zombie, (h.slots p).completed⟩
  calls t c ht := ⟨(hc t c ht).pid_lt, (hc t c ht).woken⟩

lemma Kept.update_call (h : Kept σ) (t : TSlot) {oc : Option JoinCall}
    (hc : ∀ c, oc = some c → CallKept σ c) : Kept { σ with call := update σ.call t oc } := by
  refine h.set_calls fun u c hu => ?_
  by_cases hut : u = t
  · subst hut
    rw [update_self] at hu
    exact hc c hu
  rw [update_of_ne hut] at hu
  exact h.calls u c hu

/-! ### Every event keeps it -/

lemma kept_boot (h : Boot σ) : Kept σ where
  slots p :=
    { id_lt := by rw [h.ids p, h.next]; exact Nat.one_pos
      zombie := fun hz => absurd hz (h.alive p)
      completed := fun hc => by simp [h.silent p] at hc }
  calls t c ht := by simp [h.calls t] at ht

variable (m : Machine)

lemma linkChild_view (p : PSlot) (parentPid : ℕ) (q : PSlot) :
    (linkChild m p parentPid q).threadCount = (m.processInfo q).threadCount ∧
      (linkChild m p parentPid q).exitCode = (m.processInfo q).exitCode ∧
      (linkChild m p parentPid q).completed = (m.processInfo q).completed := by
  unfold linkChild
  cases (List.finRange 16).find? fun q => (m.process q).occupied && (m.process q).id = parentPid with
  | none => exact ⟨rfl, rfl, rfl⟩
  | some r =>
    simp only [update_apply]
    by_cases hr : q = r <;> by_cases hp : q = p <;> simp_all

lemma kept_create (h : Kept σ) (p : PSlot) (parentPid : ℕ) (root : PhysFrame) :
    Kept { σ with machine := enterProcess σ.machine p parentPid root } := by
  have hlink := fun m q => linkChild_view m p parentPid q
  refine h.at_slot (p := p) (fun q hq => ?_) ⟨?_, ?_, ?_⟩ (.inr ?_) (Nat.le_succ _)
    (fun _ he => he) rfl
  · refine ⟨?_, ?_, ?_, ?_, ?_⟩
    · simp [Family.process, enterProcess, scrubHandles, hq]
    · simp [Family.process, enterProcess, scrubHandles, hq]
    · simp [Family.info, enterProcess, (hlink _ q).1, hq]
    · simp [Family.info, enterProcess, (hlink _ q).2.1, hq]
    · simp [Family.info, enterProcess, (hlink _ q).2.2, hq]
  · simp [Family.process, enterProcess, scrubHandles]
  · simp [Family.process, enterProcess, scrubHandles]
  · simp [Family.info, enterProcess, (hlink _ p).2.2]
  · simp [Family.process, enterProcess, scrubHandles]

lemma vacate_id (process : PSlot → ProcessSlot) (pid : ℕ) (q : PSlot) :
    (vacate process pid q).id = (process q).id ∧
      (vacate process pid q).state = (process q).state := by
  unfold vacate
  cases (List.finRange 16).find? fun q => (process q).occupied && (process q).id = pid with
  | none => exact ⟨rfl, rfl⟩
  | some r =>
    simp only [update_apply]
    by_cases hr : q = r <;> simp_all

lemma vacate_other {process : PSlot → ProcessSlot} {pid : ℕ} (hq : (process q).id ≠ pid) :
    vacate process pid q = process q := by
  unfold vacate
  cases hr : (List.finRange 16).find? fun q => (process q).occupied && (process q).id = pid with
  | none => rfl
  | some r =>
    have hid : (process r).id = pid := by
      have := List.find?_some hr
      simp only [Bool.and_eq_true, decide_eq_true_eq] at this
      exact this.2
    have hne : q ≠ r := fun e => hq (by rw [e]; exact hid)
    exact update_of_ne hne _ _

lemma reclaimSlot_ok (h : reclaimSlot σ p = .ok σ') :
    σ' = { σ with machine := { σ.machine with process := vacate (update σ.process p
      { σ.process p with addressSpace := 0, state := .free }) (σ.process p).id } } := by
  unfold reclaimSlot at h
  split at h
  · cases h
  cases h
  rfl

lemma reclaimSlot_process (h : reclaimSlot σ p = .ok σ') : (σ'.process p).state = .free ∧
    ∀ q, (σ.process q).id ≠ (σ.process p).id → σ'.process q = σ.process q := by
  have hσ := reclaimSlot_ok h
  constructor
  · rw [hσ]
    refine (vacate_id _ _ p).2.trans ?_
    rw [update_self]
  intro q hq
  have hne : q ≠ p := fun e => hq (by rw [e])
  rw [hσ]
  refine (vacate_other ?_).trans (update_of_ne hne _ _)
  rw [update_of_ne hne]
  exact hq

section

variable (h : Kept σ)

include h

lemma kept_reclaimSlot (p : PSlot) : Ensures Kept (reclaimSlot σ p) := by
  cases hr : reclaimSlot σ p with
  | error e => trivial
  | ok σ' =>
    refine holds_ok.mpr ?_
    have hσ := reclaimSlot_ok hr
    have hid : ∀ q, (σ'.process q).id = (σ.process q).id := fun q => by
      rw [hσ]
      refine (vacate_id _ _ q).1.trans ?_
      rw [update_apply]
      split <;> simp_all
    have hfree := (reclaimSlot_process hr).1
    have hinfo : σ'.info = σ.info := by rw [hσ]; rfl
    have hnext : σ'.machine.nextProcessId = σ.machine.nextProcessId := by rw [hσ]
    refine h.at_slot (p := p) (fun q hq => ⟨hid q, ?_, ?_, ?_, ?_⟩) ⟨?_, ?_, fun _ => ?_⟩
      (.inl ⟨hid p, fun hc => by rw [hinfo]; exact hc⟩) hnext.ge (fun e he => ?_) ?_
    · rw [hσ]
      refine (vacate_id _ _ q).2.trans ?_
      rw [update_of_ne hq]
    · rw [hinfo]
    · rw [hinfo]
    · rw [hinfo]
    · rw [hid, hnext]
      exact (h.slots p).id_lt
    · intro hz
      rw [hfree] at hz
      cases hz
    · exact .inr (.inr hfree)
    · rw [hσ]
      exact he
    · rw [hσ]

lemma kept_reclaiming (p : PSlot) : Kept (σ.setState p .reclaiming) := by
  refine h.at_slot (p := p) (fun q hq => ?_) ⟨?_, ?_, ?_⟩ (.inl ⟨by simp, fun hc => hc⟩) le_rfl
    (fun _ he => he) rfl
  · exact ⟨by simp [hq], by simp [hq], rfl, rfl, rfl⟩
  · rw [setState_process, update_self]
    exact (h.slots p).id_lt
  · simp
  · simp

lemma kept_signal (hdone : (σ.info p).completed) (pid : ℕ)
    (missed : List TSlot) : Kept { σ with call := signalJoins σ p pid missed } := by
  refine h.set_calls fun t c ht => ?_
  unfold signalJoins at ht
  cases hc0 : σ.call t with
  | none => simp [hc0] at ht
  | some c0 =>
    simp only [hc0] at ht
    split at ht
    · cases ht
    split at ht
    next hwait =>
      cases ht
      refine ⟨(h.calls t c0 hc0).pid_lt, fun _ _ => ?_⟩
      rw [hwait.1]
      exact hdone
    cases ht
    exact h.calls t _ hc0

lemma kept_exit (p : PSlot) (code : ℤ) (missed : List TSlot) :
    Ensures Kept (exitProcess σ p code missed) := by
  unfold exitProcess
  dsimp only
  split
  · trivial
  rename_i hguard
  simp only [not_or] at hguard
  refine (abandonChildren_same 17 _ _).bind fun τ hτ => ?_
  -- the slot once it is a zombie, with the calls as they were
  have hτp := hτ.slots p
  have hcode : (τ.info p).exitCode = code := by
    rw [hτp.exitCode]
    simp
  have hcount : (τ.info p).threadCount = 0 := by
    rw [hτp.threadCount]
    simp
  have hid : (τ.process p).id = (σ.process p).id := hτp.id
  have hnext : τ.machine.nextProcessId = σ.machine.nextProcessId := hτ.next
  have hexits : τ.exits = σ.exits := hτ.exits
  have hdead : Kept { (τ.setState p .zombie).setInfo p
      { τ.info p with firstChild := none, completed := true } with
        exits := ((σ.process p).id, code) :: τ.exits } := by
    refine h.at_slot (p := p) (fun q hq => ?_) ⟨?_, fun _ => ⟨?_, ?_, ?_⟩, fun _ => ?_⟩
      (.inl ⟨?_, fun _ => ?_⟩) hnext.ge (fun e he => ?_) hτ.call
    · have hs := hτ.slots q
      refine ⟨?_, ?_, ?_, ?_, ?_⟩
      · simpa [Family.process, Family.setState, Family.setInfo, setProcessState, hq] using hs.id
      · simpa [Family.process, Family.setState, Family.setInfo, setProcessState, hq] using hs.state
      · simpa [Family.info, Family.setState, Family.setInfo, hq] using hs.threadCount
      · simpa [Family.info, Family.setState, Family.setInfo, hq] using hs.exitCode
      · simpa [Family.info, Family.setState, Family.setInfo, hq] using hs.completed
    · have hlt := (h.slots p).id_lt
      rw [← hid, ← hnext] at hlt
      simpa [Family.process, Family.setState, Family.setInfo, setProcessState] using hlt
    · simpa [Family.info, Family.setState, Family.setInfo] using hcount
    · have hne := hguard.2.1
      rw [← hid] at hne
      simpa [Family.process, Family.setState, Family.setInfo, setProcessState] using hne
    · refine List.mem_cons.mpr (.inl (Prod.ext ?_ ?_))
      · simpa [Family.process, Family.setState, Family.setInfo, setProcessState] using hid
      · simpa [Family.info, Family.setState, Family.setInfo] using hcode
    · exact .inl (by simp [Family.process, Family.setState, Family.setInfo, setProcessState])
    · simpa [Family.process, Family.setState, Family.setInfo, setProcessState] using hid
    · simp [Family.info, Family.setState, Family.setInfo]
    rw [hexits]
    exact List.mem_cons_of_mem _ he
  have hkept := kept_signal hdead (p := p)
    (by simp [Family.info, Family.setState, Family.setInfo]) (σ.process p).id missed
  split
  · exact (enqueueZombieProcess_same _ p).mono fun _ => hkept.same
  · exact hkept

lemma kept_finish (hd : ProcessHandle) : Leaves Kept (joinFinish σ hd) := by
  unfold joinFinish
  dsimp only
  split
  · exact h
  split
  · trivial
  have hr := kept_reclaiming h hd.process
  refine .bind (P := Kept) (kept_reclaimSlot ?_ hd.process) fun τ hτ => hτ
  split
  · exact hr.same (removeZombieProcess_same _ _)
  · exact hr

lemma kept_detach (hd : ProcessHandle) : Ensures Kept (detach σ hd) := by
  unfold detach
  dsimp only
  have hs := setInfo_same σ hd.process
    (i := { σ.info hd.process with isDetached := true }) rfl rfl rfl
  split
  · split
    · exact (enqueueZombieProcess_same _ _).mono fun _ h' => h.same (hs.trans h')
    · exact h.same hs
  · exact h

lemma kept_reap : Ensures Kept (reapZombieProcess σ) := by
  unfold reapZombieProcess
  split
  · exact h
  rename_i p rest _
  split
  · trivial
  have hs := h.same ((setInfo_same σ p
    (i := { σ.info p with zombieQueued := false }) rfl rfl rfl).queue (z := rest))
  dsimp only
  split
  · split
    · trivial
    · exact kept_reclaimSlot (kept_reclaiming hs p) p
  · exact hs

lemma kept_exec (e : Event) : Ensures Kept (exec σ e) := by
  cases e with
  | create parentPid root =>
    simp only [exec]
    split
    · exact h
    · exact kept_create h _ parentPid root
  | threads p n =>
    simp only [exec]
    split
    next hact =>
      refine h.at_slot (p := p) (fun q hq => ?_) ⟨(h.slots p).id_lt, ?_, ?_⟩
        (.inl ⟨rfl, ?_⟩) le_rfl (fun _ he => he) rfl
      · exact ⟨rfl, rfl, by simp [hq], by simp [hq], by simp [hq]⟩
      · intro hz
        rw [setInfo_process, hact] at hz
        cases hz
      · intro hc
        exact (h.slots p).completed (by simpa using hc)
      · simp
    · exact h
  | exit p code missed => exact kept_exit h p code missed
  | join t caller hd =>
    simp only [exec]
    split
    next _ hcheck =>
      refine h.update_call t fun c' hc' => ?_
      cases hc'
      unfold joinCheck at hcheck
      iterate 2
        split at hcheck
        · cases hcheck
      rename_i hid
      cases hcheck
      refine ⟨?_, fun hw => by cases hw⟩
      rw [← not_not.mp hid]
      exact (h.slots hd.process).id_lt
    · exact h
  | wait t =>
    simp only [exec]
    split
    next c hc =>
      split
      · refine h.update_call t fun c' hc' => ?_
        cases hc'
        refine ⟨(h.calls t c hc).pid_lt, fun hw _ => ?_⟩
        unfold joinWait at hw ⊢
        split at hw
        · assumption
        · cases hw
      · exact h
    · exact h
  | resume t =>
    simp only [exec]
    split
    · split
      · exact (kept_finish h _).bind fun r hr => hr.update_call t fun c hc => by cases hc
      · exact h
    · exact h
  | detach hd => exact kept_detach h hd
  | reap => exact kept_reap h

end

lemma kept_reach (h : Reach Boot Step σ) : Kept σ :=
  h.invariant (fun _ => kept_boot) fun _ _ hk ⟨e, he⟩ => (kept_exec hk e).of_ok he

/-! ### The table of processes when resources are reclaimed -/

/-- The table of processes and the rest of their descriptors are as they were. -/
def SameProcesses (m m' : Machine) : Prop :=
  m'.process = m.process ∧ m'.processInfo = m.processInfo ∧ m'.nextProcessId = m.nextProcessId

lemma destroyStack_eq (root : PhysFrame) (guardPage : VirtualAddress) :
    ∃ mem slots, destroyStack m root guardPage = { m.setMemory mem with stackSlots := slots } :=
  ⟨_, _, rfl⟩

lemma destroyThreadStack_processes (root : PhysFrame) (t : TSlot) :
    SameProcesses m (destroyThreadStack m root t) := by
  unfold destroyThreadStack
  split
  · obtain ⟨mem, slots, hstack⟩ := destroyStack_eq m root (m.threadInfo t).guardPage
    rw [hstack]
    exact ⟨rfl, rfl, rfl⟩
  · exact ⟨rfl, rfl, rfl⟩

lemma reclaimThread_processes (pid : ℕ) (root : PhysFrame) (m : Machine) (t : TSlot) :
    SameProcesses m (reclaimThread pid root m t) := by
  unfold reclaimThread
  split
  · exact destroyThreadStack_processes m root t
  · exact ⟨rfl, rfl, rfl⟩

lemma SameProcesses.trans {m m₁ m₂ : Machine} (h : SameProcesses m m₁) (h' : SameProcesses m₁ m₂) :
    SameProcesses m m₂ :=
  ⟨h'.1.trans h.1, h'.2.1.trans h.2.1, h'.2.2.trans h.2.2⟩

lemma reclaimThreads_processes (pid : ℕ) (root : PhysFrame) (l : List TSlot) (m : Machine) :
    SameProcesses m (l.foldl (reclaimThread pid root) m) := by
  induction l generalizing m with
  | nil => exact ⟨rfl, rfl, rfl⟩
  | cons t l ih => exact (reclaimThread_processes pid root m t).trans (ih _)

lemma reclaimPages_processes (pid : ℕ) (root : PhysFrame) :
    SameProcesses m (reclaimPages m pid root) := by
  unfold reclaimPages
  split <;> exact ⟨rfl, rfl, rfl⟩

/-- **`reclaimSlot` is what the reclamation of the resources does to the table.** -/
theorem reclaimSlot_of_resources (σ : Family) (p : PSlot) :
    Ensures (fun m => ∃ σ', reclaimSlot σ p = .ok σ' ∧ SameProcesses m σ'.machine)
      (reclaimProcessResourcesLocked σ.machine p) := by
  rcases h : reclaimProcessResourcesLocked σ.machine p with e | m
  · trivial
  change ∃ σ', _
  unfold reclaimProcessResourcesLocked at h
  dsimp only at h
  unfold reclaimSlot
  split at h
  · cases h
  rename_i hguard
  obtain ⟨⟨cr3, mem⟩, -, hm⟩ := bind_eq_ok h
  have h1 := reclaimThreads_processes (σ.machine.process p).id σ.machine.cr3
    (List.finRange 16) σ.machine
  generalize (List.finRange 16).foldl
    (reclaimThread (σ.machine.process p).id σ.machine.cr3) σ.machine = m1 at h1 hm
  obtain ⟨m2, hm2, h2⟩ : ∃ m2, m2 = (if m1.cr3 = (m1.process p).addressSpace then
      { m1 with cr3 := m1.masterPml4 } else m1) ∧ SameProcesses m1 m2 := by
    refine ⟨_, rfl, ?_⟩
    split <;> exact ⟨rfl, rfl, rfl⟩
  rw [← hm2] at hm
  obtain ⟨hp, hi, hn⟩ := (h1.trans h2).trans
    (reclaimPages_processes m2 (σ.machine.process p).id σ.machine.cr3)
  cases hm
  refine ⟨_, if_neg hguard, ?_, hi.symm, hn.symm⟩
  have hsame : ((reclaimPages m2 (σ.machine.process p).id σ.machine.cr3).setMemory mem).process =
    σ.machine.process := hp
  simp only [hsame, Family.process]

/-! ### What a join reports -/

/-- The call ends without a failed assertion; a code that it returns is the one with which the
process of the handle exited, and no slot of another process has changed. -/
def Reports (σ : Family) (h : ProcessHandle) : Prop :=
  ∃ r σ', joinFinish σ h = .ok (r, σ') ∧ (∀ code, r = .ok code → (h.pid, code) ∈ σ.exits) ∧
    ∀ q, (σ.process q).id ≠ h.pid → σ'.process q = σ.process q

lemma joinFinish_reclaimed {h : ProcessHandle}
    (hst : (σ.process h.process).state = .reclaiming ∨ (σ.process h.process).state = .free) :
    joinFinish σ h = .ok (.error .alreadyReclaimed, σ) := if_pos hst

/-- The process is a zombie: it is claimed, whichever process it is. -/
lemma joinFinish_zombie (hk : Kept σ) {h : ProcessHandle}
    (hz : (σ.process h.process).state = .zombie) :
    ∃ σ', joinFinish σ h = .ok (.ok (σ.info h.process).exitCode, σ') ∧
      (σ'.process h.process).state = .free ∧
      ∀ q, (σ.process q).id ≠ (σ.process h.process).id → σ'.process q = σ.process q := by
  obtain ⟨hcount, hid, -⟩ := (hk.slots h.process).zombie hz
  obtain ⟨τ, hτ⟩ : ∃ τ, τ = if ((σ.setState h.process .reclaiming).info h.process).zombieQueued
      then removeZombieProcessLocked (σ.setState h.process .reclaiming) h.process
      else σ.setState h.process .reclaiming := ⟨_, rfl⟩
  have hsame : Same (σ.setState h.process .reclaiming) τ := by
    rw [hτ]
    split
    · exact removeZombieProcess_same _ _
    · exact .refl _
  have hprocess : τ.process = (σ.setState h.process .reclaiming).process := by
    rw [hτ]
    split
    · unfold removeZombieProcessLocked
      split <;> rfl
    · rfl
  have hs := hsame.slots h.process
  have hpid : (τ.process h.process).id = (σ.process h.process).id := by
    rw [hprocess, setState_process, update_self]
  obtain ⟨σ', hσ'⟩ : ∃ σ', reclaimSlot τ h.process = .ok σ' := by
    unfold reclaimSlot
    rw [if_neg (by rw [not_or, hpid, not_not, hs.threadCount]; exact ⟨hid, hcount⟩)]
    exact ⟨_, rfl⟩
  obtain ⟨hfree, hother⟩ := reclaimSlot_process hσ'
  refine ⟨σ', ?_, hfree, fun q hq => ?_⟩
  · unfold joinFinish
    dsimp only
    rw [if_neg (by simp [hz]), if_neg (by simp [hz, hcount]), ← hτ, hσ', hs.exitCode]
    rfl
  have hne : q ≠ h.process := fun e => hq (by rw [e])
  have hq' : τ.process q = σ.process q := by
    rw [hprocess, setState_process, update_of_ne hne]
  rw [hother q (by rw [hq', hpid]; exact hq), hq']

/-- **What a join reports.** In every state that any interleaving of creation, exit, join, detach and
reaping reaches, a thread that `join` lets go reports the process of its handle exactly if the slot
still has this process, or is on its way to be free. -/
theorem join_reports (hσ : Reach Boot Step σ) {t : TSlot} {c : JoinCall} (hc : σ.call t = some c)
    (hw : c.phase = .woken) :
    Reports σ c.handle ↔ (σ.process c.handle.process).id = c.handle.pid ∨
      (σ.process c.handle.process).state = .reclaiming ∨
      (σ.process c.handle.process).state = .free := by
  have hk := kept_reach hσ
  constructor
  · rintro ⟨r, σ', hfin, -, hother⟩
    by_contra hno
    simp only [not_or] at hno
    obtain ⟨hid, hre, hfree⟩ := hno
    by_cases hz : (σ.process c.handle.process).state = .zombie
    · -- another process is a zombie there, and it is reclaimed
      obtain ⟨τ, hτ, hst, -⟩ := joinFinish_zombie hk hz
      rw [hτ] at hfin
      cases hfin
      rw [hother _ hid, hz] at hst
      cases hst
    unfold joinFinish at hfin
    rw [if_neg (by simp [hre, hfree]), if_pos (.inl hz)] at hfin
    cases hfin
  intro hcond
  by_cases hre : (σ.process c.handle.process).state = .reclaiming ∨
      (σ.process c.handle.process).state = .free
  · exact ⟨_, σ, joinFinish_reclaimed hre, (fun _ hr => by cases hr), fun _ _ => rfl⟩
  have hid := hcond.resolve_right hre
  have hdone := (hk.calls t c hc).woken hw hid
  have hz := ((hk.slots _).completed hdone).resolve_right hre
  obtain ⟨σ', hfin, -, hother⟩ := joinFinish_zombie hk hz
  refine ⟨_, σ', hfin, fun code hcode => ?_, fun q hq => hother q (by rw [hid]; exact hq)⟩
  cases hcode
  have hexit := ((hk.slots c.handle.process).zombie hz).2.2
  rw [hid] at hexit
  exact hexit

/-- A machine with 32 frames, the first one in use for the kernel's page table, and no user process. -/
def bareMachine : Machine where
  toKernel := Kernel.boot
    { initialized := true, trackedFrames := 32, state := fun i => if i = 0 then .allocated else .free,
      freeFrames := 31, allocatedFrames := 1 }
    ⟨36, 48, true, range36, range48⟩ (fun _ _ => 0)
    (fun _ => { occupied := false, processId := 0, priority := 0, state := .ready })
    (fun p => { occupied := p = 0, id := 0, state := .active, addressSpace := 0 })
  cr3 := 0
  masterPml4 := 0
  nextProcessId := 1
  nextThreadId := 1
  processInfo _ :=
    { isDetached := false, zombieQueued := false, exitCode := 0, threadCount := 0, parentPid := 0,
      nextSibling := none, firstChild := none, completed := false }
  threadInfo _ :=
    { id := 0, isDetached := false, zombieQueued := false, exitCode := 0, savedRsp := 0,
      stackTop := 0, guardPage := 0, stackFrames := fun _ => 0 }
  stackSlots _ := false
  memoryMap _ := .empty

/-- The machine with no process but the kernel's own. -/
def idleFamily : Family :=
  { machine := bareMachine, zombies := [], call := fun _ => none, exits := [] }

lemma boot_idleFamily : Boot idleFamily :=
  ⟨fun _ => rfl, (fun _ => nofun), fun _ => rfl, rfl, fun _ => rfl, rfl, rfl⟩

lemma reach_run {Q : Family → Prop} [DecidablePred Q] (es : List Event)
    (h : (es.foldlM exec idleFamily).toOption.any (fun σ => decide (Q σ))) :
    ∃ σ, Reach Boot Step σ ∧ Q σ := by
  obtain ⟨σ, hrun, hQ⟩ := exists_ok h
  exact ⟨σ, Reach.foldlM (fun _ e _ he => ⟨e, he⟩) (.start boot_idleFamily) hrun, hQ⟩

/-- The kernel creates a process and a thread of it waits for the process, which exits with 7. -/
def waitedFor : List Event :=
  [.create 0 1, .join 1 0 ⟨1, 1⟩, .wait 1, .exit 1 7 []]

/-- The call after `waitedFor`. -/
def wokenCall : JoinCall := { handle := ⟨1, 1⟩, caller := 0, phase := .woken }

theorem join_reports_waited : ∃ σ, Reach Boot Step σ ∧ σ.call 1 = some wokenCall ∧
    Reports σ wokenCall.handle := by
  obtain ⟨σ, hσ, hcall, hid⟩ := reach_run
    (Q := fun σ => σ.call 1 = some wokenCall ∧ (σ.process 1).id = 1) waitedFor
    (by decide +kernel)
  exact ⟨σ, hσ, hcall, (join_reports hσ hcall rfl).mpr (.inl hid)⟩

/-- **The slot has another process.** Before the joiner runs, the reaper frees the slot and
`create_process` takes it for the process 2. The join of process 1 then fails its assertion, and once
process 2 has exited with 9 it returns 9 and reclaims process 2. -/
theorem join_reports_another :
    (∃ σ, Reach Boot Step σ ∧ σ.call 1 = some wokenCall ∧
      joinFinish σ wokenCall.handle = .error .panic) ∧
    ∃ σ, Reach Boot Step σ ∧ σ.call 1 = some wokenCall ∧ σ.exits = [(2, 9), (1, 7)] ∧
      (σ.process 1).id = 2 ∧ (σ.process 1).state = .zombie ∧
      (joinFinish σ wokenCall.handle).map
        (fun r => (r.1, (r.2.process 1).id, (r.2.process 1).state)) = .ok (.ok 9, 2, .free) := by
  constructor
  · obtain ⟨σ, hσ, hcall, hfin⟩ := reach_run (Q := fun σ => σ.call 1 = some wokenCall ∧
        (joinFinish σ wokenCall.handle).map (fun r => r.1) = .error .panic)
      (waitedFor ++ [.reap, .create 0 2]) (by decide +kernel)
    refine ⟨σ, hσ, hcall, ?_⟩
    cases hf : joinFinish σ wokenCall.handle with
    | error e =>
      rw [hf] at hfin
      cases hfin
      rfl
    | ok r =>
      rw [hf] at hfin
      cases hfin
  · exact reach_run (waitedFor ++ [.reap, .create 0 2, .exit 1 9 []]) (by decide +kernel)

end ProjectZero.Task.Join
