import ProjectZero.Lib.Update
import ProjectZero.Libzero.Resource

/-! # Workloads and their task graphs

The control block of a workload with its table of sixteen tasks, and `TaskDag`, the graph of their
dependencies with the topological sort that rejects cycles. The sort runs on a queue, and
it accepts a graph just if it has no cycle (`verifyAcyclic_iff`). -/

namespace ProjectZero.Libzero.Workload

open Resource

/-! ### Tasks and control blocks -/

inductive WorkloadState
  | creating | ready | running | waiting | suspended | recovering | cancelling | completed | failed
  | cancelled | reclaimed | queued | admitted | runnable | orphanCompleting
  deriving DecidableEq

/-- `state as u8`. -/
def WorkloadState.code : WorkloadState → ℕ
  | .creating => 0
  | .ready => 1
  | .running => 2
  | .waiting => 3
  | .suspended => 4
  | .recovering => 5
  | .cancelling => 6
  | .completed => 7
  | .failed => 8
  | .cancelled => 9
  | .reclaimed => 10
  | .queued => 11
  | .admitted => 12
  | .runnable => 13
  | .orphanCompleting => 14

inductive TaskState
  | unallocated | blocked | ready | leaseAcquired | running | completed | failed | cancelled | stopped
  deriving DecidableEq

inductive RecoveryClass
  | class1Pure | class2Stateful | class3Irreversible
  deriving DecidableEq

/-- `DEFAULT_MAX_TASK_RETRIES`. -/
def defaultMaxTaskRetries : ℕ := 3

/-- `MAX_CONCURRENT_RUNNING_TASKS`. -/
def maxConcurrentRunningTasks : ℕ := 8

structure TaskDescriptor where
  taskId : ℕ
  state : TaskState
  retryCount : ℕ
  maxRetries : ℕ
  dependencies : BitVec 16
  assignedPid : ℕ
  leaseId : DistributedId
  deriving DecidableEq

/-- `WorkloadControlBlock`, with its `MAX_TASKS_PER_WORKLOAD` tasks. -/
structure WorkloadControlBlock where
  workloadId : DistributedId
  ownerPid : BitVec 64
  generation : ℕ
  clientChannelHandle : BitVec 32
  state : WorkloadState
  recoveryClass : RecoveryClass
  taskCount : ℕ
  activeLeaseCount : ℕ
  tasks : Fin 16 → TaskDescriptor
  taskCount_le : taskCount ≤ 16

/-- The indices of a loop over the first `count` tasks. -/
def firstTasks (count : ℕ) : List (Fin 16) := (List.finRange 16).filter (·.val < count)

@[simp] lemma mem_firstTasks {count : ℕ} {i : Fin 16} : i ∈ firstTasks count ↔ i.val < count := by
  simp [firstTasks]

lemma nodup_firstTasks (count : ℕ) : (firstTasks count).Nodup :=
  (List.nodup_finRange 16).filter _

/-! ### The graph -/

/-- `(deps & (1 << j)) != 0`. -/
def dependsOn (deps : BitVec 16) (j : Fin 16) : Bool := (deps &&& (1#16 <<< j.val)) != 0#16

structure TaskDag where
  inDegrees : Fin 16 → ℕ
  dependencyMatrix : Fin 16 → BitVec 16
  taskCount : ℕ

namespace TaskDag

def fromTasks (tasks : Fin 16 → TaskDescriptor) (count : ℕ) : TaskDag where
  inDegrees := fun i =>
    if i.val < count then ((firstTasks count).filter (dependsOn (tasks i).dependencies)).length
    else 0
  dependencyMatrix := fun i => if i.val < count then (tasks i).dependencies else 0
  taskCount := count

/-- The degrees that are left and the tasks in the queue. -/
abbrev Pending := (Fin 16 → ℕ) × List (Fin 16)

variable (dag : TaskDag)

/-- Task `u` has left the queue, and `v` may wait for one task less. -/
def relax (u : Fin 16) (p : Pending) (v : Fin 16) : Pending :=
  if dependsOn (dag.dependencyMatrix v) u ∧ 0 < p.1 v then
    (update p.1 v (p.1 v - 1), if p.1 v - 1 = 0 then p.2 ++ [v] else p.2)
  else p

/-- The loop of the topological sort. Its result is the number of tasks that left the queue. -/
def sort : ℕ → Pending → ℕ → ℕ
  | 0, _, processed => processed
  | _ + 1, (_, []), processed => processed
  | fuel + 1, (degrees, u :: queue), processed =>
    sort fuel ((firstTasks dag.taskCount).foldl (dag.relax u) (degrees, queue)) (processed + 1)

/-- The tasks that wait for nothing start in the queue. -/
def start : Pending :=
  (dag.inDegrees, (firstTasks dag.taskCount).filter fun i => dag.inDegrees i = 0)

def verifyAcyclic : Except ZeroError Unit :=
  if dag.taskCount = 0 ∨ dag.taskCount > 16 then .error .invalidRequest
  else if dag.sort 17 dag.start 0 = dag.taskCount then .ok ()
  else .error .cyclicDependency

/-! ### What the sort accepts -/

/-- The task `v` waits for the task `u`. -/
def Waits (v u : Fin 16) : Prop :=
  v.val < dag.taskCount ∧ u.val < dag.taskCount ∧ dependsOn (dag.dependencyMatrix v) u
  deriving Decidable

/-- No task waits for itself. -/
def Acyclic : Prop := ∀ v, ¬Relation.TransGen dag.Waits v v

variable (P : Finset (Fin 16))

/-- What `v` waits for when the tasks of `P` have left the queue. -/
def left (v : Fin 16) : Finset (Fin 16) := {u | dag.Waits v u ∧ u ∉ P}

/-- The degrees count what is left, and the queue has the tasks that wait for nothing more. -/
structure Sorted (p : Pending) : Prop where
  degree : ∀ v, p.1 v = (dag.left P v).card
  queue : ∀ v, v ∈ p.2 ↔ v.val < dag.taskCount ∧ v ∉ P ∧ dag.left P v = ∅
  nodup : p.2.Nodup
  done : ∀ v ∈ P, v.val < dag.taskCount ∧ dag.left P v = ∅ ∧ ¬Relation.TransGen dag.Waits v v

variable {dag P} {u v : Fin 16} {degrees : Fin 16 → ℕ} {queue : List (Fin 16)}

@[simp] lemma mem_left : u ∈ dag.left P v ↔ dag.Waits v u ∧ u ∉ P := Finset.mem_filter_univ _

lemma left_insert : dag.left (insert u P) v = (dag.left P v).erase u := by
  ext w
  simp only [mem_left, Finset.mem_insert, Finset.mem_erase]
  tauto

lemma foldl_relax {l : List (Fin 16)} (hl : l.Nodup) : l.foldl (dag.relax u) (degrees, queue) =
    (fun v => if v ∈ l ∧ dependsOn (dag.dependencyMatrix v) u then degrees v - 1 else degrees v,
      queue ++ l.filter fun v => dependsOn (dag.dependencyMatrix v) u ∧ degrees v = 1) := by
  induction l generalizing degrees queue with
  | nil => simp
  | cons v l ih =>
    obtain ⟨hv, hl⟩ := List.nodup_cons.mp hl
    have hl' : ∀ n, (l.filter fun w => dependsOn (dag.dependencyMatrix w) u ∧
        update degrees v n w = 1) =
          l.filter fun w => dependsOn (dag.dependencyMatrix w) u ∧ degrees w = 1 := by
      refine fun n => List.filter_congr fun w hw => ?_
      rw [update_of_ne (ne_of_mem_of_not_mem hw hv)]
    rw [List.foldl_cons, relax]
    split <;> rw [ih hl] <;> refine Prod.ext (funext fun w => ?_) ?_
    · grind [update_apply]
    · rw [hl']
      grind
    · grind
    · grind

/-- **One round**: the task at the head of the queue joins those that have left it. -/
lemma Sorted.step (h : Sorted dag P (degrees, u :: queue)) : Sorted dag (insert u P)
    ((firstTasks dag.taskCount).foldl (dag.relax u) (degrees, queue)) := by
  obtain ⟨hlt, hout, hnone⟩ := (h.queue u).mp List.mem_cons_self
  obtain ⟨hu, hnodup⟩ := List.nodup_cons.mp h.nodup
  have hmem : ∀ v, u ∈ dag.left P v ↔
      v ∈ firstTasks dag.taskCount ∧ dependsOn (dag.dependencyMatrix v) u := by
    simp [Waits, hlt, hout]
  rw [foldl_relax (nodup_firstTasks _)]
  refine ⟨fun v => ?_, fun v => ?_, ?_, fun v hv => ?_⟩
  · rw [left_insert, Finset.card_erase_eq_ite, ← h.degree]
    simp only [hmem]
  · have hq : v ∈ u :: queue ↔ _ := h.queue v
    rw [left_insert, List.mem_append, List.mem_filter, decide_eq_true_eq, ← and_assoc, ← hmem,
      show degrees v = _ from h.degree v, Finset.mem_insert]
    by_cases hv : u ∈ dag.left P v
    · -- the task has waited so far, so it is neither in the queue nor past it
      have hne : dag.left P v ≠ ∅ := Finset.ne_empty_of_mem hv
      have hlast : (dag.left P v).card = 1 ↔ (dag.left P v).erase u = ∅ := by
        have := Finset.card_pos.mpr ⟨u, hv⟩
        rw [← Finset.card_eq_zero, Finset.card_erase_of_mem hv]
        omega
      have hlt := mem_firstTasks.mp ((hmem v).mp hv).1
      grind [h.done v]
    · rw [Finset.erase_eq_of_notMem hv]
      grind
  · refine hnodup.append ((nodup_firstTasks _).filter _) fun v hv hf => ?_
    have h0 := ((h.queue v).mp (List.mem_cons_of_mem _ hv)).2.2
    have h1 := h.degree v
    simp_all
  · rw [left_insert]
    obtain rfl | hv := Finset.mem_insert.mp hv
    · refine ⟨hlt, by rw [hnone, Finset.erase_empty], fun hcycle => ?_⟩
      -- a cycle through the task would go through one that has left the queue before it
      obtain ⟨w, hw, hback⟩ := Relation.TransGen.head'_iff.mp hcycle
      have hwP : w ∈ P := by
        by_contra hwP
        exact Finset.notMem_empty w (hnone ▸ mem_left.mpr ⟨hw, hwP⟩)
      exact (h.done w hwP).2.2 (.tail' hback hw)
    · obtain ⟨h1, h2, h3⟩ := h.done v hv
      exact ⟨h1, by rw [h2, Finset.erase_empty], h3⟩

/-- The sort ends with an empty queue. -/
lemma Sorted.sort {p : Pending} (h : Sorted dag P p) (fuel : ℕ) (hf : 16 < fuel + P.card) :
    ∃ P' degrees, Sorted dag P' (degrees, []) ∧ dag.sort fuel p P.card = P'.card := by
  induction fuel generalizing P p with
  | zero =>
    have := P.card_le_univ
    rw [Fintype.card_fin] at this
    omega
  | succ fuel ih =>
    obtain ⟨degrees, queue⟩ := p
    cases queue with
    | nil => exact ⟨P, degrees, h, rfl⟩
    | cons u queue =>
      have hcard := Finset.card_insert_of_notMem ((h.queue u).mp List.mem_cons_self).2.1
      obtain ⟨P', d, h', hs⟩ := ih h.step (by omega)
      exact ⟨P', d, h', by rwa [hcard] at hs⟩

/-- With the queue empty, all tasks have left it just if there is no cycle. -/
lemma Sorted.card (h : Sorted dag P (degrees, [])) :
    P.card = min 16 dag.taskCount ↔ dag.Acyclic := by
  have hall : P ⊆ ({v | v.val < dag.taskCount} : Finset (Fin 16)) :=
    fun v hv => by simp [(h.done v hv).1]
  rw [← Fin.card_filter_val_lt]
  constructor
  · intro hcard v hcycle
    obtain ⟨w, hw, -⟩ := Relation.TransGen.head'_iff.mp hcycle
    have hv : v ∈ P := Finset.eq_of_subset_of_card_le hall hcard.ge ▸ by simp [hw.1]
    exact (h.done v hv).2.2 hcycle
  · intro hfree
    have : Std.Irrefl (Relation.TransGen (Function.swap dag.Waits)) :=
      ⟨fun v hv => hfree v (Relation.transGen_swap.mp hv)⟩
    refine congrArg _ (hall.antisymm fun v hv => ?_)
    rw [Finset.mem_filter_univ] at hv
    induction v using (Finite.wellFounded_of_trans_of_irrefl
      (Relation.TransGen (Function.swap dag.Waits))).induction with
    | _ v ih =>
      by_contra hvP
      -- what the task waits for has left the queue, so it would be in the empty queue
      refine List.not_mem_nil ((h.queue v).mpr ⟨hv, hvP, ?_⟩)
      refine Finset.eq_empty_of_forall_notMem fun u hu => ?_
      rw [mem_left] at hu
      exact hu.2 (ih u (.single hu.1) hu.1.2.1)

variable (tasks : Fin 16 → TaskDescriptor) (count : ℕ)

lemma sorted_start : Sorted (fromTasks tasks count) ∅ (fromTasks tasks count).start := by
  have hdeg : ∀ v, (fromTasks tasks count).inDegrees v =
      ((fromTasks tasks count).left ∅ v).card := by
    intro v
    by_cases hv : v.val < count
    · rw [show (fromTasks tasks count).inDegrees v = _ from if_pos hv,
        ← List.toFinset_card_of_nodup ((nodup_firstTasks _).filter _)]
      congr 1
      ext w
      simp [Waits, fromTasks, hv]
    · simp [left, Waits, fromTasks, hv]
  refine ⟨hdeg, fun v => ?_, (nodup_firstTasks _).filter _, by simp⟩
  rw [start, List.mem_filter, decide_eq_true_eq, hdeg, Finset.card_eq_zero]
  simp

lemma sort_card : (fromTasks tasks count).sort 17 (fromTasks tasks count).start 0 = min 16 count ↔
    (fromTasks tasks count).Acyclic := by
  obtain ⟨P, degrees, h, hsort⟩ := (sorted_start tasks count).sort 17 (by simp)
  rw [Finset.card_empty] at hsort
  rw [hsort]
  exact h.card

/-- **The sort accepts the graphs without a cycle**, and no others. -/
theorem verifyAcyclic_iff : (fromTasks tasks count).verifyAcyclic = .ok () ↔
    0 < count ∧ count ≤ 16 ∧ (fromTasks tasks count).Acyclic := by
  rw [← sort_card, verifyAcyclic, show (fromTasks tasks count).taskCount = count from rfl]
  by_cases hc : count = 0 ∨ count > 16
  · rw [if_pos hc]
    simp only [reduceCtorEq, false_iff]
    omega
  · rw [if_neg hc, min_eq_right (by omega)]
    split <;> simp_all
    omega

variable {tasks count}

lemma acyclic_of_ok (h : (fromTasks tasks count).verifyAcyclic = .ok ()) :
    (fromTasks tasks count).Acyclic := by
  rw [verifyAcyclic, show (fromTasks tasks count).taskCount = count from rfl] at h
  rw [← sort_card]
  split at h
  · cases h
  · split at h
    · omega
    · cases h

lemma acyclic_zero : (fromTasks tasks 0).Acyclic := by
  intro v hv
  obtain ⟨u, hu, -⟩ := Relation.TransGen.head'_iff.mp hv
  exact Nat.not_lt_zero _ hu.1

lemma Acyclic.congr {tasks' : Fin 16 → TaskDescriptor} (h : (fromTasks tasks count).Acyclic)
    (hd : ∀ i : Fin 16, i.val < count → (tasks' i).dependencies = (tasks i).dependencies) :
    (fromTasks tasks' count).Acyclic := by
  refine fun v hv => h v (Relation.TransGen.mono (fun a b hab => ?_) v v hv)
  obtain ⟨ha, hb, hab⟩ := hab
  exact ⟨ha, hb, by simpa [fromTasks, show a.val < count from ha, hd a ha] using hab⟩

end TaskDag

end ProjectZero.Libzero.Workload
