import ProjectZero.Lib.Run
import ProjectZero.Libzero.Resource

/-! # The durable allocator of distributed identifiers

`DistributedIdAllocator` hands out sequence numbers below a ceiling that it stores durably before
it passes it, so that a node that restarts begins above all numbers it has handed out. Commits may
fail, and the node may crash at any point, also between a commit and the end of the call.

Numbers are handed out once, in order and below the ceiling, as long as no call of `advance_floor`
fails for a floor that lies a batch beyond the ceiling (`harmless_iff`). -/

namespace ProjectZero.Libzero.Identity

open Lib.Run Resource

/-! ### The allocator -/

structure DistributedIdAllocator where
  nodeId : ℕ
  currentSeq : ℕ
  persistedCeiling : ℕ
  batchSize : ℕ
  deriving DecidableEq

/-- `write_and_commit_slot` on `DISTRIBUTED_ID_CEILING_SLOT`, with the error of the commit if it
fails. The second result is the value in the slot afterwards. -/
def writeAndCommitSlot (fault : Option ZeroError) (value slot : ℕ) : Except ZeroError Unit × ℕ :=
  match fault with
  | none => (.ok (), value)
  | some e => (.error e, slot)

/-- The next ceiling is committed, and then noted. -/
def raiseCeiling (a : DistributedIdAllocator) (next : Option ℕ) (fault : Option ZeroError)
    (slot : ℕ) : Except ZeroError Unit × DistributedIdAllocator × ℕ :=
  match next with
  | none => (.error .identifierExhausted, a, slot)
  | some ceiling =>
    match writeAndCommitSlot fault ceiling slot with
    | (.error e, slot) => (.error e, a, slot)
    | (.ok (), slot) => (.ok (), { a with persistedCeiling := ceiling }, slot)

def recoverOrInit (nodeId batchSize : ℕ) (readFault fault : Option ZeroError) (slot : ℕ) :
    Except ZeroError DistributedIdAllocator × ℕ :=
  match readFault with
  | some e => (.error e, slot)
  | none =>
    let a := { nodeId := nodeId, currentSeq := slot, persistedCeiling := slot,
               batchSize := batchSize }
    match raiseCeiling a (checkedAdd slot batchSize) fault slot with
    | (.error e, _, slot) => (.error e, slot)
    | (.ok (), a, slot) => (.ok a, slot)

/-- The step of `allocate_id` after the ceiling is high enough. -/
def nextId (a : DistributedIdAllocator) : Except ZeroError DistributedId × DistributedIdAllocator :=
  match checkedAdd a.currentSeq 1 with
  | none => (.error .identifierExhausted, a)
  | some seq => (.ok ⟨a.nodeId, seq⟩, { a with currentSeq := seq })

def allocateId (a : DistributedIdAllocator) (fault : Option ZeroError) (slot : ℕ) :
    Except ZeroError DistributedId × DistributedIdAllocator × ℕ :=
  if a.currentSeq ≥ a.persistedCeiling then
    match raiseCeiling a (checkedAdd a.persistedCeiling a.batchSize) fault slot with
    | (.error e, a, slot) => (.error e, a, slot)
    | (.ok (), a, slot) => ((nextId a).1, (nextId a).2, slot)
  else ((nextId a).1, (nextId a).2, slot)

def advanceFloor (a : DistributedIdAllocator) (floorSeq : ℕ) (fault : Option ZeroError)
    (slot : ℕ) : Except ZeroError Unit × DistributedIdAllocator × ℕ :=
  if floorSeq > a.currentSeq then
    let a := { a with currentSeq := floorSeq }
    if a.currentSeq ≥ a.persistedCeiling then
      raiseCeiling a (checkedAdd a.currentSeq a.batchSize) fault slot
    else (.ok (), a, slot)
  else (.ok (), a, slot)

/-! ### A node over time -/

/-- A number handed out, with the ceiling in the slot at that moment. -/
structure Issue where
  id : DistributedId
  ceiling : ℕ
  deriving DecidableEq

/-- The slot, the allocator if the node is up, and what was handed out, the last one first. -/
structure Node where
  slot : ℕ
  allocator : Option DistributedIdAllocator
  issued : List Issue

/-- A call, with the faults it meets. -/
inductive Call
  | recover (batchSize : ℕ) (pos : 1 ≤ batchSize) (readFault fault : Option ZeroError)
  | allocate (fault : Option ZeroError)
  | advance (floorSeq : Fin (2 ^ 64)) (fault : Option ZeroError)

/-- A call runs to its end, or the node crashes: between two calls, or in a call, after its commit if
it makes one. -/
inductive Event
  | call (c : Call)
  | crash (during : Option Call)

/-- The node after an `allocate_id`. -/
def Node.after (s : Node) : Except ZeroError DistributedId × DistributedIdAllocator × ℕ → Node
  | (.error _, a, slot) => { s with slot := slot, allocator := some a }
  | (.ok id, a, slot) => { slot := slot, allocator := some a, issued := ⟨id, slot⟩ :: s.issued }

/-- What a call leaves. Without an allocator only `recover_or_init` can be called. -/
def Call.run (nodeId : ℕ) (s : Node) : Call → Node
  | .recover batchSize _ readFault fault =>
    match recoverOrInit nodeId batchSize readFault fault s.slot with
    | (.error _, slot) => { s with slot := slot, allocator := none }
    | (.ok a, slot) => { s with slot := slot, allocator := some a }
  | .allocate fault =>
    match s.allocator with
    | none => s
    | some a => s.after (allocateId a fault s.slot)
  | .advance floorSeq fault =>
    match s.allocator with
    | none => s
    | some a =>
      { s with slot := (advanceFloor a floorSeq fault s.slot).2.2
               allocator := some (advanceFloor a floorSeq fault s.slot).2.1 }

def step (nodeId : ℕ) (s : Node) : Event → Node
  | .call c => c.run nodeId s
  | .crash none => { s with allocator := none }
  | .crash (some c) => { slot := (c.run nodeId s).slot, allocator := none, issued := s.issued }

/-- **The promise**: the numbers increase, and each was covered by the ceiling. -/
structure Promise (s : Node) : Prop where
  increasing : s.issued.Pairwise fun later earlier => earlier.id.localSeq < later.id.localSeq
  covered : ∀ i ∈ s.issued, i.id.localSeq ≤ i.ceiling

/-- The step is not an `advance_floor` to a floor a batch beyond the ceiling, of which the commit
fails or the new ceiling overflows. A floor that is no advance is exempt, and so is the last word,
since no number follows it. -/
def Harmless (s : Node) : Event → Prop
  | .call (.advance floorSeq fault) => ∀ a ∈ s.allocator,
      fault ≠ none ∨ 2 ^ 64 ≤ floorSeq.val + a.batchSize →
        floorSeq ≤ a.currentSeq ∨ floorSeq < a.persistedCeiling + a.batchSize ∨
          floorSeq.val + 1 = 2 ^ 64
  | _ => True

def HarmlessStep (nodeId : ℕ) (s s' : Node) : Prop := ∃ e, Harmless s e ∧ s' = step nodeId s e

/-- A node that has not started, with any value in the slot. -/
def Fresh (s : Node) : Prop := s.allocator = none ∧ s.issued = []

/-! ### The invariant -/

/-- The allocator knows the ceiling, is above all numbers, and not a batch beyond the ceiling. -/
structure Ahead (s : Node) (a : DistributedIdAllocator) : Prop where
  pos : 1 ≤ a.batchSize
  ceiling : a.persistedCeiling = s.slot
  above : ∀ i ∈ s.issued, i.id.localSeq ≤ a.currentSeq
  near : a.currentSeq < s.slot + a.batchSize ∨ a.currentSeq + 1 = 2 ^ 64

/-- What harmless steps keep. -/
structure Inv (s : Node) : Prop extends Promise s where
  below : ∀ i ∈ s.issued, i.id.localSeq ≤ s.slot
  ahead : ∀ a ∈ s.allocator, Ahead s a

variable {s : Node} {slot nodeId : ℕ}

lemma Inv.down (h : Inv s) (hle : s.slot ≤ slot) :
    Inv { s with slot := slot, allocator := none } where
  increasing := h.increasing
  covered := h.covered
  below i hi := (h.below i hi).trans hle
  ahead a ha := by cases ha

variable {a : DistributedIdAllocator}

section

variable (h : Inv s) (hle : s.slot ≤ slot) (ha : Ahead { s with slot := slot } a)

include h hle ha

lemma Inv.up : Inv { s with slot := slot, allocator := some a } where
  increasing := h.increasing
  covered := h.covered
  below i hi := (h.below i hi).trans hle
  ahead b hb := by
    cases hb
    exact ⟨ha.pos, ha.ceiling, ha.above, ha.near⟩

lemma Inv.issue {seq : ℕ} (hseq : a.currentSeq + 1 = seq) (hcov : seq ≤ slot) :
    Inv { slot := slot, allocator := some { a with currentSeq := seq },
          issued := ⟨⟨a.nodeId, seq⟩, slot⟩ :: s.issued } := by
  have hnew : ∀ i ∈ s.issued, i.id.localSeq < seq := by
    intro i hi
    have hi' := ha.above i hi
    omega
  have hpos := ha.pos
  refine ⟨⟨List.pairwise_cons.mpr ⟨hnew, h.increasing⟩, ?_⟩, ?_, ?_⟩
  · intro i hi
    rcases List.mem_cons.mp hi with rfl | hi
    · exact hcov
    · exact h.covered i hi
  · intro i hi
    rcases List.mem_cons.mp hi with rfl | hi
    · exact hcov
    · exact (h.below i hi).trans hle
  intro b hb
  cases hb
  refine ⟨hpos, ha.ceiling, ?_, .inl ?_⟩
  · intro i hi
    rcases List.mem_cons.mp hi with rfl | hi
    · exact le_rfl
    · exact (hnew i hi).le
  dsimp only
  omega

end

/-! ### One call -/

lemma raiseCeiling_cases (a : DistributedIdAllocator) (next : Option ℕ) (fault : Option ZeroError)
    (slot : ℕ) : (∃ e, (fault ≠ none ∨ next = none) ∧
        raiseCeiling a next fault slot = (.error e, a, slot)) ∨
      ∃ ceiling, (fault = none ∧ next = some ceiling) ∧
        raiseCeiling a next fault slot = (.ok (), { a with persistedCeiling := ceiling }, ceiling) := by
  cases next with
  | none => exact .inl ⟨_, .inr rfl, rfl⟩
  | some ceiling =>
    cases fault with
    | none => exact .inr ⟨ceiling, ⟨rfl, rfl⟩, rfl⟩
    | some e => exact .inl ⟨e, .inl nofun, rfl⟩

lemma checkedAdd_eq_none_iff {x y : ℕ} : checkedAdd x y = none ↔ 2 ^ 64 ≤ x + y := by
  unfold checkedAdd
  split <;> simp <;> omega

lemma inv_recover (h : Inv s) (nodeId : ℕ) {batchSize : ℕ} (pos : 1 ≤ batchSize)
    (readFault fault : Option ZeroError) :
    Inv (Call.run nodeId s (.recover batchSize pos readFault fault)) ∧
      s.slot ≤ (Call.run nodeId s (.recover batchSize pos readFault fault)).slot := by
  unfold Call.run recoverOrInit
  cases readFault with
  | some e => exact ⟨h.down le_rfl, le_rfl⟩
  | none =>
    dsimp only
    rcases raiseCeiling_cases ⟨nodeId, s.slot, s.slot, batchSize⟩ (checkedAdd s.slot batchSize)
      fault s.slot with ⟨e, -, he⟩ | ⟨ceiling, ⟨-, hnext⟩, he⟩
    · rw [he]
      exact ⟨h.down le_rfl, le_rfl⟩
    rw [he]
    obtain ⟨rfl, -⟩ := checkedAdd_eq_some hnext
    have hle : s.slot ≤ s.slot + batchSize := Nat.le_add_right _ _
    refine ⟨h.up hle ⟨pos, rfl, h.below, .inl ?_⟩, hle⟩
    dsimp only
    omega

lemma Node.after_slot (s : Node) (r : Except ZeroError DistributedId × DistributedIdAllocator × ℕ) :
    (s.after r).slot = r.2.2 := by
  obtain ⟨r, a, slot⟩ := r
  cases r <;> rfl

lemma inv_nextId (h : Inv s) (hle : s.slot ≤ slot) (ha : Ahead { s with slot := slot } a)
    (hroom : a.currentSeq + 1 ≤ slot ∨ a.currentSeq + 1 = 2 ^ 64) :
    Inv (s.after ((nextId a).1, (nextId a).2, slot)) := by
  unfold nextId
  cases hnext : checkedAdd a.currentSeq 1 with
  | none => exact h.up hle ha
  | some seq =>
    obtain ⟨hseq, hlt⟩ := checkedAdd_eq_some hnext
    exact h.issue hle ha hseq.symm (by omega)

lemma inv_allocate (h : Inv s) (ha : Ahead s a)
    (fault : Option ZeroError) : Inv (s.after (allocateId a fault s.slot)) ∧
      s.slot ≤ (s.after (allocateId a fault s.slot)).slot := by
  have hceil := ha.ceiling
  have hnear := ha.near
  rw [Node.after_slot]
  unfold allocateId
  by_cases hfull : a.currentSeq ≥ a.persistedCeiling
  · rw [if_pos hfull]
    rcases raiseCeiling_cases a (checkedAdd a.persistedCeiling a.batchSize) fault s.slot with
      ⟨e, -, he⟩ | ⟨ceiling, ⟨-, hnext⟩, he⟩
    · rw [he]
      exact ⟨h.up le_rfl ha, le_rfl⟩
    rw [he]
    obtain ⟨rfl, -⟩ := checkedAdd_eq_some hnext
    have hle : s.slot ≤ a.persistedCeiling + a.batchSize := by omega
    refine ⟨inv_nextId h hle ⟨ha.pos, rfl, ha.above, ?_⟩ ?_, hle⟩
    · dsimp only
      omega
    dsimp only
    omega
  rw [if_neg hfull]
  exact ⟨inv_nextId h le_rfl ha (by omega), le_rfl⟩

lemma slot_le_advanceFloor
    (hceil : a.persistedCeiling = slot) (floorSeq : ℕ) (fault : Option ZeroError) :
    slot ≤ (advanceFloor a floorSeq fault slot).2.2 := by
  unfold advanceFloor
  by_cases hup : floorSeq > a.currentSeq
  · rw [if_pos hup]
    by_cases hfull : floorSeq ≥ a.persistedCeiling
    · rw [if_pos hfull]
      rcases raiseCeiling_cases { a with currentSeq := floorSeq }
        (checkedAdd floorSeq a.batchSize) fault slot with ⟨e, -, he⟩ | ⟨ceiling, ⟨-, hnext⟩, he⟩
      · rw [he]
      rw [he]
      obtain ⟨rfl, -⟩ := checkedAdd_eq_some hnext
      dsimp only
      omega
    · rw [if_neg hfull]
  · rw [if_neg hup]

/-- The floor is moved; if the ceiling cannot be raised, it must not be far. -/
lemma inv_advance (h : Inv s) (ha : Ahead s a) (floorSeq : ℕ) (fault : Option ZeroError)
    (hsafe : fault ≠ none ∨ 2 ^ 64 ≤ floorSeq + a.batchSize → floorSeq ≤ a.currentSeq ∨
      floorSeq < a.persistedCeiling + a.batchSize ∨ floorSeq + 1 = 2 ^ 64) :
    Inv { s with slot := (advanceFloor a floorSeq fault s.slot).2.2
                 allocator := some (advanceFloor a floorSeq fault s.slot).2.1 } := by
  have hceil := ha.ceiling
  have hpos := ha.pos
  refine h.up (slot_le_advanceFloor hceil floorSeq fault) ?_
  unfold advanceFloor
  by_cases hup : floorSeq > a.currentSeq
  · rw [if_pos hup]
    have habove : ∀ i ∈ s.issued, i.id.localSeq ≤ floorSeq := by
      intro i hi
      have hi' := ha.above i hi
      omega
    by_cases hfull : floorSeq ≥ a.persistedCeiling
    · rw [if_pos hfull]
      rcases raiseCeiling_cases { a with currentSeq := floorSeq }
        (checkedAdd floorSeq a.batchSize) fault s.slot with ⟨e, hfail, he⟩ | ⟨ceiling, ⟨-, hnext⟩, he⟩
      · rw [he]
        rw [checkedAdd_eq_none_iff] at hfail
        have hfloor := (hsafe hfail).resolve_left (Nat.not_le.mpr hup)
        rw [hceil] at hfloor
        exact ⟨hpos, hceil, habove, hfloor⟩
      rw [he]
      obtain ⟨rfl, -⟩ := checkedAdd_eq_some hnext
      refine ⟨hpos, rfl, habove, .inl ?_⟩
      dsimp only
      omega
    rw [if_neg hfull]
    refine ⟨hpos, hceil, habove, .inl ?_⟩
    dsimp only
    omega
  rw [if_neg hup]
  exact ha

/-! ### Runs -/

/-- A call changes the slot only upwards; harmless ones keep the invariant. -/
lemma inv_run (h : Inv s) (nodeId : ℕ) (c : Call) :
    (Harmless s (.call c) → Inv (c.run nodeId s)) ∧ s.slot ≤ (c.run nodeId s).slot := by
  cases c with
  | recover batchSize pos readFault fault =>
    obtain ⟨hinv, hle⟩ := inv_recover h nodeId pos readFault fault
    exact ⟨fun _ => hinv, hle⟩
  | allocate fault =>
    rw [Call.run]
    cases hs : s.allocator with
    | none => exact ⟨fun _ => h, le_rfl⟩
    | some a =>
      obtain ⟨hinv, hle⟩ := inv_allocate h (h.ahead a hs) fault
      exact ⟨fun _ => hinv, hle⟩
  | advance floorSeq fault =>
    rw [Call.run]
    cases hs : s.allocator with
    | none => exact ⟨fun _ => h, le_rfl⟩
    | some a =>
      have ha := h.ahead a hs
      exact ⟨fun hsafe => inv_advance h ha floorSeq fault (hsafe a hs),
        slot_le_advanceFloor ha.ceiling floorSeq fault⟩

/-- **One step.** -/
lemma inv_step {s' : Node} (h : Inv s) (hs : HarmlessStep nodeId s s') : Inv s' := by
  obtain ⟨e, hsafe, rfl⟩ := hs
  cases e with
  | call c => exact (inv_run h nodeId c).1 hsafe
  | crash during =>
    cases during with
    | none => exact h.down le_rfl
    | some c => exact h.down (inv_run h nodeId c).2

lemma inv_fresh (h : Fresh s) : Inv s := by
  obtain ⟨hup, hissued⟩ := h
  refine ⟨⟨?_, ?_⟩, ?_, ?_⟩
  · rw [hissued]
    exact List.Pairwise.nil
  · rw [hissued]
    simp
  · rw [hissued]
    simp
  rw [hup]
  simp

abbrev HarmlessRun (nodeId : ℕ) : Node → Prop := Reach Fresh (HarmlessStep nodeId)

lemma HarmlessRun.inv (h : HarmlessRun nodeId s) : Inv s :=
  Reach.invariant (I := Inv) (fun _ => inv_fresh) (fun _ _ hi hs => inv_step hi hs) h

/-- An `advance_floor` that fails has moved the sequence. -/
lemma advanceFloor_fails {floorSeq : ℕ} {fault : Option ZeroError} (hup : a.currentSeq < floorSeq)
    (hfull : a.persistedCeiling ≤ floorSeq)
    (hfail : fault ≠ none ∨ 2 ^ 64 ≤ floorSeq + a.batchSize) :
    (advanceFloor a floorSeq fault slot).2 = ({ a with currentSeq := floorSeq }, slot) := by
  unfold advanceFloor
  rw [if_pos hup]
  dsimp only
  rw [if_pos hfull]
  rcases raiseCeiling_cases { a with currentSeq := floorSeq } (checkedAdd floorSeq a.batchSize)
    fault slot with ⟨e, -, he⟩ | ⟨ceiling, ⟨hnone, hnext⟩, -⟩
  · rw [he]
  rcases hfail with hfail | hfail
  · exact absurd hnone hfail
  · rw [checkedAdd_eq_none_iff.mpr hfail] at hnext
    cases hnext

/-- One allocation after a harmful call hands out a number above the ceiling. -/
lemma not_promise_allocate (nodeId : ℕ) {floorSeq : ℕ}
    (hs : s.allocator = some { a with currentSeq := floorSeq })
    (hfar : a.persistedCeiling + a.batchSize ≤ floorSeq) (hpos : 1 ≤ a.batchSize)
    (hlt : floorSeq + 1 < 2 ^ 64) : ¬Promise (Call.run nodeId s (.allocate none)) := by
  intro hp
  have hnext : checkedAdd a.persistedCeiling a.batchSize =
      some (a.persistedCeiling + a.batchSize) := if_pos (by omega)
  have hseq : checkedAdd floorSeq 1 = some (floorSeq + 1) := if_pos hlt
  have hrun : Call.run nodeId s (.allocate none) =
      { slot := a.persistedCeiling + a.batchSize
        allocator := some { a with
          persistedCeiling := a.persistedCeiling + a.batchSize, currentSeq := floorSeq + 1 }
        issued := ⟨⟨a.nodeId, floorSeq + 1⟩, a.persistedCeiling + a.batchSize⟩ :: s.issued } := by
    rw [Call.run, hs]
    dsimp only
    rw [allocateId]
    dsimp only
    rw [if_pos (by omega), hnext]
    dsimp only [raiseCeiling, writeAndCommitSlot, nextId]
    rw [hseq]
    rfl
  have hcov := hp.covered ⟨⟨a.nodeId, floorSeq + 1⟩, a.persistedCeiling + a.batchSize⟩ (by
    rw [hrun]
    exact List.mem_cons_self)
  dsimp only at hcov
  omega

/-- **No number is handed out twice**, as long as the steps are harmless; and a step is harmless if
all that can follow it by harmless steps keeps the promise. -/
theorem harmless_iff (h : HarmlessRun nodeId s) :
    Promise s ∧ ∀ e, Harmless s e ↔
      ∀ s', Reach (· = step nodeId s e) (HarmlessStep nodeId) s' → Promise s' := by
  refine ⟨h.inv.toPromise, fun e => ⟨fun hsafe s' hrun => ?_, fun hall => ?_⟩⟩
  · have hstart : Inv (step nodeId s e) := inv_step h.inv ⟨e, hsafe, rfl⟩
    have hinv : Inv s' := Reach.invariant (I := Inv) (fun t (ht : t = _) => ht ▸ hstart)
      (fun _ _ hi hs => inv_step hi hs) hrun
    exact hinv.toPromise
  cases e with
  | crash during => trivial
  | call c =>
    cases c with
    | recover batchSize pos readFault fault => trivial
    | allocate fault => trivial
    | advance floorSeq fault =>
      intro a ha hfail
      by_contra hfar
      push Not at hfar
      have hahead := h.inv.ahead a ha
      have hmoved : (advanceFloor a floorSeq.val fault s.slot).2 =
          ({ a with currentSeq := floorSeq.val }, s.slot) :=
        advanceFloor_fails hfar.1 (by omega) hfail
      have hlt := floorSeq.isLt
      have halloc : (step nodeId s (.call (.advance floorSeq fault))).allocator =
          some { a with currentSeq := floorSeq.val } := by
        rw [step, Call.run, ha]
        dsimp only
        rw [hmoved]
      refine not_promise_allocate nodeId halloc hfar.2.1 hahead.pos (by omega)
        (hall _ (.next (.start rfl) ⟨.call (.allocate none), trivial, rfl⟩))

/-- A node that advances the floor, crashes, and meets a failing commit for a floor that is near. -/
theorem harmless_iff_restarted : ∃ s, HarmlessRun 7 s ∧
    s.issued.map (·.id.localSeq) = [10, 8, 6, 1] ∧ Promise s := by
  have h₁ : HarmlessRun 7 (step 7 ⟨0, none, []⟩ (.call (.recover 2 (by decide) none none))) :=
    .next (.start ⟨rfl, rfl⟩) ⟨.call (.recover 2 (by decide) none none), trivial, rfl⟩
  have h₂ := h₁.next ⟨.call (.allocate none), trivial, rfl⟩
  have h₃ := h₂.next ⟨.call (.advance 5 none), fun a ha hfail => ?_, rfl⟩
  have h₄ := h₃.next ⟨.call (.allocate none), trivial, rfl⟩
  have h₅ := h₄.next ⟨.crash none, trivial, rfl⟩
  have h₆ := h₅.next ⟨.call (.recover 2 (by decide) none none), trivial, rfl⟩
  have h₇ := h₆.next ⟨.call (.allocate none), trivial, rfl⟩
  have h₈ := h₇.next ⟨.call (.advance 9 (some .serviceFailed)), fun a ha _ => ?_, rfl⟩
  have h₉ := h₈.next ⟨.call (.allocate none), trivial, rfl⟩
  · exact ⟨_, h₉, by decide +kernel, (harmless_iff h₉).1⟩
  · cases ha
    exact .inr (.inl (by decide))
  · cases ha
    exact absurd hfail (by decide)

/-- **A number handed out twice.** The commit of `advance_floor` fails, the next allocation raises the
ceiling by one batch and hands out a number above it; after a crash the number comes again. -/
theorem number_issued_twice :
    let s := [Event.call (.recover 1 le_rfl none none), .call (.advance 2 (some .serviceFailed)),
      .call (.allocate none), .crash none, .call (.recover 1 le_rfl none none),
      .call (.allocate none)].foldl (step 7) ⟨0, none, []⟩
    s.issued.map (·.id) = [⟨7, 3⟩, ⟨7, 3⟩] ∧ ¬Promise s := by
  intro s
  have hissued : s.issued = [⟨⟨7, 3⟩, 3⟩, ⟨⟨7, 3⟩, 2⟩] := by decide
  refine ⟨by rw [hissued]; rfl, fun hp => ?_⟩
  have hcov := hp.covered ⟨⟨7, 3⟩, 2⟩ (by rw [hissued]; simp)
  dsimp only at hcov
  omega

end ProjectZero.Libzero.Identity
