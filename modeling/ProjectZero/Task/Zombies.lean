import ProjectZero.Ipc.Footprint

/-! # What process exit does to the table of processes

The process of the caller becomes a zombie, and the table stays as it is otherwise. -/

namespace ProjectZero.Task.Zombies

open Lib.Run Tables Cap.Ops Ipc.Handle Ipc.Footprint Process

variable {k k' : Kernel}

def SameTable (k k' : Kernel) : Prop := k'.process = k.process

lemma SameTable.trans {k₁ k₂ k₃ : Kernel} (h : SameTable k₁ k₂) (h' : SameTable k₂ k₃) :
    SameTable k₁ k₃ := Eq.trans (show k₃.process = k₂.process from h') h

lemma closeAndReclaim_table (k : Kernel) (s : Slot) :
    Leaves (SameTable k) (closeAndReclaimCapabilityLocked k s) := by
  refine .bind (capabilityClose_rest k s) fun r h1 => ?_
  obtain ⟨res, k1⟩ := r
  replace h1 : SameTable k k1 := (congrArg Kernel.process h1 :)
  cases res with
  | error e => exact h1
  | ok r =>
    simp only
    split
    · split
      · exact .bind (releaseEndpoint_moves rfl k1 _ _) fun _ h2 =>
          h1.trans (process_of_moves (by decide) h2)
      · exact .bind (reclaimShm_moves rfl k1 _) fun _ h2 =>
          h1.trans (process_of_moves (by decide) h2)
      · exact h1
    · exact h1

lemma sweepHandle_table (p : PSlot) (k : Kernel) (h : HSlot) :
    Ensures (SameTable k) (sweepHandle p k h) := by
  unfold sweepHandle
  split
  · exact .bind (closeAndReclaim_table k (p, h)) fun _ hk => hk
  · exact rfl

lemma exitCleanup_table (k : Kernel) (p : PSlot) (pid : ℕ) (root : PhysFrame) :
    Ensures (SameTable k) (processExitCapabilityCleanupLocked k p pid root) := by
  refine .bind (P := SameTable k) (holds_foldlM (fun k' j h =>
    (sweepMapping_moves rfl pid root k' j).mono fun _ hm =>
      h.trans (process_of_moves (by decide) hm)) _ rfl) fun k1 h1 => ?_
  refine .bind (P := SameTable k) (holds_foldlM (fun k' n h =>
    (sweepHandle_table p k' n).mono fun _ => h.trans) _ h1) fun k2 h2 => ?_
  split
  · exact h2
  · trivial

lemma processExit_table {t : TSlot} (h : processExit k t = .ok k') :
    ∃ p, (k.process p).occupied ∧ (k.process p).id = (k.thread t).processId ∧
      (k.process p).id ≠ 0 ∧ (k.process p).state = .active ∧
      k'.process = update k.process p { k.process p with state := .zombie } := by
  unfold processExit at h
  simp only at h
  split at h
  · cases h
  rename_i hpid
  split at h
  · cases h
  rename_i p hfind
  have hp := List.find?_some hfind
  simp only [Bool.and_eq_true, decide_eq_true_eq] at hp
  split at h
  · cases h
  rename_i hstate
  obtain ⟨k1, hk1, h⟩ := bind_eq_ok h
  obtain ⟨k2, hk2, h⟩ := bind_eq_ok h
  cases h
  refine ⟨p, hp.1.2, hp.2, by rw [hp.2]; exact hpid, not_not.mp hstate, ?_⟩
  have h1 : SameTable _ k1 := (holds_foldlM (I := SameTable _) (fun k' u h =>
    (releaseCancelled_moves (A := fun _ => False) _ k' u).mono fun _ hm =>
      h.trans (process_of_moves id hm)) _ rfl).of_ok hk1
  have h2 := (exitCleanup_table k1 p _ _).of_ok hk2
  exact h1.trans h2

end ProjectZero.Task.Zombies
