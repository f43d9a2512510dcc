import ProjectZero.Ipc.Generations
import ProjectZero.Task.Accounting

/-! # Sends and receives through revoked handles

A revocation makes the handles of the descendants stale: the generations of their slots move on, and
no later call gets past the check of its handle. A call that sleeps has made its check before, and
only looks at the closed flags of the channel when it wakes, so it can still come through. -/

namespace ProjectZero.Ipc.Revoked

open Lib.Run Lib.Tree Tables Cap.Node Cap.Ops Cap.RevokeLoop Cap.Calls
open Ipc.Channel Ipc.Handle Steps Generations

variable {σ σ' : System}

/-! ### Generations along a run -/

lemma sound_of_reach (h : Reach Boot (Next fun _ _ => True) σ) : Sound σ.kernel :=
  (Task.Accounting.good_of_run h).sound

/-! ### Calls and their handles -/

/-- The call that a stretch goes on with or has completed. -/
def Progress.call : Progress → Option Pending
  | .failed _ => none
  | .completed c _ => some c
  | .asleep c => some c

/-- The stretch is one of the call `c`. -/
def Of (c : Pending) (r : Progress × Kernel) : Prop := ∀ c', Progress.call r.1 = some c' → c' = c

section

variable (k : Kernel) (t : TSlot)

lemma finish_of {c : Pending} {r : Progress} (h : Of c (r, k)) : Ensures (Of c) (finish k t c r) :=
  Holds.bind (ensures_true _) fun _ _ => h

lemma failed_of (c : Pending) (e : IpcError) : Ensures (Of c) (finish k t c (.failed e)) :=
  finish_of k t fun c' h => by simp [Progress.call] at h

lemma complete_of (c : Pending) (msg : Option IpcMessage)
    (r : ChannelRing) : Ensures (Of c) (complete k t c msg r) :=
  Holds.bind (ensures_true _) fun k1 _ =>
    finish_of k1 t (r := .completed c msg) fun c' h => by simpa [Progress.call] using h.symm

lemma wait_of (c : Pending) : Ensures (Of c) (wait k t c) := by
  unfold wait
  split
  · exact failed_of k t c _
  · exact .bind (ensures_true _) fun _ _ c' h => by simpa [Progress.call] using h.symm

lemma callRound_of (c : Pending) : Ensures (Of c) (callRound k t c) := by
  unfold callRound
  simp only
  split
  · exact failed_of k t c _
  · exact complete_of k t c _ _
  · exact wait_of k t c
  · exact complete_of k t c _ _
  · exact failed_of k t c _
  · exact wait_of k t c

lemma resume_of (c : Pending) : Ensures (Of c) (resume k t c) := by
  unfold resume
  simp only
  split
  · split
    · exact failed_of k t c _
    · exact callRound_of k t c
  · exact failed_of k t c _
  · exact callRound_of k t c

/-- A call that gets past its checks was made with a handle that denotes a capability. -/
lemma channelCall_denotes (h : Handle) (action : Action)
    (blocking : Bool) : Ensures (fun r => ∀ c, Progress.call r.1 = some c → c.handle = h ∧
      ∃ s, Denotes k c.process h s) (channelCall k t h action blocking) := by
  have hfail : ∀ (e : IpcError) (c : Pending), Progress.call (.failed e) = some c →
      c.handle = h ∧ ∃ s, Denotes k c.process h s := fun e c hc => by simp [Progress.call] at hc
  unfold channelCall
  split
  · exact hfail _
  split
  · exact hfail _
  rename_i hv
  split
  · exact hfail _
  split
  · trivial
  split
  · exact hfail _
  obtain ⟨s, hden, -⟩ := validateHandle_ok hv
  refine (callRound_of _ t _).mono fun r hr c hc => ?_
  rw [hr c hc]
  exact ⟨rfl, s, hden⟩

end

/-! ### Dead handles -/

/-- The call was made by the process `p` with the handle `h`. -/
def Through (c : Pending) (p : PSlot) (h : Handle) : Prop := c.process = p ∧ c.handle = h

def Unused (σ : System) (p : PSlot) (h : Handle) : Prop :=
  ∀ t c, σ.pending t = some c → ¬ Through c p h

/-- The outcome of a step without the handle: no call in flight, and none completed. -/
def Without (p : PSlot) (h : Handle) (r : Option Delivery × System) : Prop :=
  Unused r.2 p h ∧ ∀ D, r.1 = some D → ¬ Through D.call p h

variable {p : PSlot} {h : Handle}

lemma only_without (hu : Unused σ p h) {α : Type} (x : Except Halt (α × Kernel)) :
    Ensures (Without p h) (σ.only x) :=
  Holds.bind (ensures_true x) fun _ _ => ⟨hu, fun _ e => by cases e⟩

lemma settle_without (hu : Unused σ p h) {t : TSlot} {x : Except Halt (Progress × Kernel)}
    (hx : Ensures (fun r => ∀ c, Progress.call r.1 = some c → ¬Through c p h) x) :
    Ensures (Without p h) (σ.settle t x) := by
  refine .bind hx fun ⟨r, k'⟩ hr => ?_
  have hnone : Unused { kernel := k', pending := update σ.pending t none } p h := by
    intro u c hc
    by_cases hut : u = t
    · subst hut
      simp at hc
    simp only [update_of_ne hut] at hc
    exact hu u c hc
  cases r with
  | failed e => exact ⟨hnone, fun _ e => by cases e⟩
  | completed c msg =>
    refine ⟨hnone, fun D e => ?_⟩
    cases e
    exact hr c rfl
  | asleep c =>
    refine ⟨fun u c' hc => ?_, fun _ e => by cases e⟩
    by_cases hut : u = t
    · subst hut
      simp only [update_self, Option.some.injEq] at hc
      subst hc
      exact hr c rfl
    simp only [update_of_ne hut] at hc
    exact hu u c' hc

variable {k : Kernel}

lemma channelCall_without (hdead : ∀ s, ¬Denotes k p h s) (t : TSlot) (h' : Handle)
    (action : Action) (blocking : Bool) :
    Ensures (fun r => ∀ c, Progress.call r.1 = some c → ¬Through c p h)
      (channelCall k t h' action blocking) := by
  refine (channelCall_denotes k t h' action blocking).mono fun r hr c hc hthrough => ?_
  obtain ⟨hh, s, hden⟩ := hr c hc
  obtain ⟨hp, hh'⟩ := hthrough
  rw [← hh, hp, hh'] at hden
  exact hdead s hden

/-- **A handle that denotes nothing** is of no use in the next step. -/
lemma exec_without (hu : Unused σ p h) (hdead : ∀ s, ¬Denotes σ.kernel p h s) (op : Op) :
    Ensures (Without p h) (op.exec σ) := by
  have hstay : ∀ k', Without p h (none, { σ with kernel := k' }) := fun k' =>
    ⟨hu, fun _ e => by cases e⟩
  cases op with
  | call t c =>
    cases c with
    | channelSend | channelReceive =>
      exact settle_without hu (channelCall_without hdead t _ _ _)
    | _ => exact only_without hu _
  | resume t =>
    simp only [Op.exec]
    split
    · exact hstay σ.kernel
    rename_i c hc
    refine settle_without hu ((resume_of σ.kernel t c).mono fun r hr c' hc' => ?_)
    rw [hr c' hc']
    exact hu t c hc
  | schedule | preempt => exact hstay _
  | _ => exact only_without hu _

variable {s d : Slot}

lemma entry_of_revoked {k₁ : Kernel} (hs : Sound k) {n : ℕ}
    (hrev : capabilityRevokeDescendantsLocked k s = .ok (.ok n, k₁))
    (hd : Desc (Live k.entry) (links k.node) s d) : k₁.entry d = vacate (k.entry d) := by
  have hE : Ensures (fun r => ∀ m, r.1 = .ok m → r.2.entry d = vacate (k.entry d))
      (capabilityRevokeDescendantsLocked k s) := by
    unfold capabilityRevokeDescendantsLocked
    split
    · exact fun _ e => by cases e
    rename_i hl
    iterate 2
      split
      · exact fun _ e => by cases e
    have hlive : Live k.entry s := by simpa [Live] using hl
    refine .bind (revokeTree_spec (Q := fun _ _ => True) hs.forest hlive
      trivial fun _ _ _ _ _ _ _ => ensures_true _) fun r hr => ?_
    obtain ⟨dn, _, hmem, hP, _⟩ := hr
    exact fun _ _ => hP.entry_in d ((hmem d).mpr hd)
  exact hE.of_ok hrev n rfl

lemma not_denotes (hi : h.slotIndex = d.2)
    (hg : (k.entry d).handleGeneration ≠ h.generation) (s : Slot) : ¬Denotes k d.1 h s := by
  intro hden
  have hsd : s = d := Prod.ext hden.process (Fin.ext (hden.index.symm.trans hi))
  rw [← hsd] at hg
  exact hg hden.generation

/-- **A revoked handle delivers nothing**: no send or receive with it comes through after the
revocation, if none is in flight when the revocation happens and the slot of the handle does not go
through all its generations. -/
theorem revoked_handle_undelivered {σ₀ : System} {n : ℕ} {k₁ : Kernel}
    (h0 : Reach Boot (Next fun _ _ => True) σ₀)
    (hrev : capabilityRevokeDescendantsLocked σ₀.kernel s = .ok (.ok n, k₁))
    (hd : Desc (Live σ₀.kernel.entry) (links σ₀.kernel.node) s d)
    (hh : Denotes σ₀.kernel d.1 h d) (hidle : Unused σ₀ d.1 h)
    (hrun : Reach (· = { σ₀ with kernel := k₁ })
      (Next fun τ _ => bumpGeneration (τ.kernel.entry d).handleGeneration ≠ h.generation) σ)
    {op : Op} {D : Delivery} (hstep : Step σ op (some D) σ') : ¬ Through D.call d.1 h := by
  have hs0 := sound_of_reach h0
  have hinv : Sound σ.kernel ∧ (σ.kernel.entry d).handleGeneration ≠ h.generation ∧
      Unused σ d.1 h := by
    refine Reach.invariant (I := fun τ => Sound τ.kernel ∧
      (τ.kernel.entry d).handleGeneration ≠ h.generation ∧ Unused τ d.1 h) (fun τ e => ?_)
      (fun τ τ' hI hn => ?_) hrun
    · subst e
      refine ⟨((revokeDescendants_safe hs0 s).of_ok hrev).sound, ?_, hidle⟩
      rw [entry_of_revoked hs0 hrev hd, ← hh.generation]
      exact bumpGeneration_ne _
    obtain ⟨hs, hg, hu⟩ := hI
    obtain ⟨op', d', hbump, -, hex⟩ := hn
    have hturn := (exec_turns hs op').of_ok hex
    have hwithout := (exec_without hu (not_denotes hh.index hg) op').of_ok hex
    refine ⟨hturn.sound, ?_, hwithout.1⟩
    rcases hturn.generation d with e | e
    · rw [e]; exact hg
    · rw [e]; exact hbump
  obtain ⟨-, hg, hu⟩ := hinv
  exact ((exec_without hu (not_denotes hh.index hg) op).of_ok hstep.exec).2 D rfl

/-- A revocation in `k` and a run after it, up to a step that completes a call. -/
def revokedRun (before : List Op) (s d : Slot) (h : Handle) (after : List Op) (op : Op) :
    Except Halt (System × (Except IpcError ℕ × Kernel) × System × (Option Delivery × System)) := do
  let σ₀ ← runOps (fun _ _ => True) twoProcesses before
  let r ← capabilityRevokeDescendantsLocked σ₀.kernel s
  let σ ← runOps (fun τ _ => bumpGeneration (τ.kernel.entry d).handleGeneration ≠ h.generation)
    { σ₀ with kernel := r.2 } after
  let out ← op.exec σ
  .ok (σ₀, r, σ, out)

lemma revokedRun_ok {before after : List Op} {op : Op}
    {σ₀ : System} {r : Except IpcError ℕ × Kernel} {out : Option Delivery × System}
    (hx : revokedRun before s d h after op = .ok (σ₀, r, σ, out)) :
    Reach Boot (Next fun _ _ => True) σ₀ ∧ capabilityRevokeDescendantsLocked σ₀.kernel s = .ok r ∧
    Reach (· = { σ₀ with kernel := r.2 })
      (Next fun τ _ => bumpGeneration (τ.kernel.entry d).handleGeneration ≠ h.generation) σ ∧
    op.exec σ = .ok out := by
  obtain ⟨σ0', h1, hx⟩ := bind_eq_ok hx
  obtain ⟨r', h2, hx⟩ := bind_eq_ok hx
  obtain ⟨σ', h3, hx⟩ := bind_eq_ok hx
  obtain ⟨out', h4, hx⟩ := bind_eq_ok hx
  cases hx
  exact ⟨reach_runOps boot_twoProcesses h1, h2, reach_runOps (I := (· = _)) rfl h3, h4⟩

/-- The handle delegated to the second process is revoked; the first process goes on with its own. -/
theorem revoked_handle_undelivered_idle : ∃ σ₀ r σ D σ', Reach Boot (Next fun _ _ => True) σ₀ ∧
    capabilityRevokeDescendantsLocked σ₀.kernel (1, 0) = .ok r ∧ r.1 = .ok 1 ∧
    Step σ (.call 1 (.channelReceive (Handle.new 0 1) false)) (some D) σ' ∧
    ¬ Through D.call 2 (Handle.new 0 1) := by
  obtain ⟨⟨σ₀, ⟨r, k1⟩, σ, out, σ'⟩, hx, hr, hpend, hden, hl, hp, hen, hout⟩ :
      ∃ x, revokedRun [.call 1 .channelCreate, .delegate (1, 0) 2 0x0003#16] (1, 0) (2, 0)
        (Handle.new 0 1) [.call 1 (.channelSend (Handle.new 1 1) IpcMessage.empty false)]
        (.call 1 (.channelReceive (Handle.new 0 1) false)) = .ok x ∧
      x.2.1.1 = .ok 1 ∧ (∀ t, (x.1.pending t).isNone = true) ∧
      Denotes x.1.kernel 2 (Handle.new 0 1) (2, 0) ∧
      (x.1.kernel.entry (2, 0)).occupied = true ∧
      (x.1.kernel.node (2, 0)).parent = some (1, 0) ∧
      (Op.call 1 (.channelReceive (Handle.new 0 1) false)).enabled x.2.2.1 = true ∧
      x.2.2.2.1.isSome = true :=
    exists_ok (by decide +kernel)
  obtain ⟨h0, hrev, hrun, hex⟩ := revokedRun_ok hx
  obtain ⟨D, hD⟩ := Option.isSome_iff_exists.mp hout
  subst hr hD
  have hidle : Unused σ₀ 2 (Handle.new 0 1) := fun t c hc => by
    have := hpend t
    rw [hc] at this
    cases this
  exact ⟨σ₀, _, σ, D, σ', h0, hrev, rfl, ⟨hen, hex⟩, revoked_handle_undelivered h0 hrev
    (d := (2, 0)) (.single ⟨hl, hp⟩) hden hidle hrun ⟨hen, hex⟩⟩

/-- **A revoked handle that still delivers**: the second process sleeps in a receive through the
delegated handle when it is revoked. A message sent after the revocation wakes it and is delivered. -/
theorem revoked_handle_delivers : ∃ σ₀ r σ D σ', Reach Boot (Next fun _ _ => True) σ₀ ∧
    capabilityRevokeDescendantsLocked σ₀.kernel (1, 0) = .ok r ∧ r.1 = .ok 1 ∧
    Desc (Live σ₀.kernel.entry) (links σ₀.kernel.node) (1, 0) (2, 0) ∧
    Denotes σ₀.kernel 2 (Handle.new 0 1) (2, 0) ∧
    Reach (· = { σ₀ with kernel := r.2 }) (Next fun τ _ =>
      bumpGeneration (τ.kernel.entry (2, 0)).handleGeneration ≠ (Handle.new 0 1).generation) σ ∧
    Step σ (.resume 2) (some D) σ' ∧ Through D.call 2 (Handle.new 0 1) ∧
    D.msg = some IpcMessage.empty := by
  obtain ⟨⟨σ₀, ⟨r, k1⟩, σ, out, σ'⟩, hx, hr, hden, hl, hp, hen, hout⟩ :
      ∃ x, revokedRun [.call 1 .channelCreate, .delegate (1, 0) 2 0x0003#16, .preempt 1,
          .schedule 2, .call 2 (.channelReceive (Handle.new 0 1) true), .schedule 1]
        (1, 0) (2, 0) (Handle.new 0 1)
        [.call 1 (.channelSend (Handle.new 1 1) IpcMessage.empty false), .preempt 1, .schedule 2]
        (.resume 2) = .ok x ∧
      x.2.1.1 = .ok 1 ∧ Denotes x.1.kernel 2 (Handle.new 0 1) (2, 0) ∧
      (x.1.kernel.entry (2, 0)).occupied = true ∧
      (x.1.kernel.node (2, 0)).parent = some (1, 0) ∧
      (Op.resume 2).enabled x.2.2.1 = true ∧
      x.2.2.2.1.any (fun D => D.call.process = 2 ∧ D.call.handle = Handle.new 0 1 ∧
        D.msg = some IpcMessage.empty) = true :=
    exists_ok (by decide +kernel)
  obtain ⟨h0, hrev, hrun, hex⟩ := revokedRun_ok hx
  subst hr
  cases out with
  | none => cases hout
  | some D =>
    simp only [Option.any_some, decide_eq_true_eq] at hout
    exact ⟨σ₀, _, σ, D, σ', h0, hrev, rfl, .single ⟨hl, hp⟩, hden, hrun, ⟨hen, hex⟩,
      ⟨hout.1, hout.2.1⟩, hout.2.2⟩

end ProjectZero.Ipc.Revoked
