import ProjectZero.Ipc.Steps

/-! # Handles of the wrong type

`channel_send`, `channel_receive`, `channel_close` and `shm_map` assert the type of the object they
are given, after the check of the rights. The rights of the types overlap: a handle of another type
that has them stops the kernel, and a close stops it with any such handle. -/

namespace ProjectZero.Ipc.Typing

open Lib.Run Tables Cap.Ops Object Ipc.Handle Ipc.Channel Ipc.Shm Steps

variable {α : Type} {k : Kernel} {t : TSlot} {p : PSlot} {h : Handle} {s : Slot}

/-- The capability is not revoked, and its object is the one it was made for. -/
def Current (k : Kernel) (s : Slot) : Prop :=
  (k.node s).isRevoked = false ∧ (k.object (k.entry s).objectIndex).occupied ∧
    (k.object (k.entry s).objectIndex).generation = (k.entry s).objectGeneration

/-- The capability passes the checks of a call that needs one of the rights. -/
def Usable (k : Kernel) (s : Slot) (rights : Rights) : Prop :=
  Current k s ∧ (k.entry s).rights &&& rights ≠ 0

def Survives (s : Slot) (x : Except Halt (α × Kernel)) : Prop :=
  ∃ r, x = .ok r ∧ (r.2.entry s).occupied

lemma validateHandle_of_denotes (hd : Denotes k p h s) :
    (¬Current k s ∧ ∃ e, validateHandleLocked k p h 0 = .error e) ∨
      Current k s ∧ validateHandleLocked k p h 0 =
        .ok ((k.entry s).objectIndex, (k.entry s).endpoint, (k.entry s).rights) := by
  obtain ⟨hp, hi, hg, ho⟩ := hd
  have hlt : h.slotIndex < 32 := by rw [hi]; exact s.2.isLt
  have hs : (p, (⟨h.slotIndex, hlt⟩ : HSlot)) = s := Prod.ext hp.symm (Fin.ext hi)
  unfold validateHandleLocked Current
  rw [dif_pos hlt]
  simp only [hs]
  rw [if_neg (by simp [hg]), if_neg (by simp [ho])]
  split
  next hr =>
    exact .inl ⟨by simp [hr], _, rfl⟩
  split
  next hobj =>
    refine .inl ⟨fun hc => ?_, _, rfl⟩
    rcases hobj with hobj | hobj
    · simp [hobj] at hc
    · exact hobj hc.2.2
  rename_i hr hobj
  simp only [not_or, Bool.not_eq_false, not_not] at hr hobj
  refine .inr ⟨⟨by simpa using hr, hobj⟩, ?_⟩
  rw [if_neg (by simp)]

/-- What a call does once its process is known: it refuses the handle, or goes on with its object. -/
lemma survives_checked (hd : Denotes k p h s) {rights : Rights} {e' : IpcError → α} {d : α}
    {f : ObjIdx → ℕ → Except Halt (α × Kernel)}
    (hf : ∀ endpoint, f (k.entry s).objectIndex endpoint = .error .panic) :
    Survives s (match validateHandleLocked k p h 0 with
      | .error e => .ok (e' e, k)
      | .ok (i, endpoint, have_) =>
        if have_ &&& rights = 0 then .ok (d, k) else f i endpoint) ↔ ¬Usable k s rights := by
  rcases validateHandle_of_denotes hd with ⟨hc, e, he⟩ | ⟨hc, he⟩
  · rw [he]
    exact iff_of_true ⟨_, rfl, hd.occupied⟩ fun hu => hc hu.1
  rw [he]
  dsimp only
  split
  next hr =>
    exact iff_of_true ⟨_, rfl, hd.occupied⟩ fun hu => hu.2 hr
  rename_i hr
  refine iff_of_false ?_ (not_not.mpr ⟨hc, hr⟩)
  rw [hf]
  exact nofun

/-- **A handle of the wrong type is survived** by a send, a receive or a mapping exactly if it is
refused before its type is looked at, and never by a close. -/
theorem wrong_type_survived_iff (hp : resolveCurrentProcessSlot k (k.thread t).processId = .ok p)
    (hd : Denotes k p h s) (msg : IpcMessage) (blocking writable : Bool) (vaddr : ℕ) :
    ((k.object (k.entry s).objectIndex).objType ≠ .channel →
      (Survives s (channelSend k t h msg blocking) ↔
        ¬Usable k s (HandleRights.write ||| CapRights.channelSend)) ∧
      (Survives s (channelReceive k t h blocking) ↔
        ¬Usable k s (HandleRights.read ||| CapRights.channelReceive)) ∧
      ¬Survives s (channelClose k t h)) ∧
    ((k.object (k.entry s).objectIndex).objType ≠ .shmObject →
      (Survives s (shmMap k t h vaddr writable) ↔
        (vaddr % 4096 ≠ 0 ∨ 0x0000800000000000 ≤ vaddr) ∨ ¬Usable k s (mapRights writable))) := by
  refine ⟨fun htype => ⟨?_, ?_, ?_⟩, fun htype => ?_⟩
  · unfold channelSend channelCall
    rw [hp]
    exact survives_checked hd fun endpoint => if_pos htype
  · unfold channelReceive channelCall
    rw [hp]
    exact survives_checked hd fun endpoint => if_pos htype
  · rintro ⟨r, hr, -⟩
    unfold channelClose at hr
    rw [hp] at hr
    simp only [hd.close, capabilityCloseLocked, hd.occupied, Bool.true_eq_false, if_false] at hr
    split at hr
    · cases hr
    -- the handle is closed by now
    simp only [done, ok_bind] at hr
    rw [if_pos] at hr
    · cases hr
    split
    · simpa [dropHandleRef, invalidate] using htype
    · exact htype
  unfold shmMap
  by_cases hv : vaddr % 4096 ≠ 0 ∨ 0x0000800000000000 ≤ vaddr
  · rw [if_pos hv]
    exact iff_of_true ⟨_, rfl, hd.occupied⟩ (.inl hv)
  rw [if_neg hv, hp, or_iff_right hv]
  exact survives_checked hd fun endpoint => if_pos htype

lemma exists_shm : ∃ σ, Reach Boot (Next fun _ _ => True) σ ∧
    resolveCurrentProcessSlot σ.kernel (σ.kernel.thread 1).processId = .ok 1 ∧
    Denotes σ.kernel 1 (Handle.new 0 1) (1, 0) ∧
    (σ.kernel.object (σ.kernel.entry (1, 0)).objectIndex).objType = .shmObject ∧
    (channelSend σ.kernel 1 (Handle.new 0 1) .empty false).toOption.isNone := by
  obtain ⟨σ, hx, hp, h⟩ : ∃ σ, Reach Boot (Next fun _ _ => True) σ ∧
      (resolveCurrentProcessSlot σ.kernel (σ.kernel.thread 1).processId).toOption = some 1 ∧
      Denotes σ.kernel 1 (Handle.new 0 1) (1, 0) ∧
      (σ.kernel.object (σ.kernel.entry (1, 0)).objectIndex).objType = .shmObject ∧
      (channelSend σ.kernel 1 (Handle.new 0 1) .empty false).toOption.isNone :=
    exists_reach boot_twoProcesses [.call 1 (.shmCreate 1)] (by decide +kernel)
  refine ⟨σ, hx, ?_, h⟩
  cases hr : resolveCurrentProcessSlot σ.kernel (σ.kernel.thread 1).processId with
  | error e =>
    rw [hr] at hp
    cases hp
  | ok p =>
    rw [hr] at hp
    cases hp
    rfl

theorem close_of_shm_stops : ∃ σ, Reach Boot (Next fun _ _ => True) σ ∧
    Denotes σ.kernel 1 (Handle.new 0 1) (1, 0) ∧
    ¬Survives (1, 0) (channelClose σ.kernel 1 (Handle.new 0 1)) := by
  obtain ⟨σ, hσ, hp, hd, htype, -⟩ := exists_shm
  exact ⟨σ, hσ, hd,
    ((wrong_type_survived_iff hp hd .empty false false 0).1 (by rw [htype]; decide)).2.2⟩

/-- **Shared memory given to `channel_send`** fails the assertion of the type. -/
theorem send_to_shm_stops : ∃ σ, Reach Boot (Next fun _ _ => True) σ ∧
    Denotes σ.kernel 1 (Handle.new 0 1) (1, 0) ∧
    ¬Survives (1, 0) (channelSend σ.kernel 1 (Handle.new 0 1) .empty false) := by
  obtain ⟨σ, hσ, -, hd, -, hnone⟩ := exists_shm
  refine ⟨σ, hσ, hd, ?_⟩
  rintro ⟨r, hr, -⟩
  rw [hr] at hnone
  cases hnone

end ProjectZero.Ipc.Typing
