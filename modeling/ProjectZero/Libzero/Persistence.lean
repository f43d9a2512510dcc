import ProjectZero.Fs.Types
import ProjectZero.Lib.Fallible
import ProjectZero.Lib.Update
import ProjectZero.Libzero.Resource

/-! # Session snapshots

`restore_from_authority` reads a snapshot word by word from the slots of a provider into
`GLOBAL_SNAPSHOT_BUF`, a block of 16768 bytes, and validates it there. The number of workspaces
comes from the slots: it is clamped for the copy, and taken as it is for the checksum. -/

namespace ProjectZero.Libzero.Persistence

open Lib.Layout Lib.Fallible Resource
open Fs.Types (crc32)

/-- `MAX_WORKSPACES_PER_SESSION`. -/
def maxWorkspaces : ℕ := 16

/-- `SESSION_SNAPSHOT_MAGIC`. -/
def snapshotMagic : BitVec 64 := 0x534553535F5A4552#64

/-- `size_of` of the snapshot's header, of a `SessionRecord`, of a `WorkspaceControlBlock` and of
the whole block, which is aligned to 64. -/
def headerSize : ℕ := 64
def sessionSize : ℕ := 304
def workspaceSize : ℕ := 1024
def blockSize : ℕ := 16768

/-- An access outside the block. -/
inductive Fault
  | outside

abbrev Words := ℕ → BitVec 64

namespace Words

variable (w : Words)

def magic : BitVec 64 := w 0
def epoch : BitVec 64 := w 1
def payloadCrc32 : BitVec 32 := (w 7).setWidth 32
def workspaceCount : ℕ := ((w 46).setWidth 32).toNat

def bytes (offset len : ℕ) : List Byte :=
  (List.range' offset len).map fun k => (w (k / 8)).extractLsb' (8 * (k % 8)) 8

def payloadLen : ℕ := sessionSize + 8 + w.workspaceCount * workspaceSize

def checksum : BitVec 32 := crc32 (w.bytes headerSize w.payloadLen)

def computePayloadCrc32 : Comp Fault ZeroError (BitVec 32) := do
  demand (headerSize + w.payloadLen ≤ blockSize) .outside
  return w.checksum

def validate (maxAllowedEpoch : BitVec 64) : Comp Fault ZeroError Unit := do
  rejectIf (w.magic ≠ snapshotMagic) .invalidRequest
  rejectIf (maxAllowedEpoch < w.epoch) .staleSessionEpoch
  let expected ← w.computePayloadCrc32
  rejectIf (w.payloadCrc32 ≠ expected) .invalidRequest

end Words

variable (readSlot : ℕ → Except ZeroError (BitVec 64))

/-- One round of a loop: slot `2 + i` is read and written to word `i` of the block. -/
def copyWord (w : Words) (i : ℕ) : Comp Fault ZeroError Words := do
  let v ← ExceptT.mk (.ok (readSlot (2 + i)))
  demand (8 * i + 8 ≤ blockSize) .outside
  return update w i v

def copyWords (start len : ℕ) (w : Words) : Comp Fault ZeroError Words :=
  (List.range' start len).foldlM (copyWord readSlot) w

def baseWords : ℕ := headerSize / 8 + (sessionSize + 8) / 8

def restWords (w : Words) : ℕ := min w.workspaceCount maxWorkspaces * workspaceSize / 8

/-- `restore_from_authority`, with the words of the block and the clamped count. -/
def restoreFromAuthority (currentEpoch : BitVec 64) (w : Words) :
    Comp Fault ZeroError (Words × ℕ) := do
  let w ← copyWords readSlot 0 baseWords w
  let w ← copyWords readSlot baseWords (restWords w) w
  w.validate currentEpoch
  return (w, min w.workspaceCount maxWorkspaces)

/-! ### The copied image -/

/-- The first words of the block are those of the slots. -/
def Agrees (w : Words) (n : ℕ) : Prop := ∀ i < n, readSlot (2 + i) = .ok (w i)

/-- The slots hold the words, as far as they are copied. -/
def Image (w : Words) : Prop := Agrees readSlot w (baseWords + restWords w)

variable {readSlot} {w v : Words}

lemma Agrees.eq {m n i : ℕ} (hw : Agrees readSlot w m) (hv : Agrees readSlot v n) (hm : i < m)
    (hn : i < n) : w i = v i :=
  Except.ok.inj ((hw i hm).symm.trans (hv i hn))

lemma workspaceCount_congr (h : ∀ i < baseWords, w i = v i) :
    w.workspaceCount = v.workspaceCount := by
  rw [Words.workspaceCount, h 46 (by decide), Words.workspaceCount]

lemma total_le (w : Words) : 8 * (baseWords + restWords w) ≤ blockSize := by
  have : min w.workspaceCount 16 ≤ 16 := min_le_right _ _
  unfold baseWords restWords headerSize sessionSize workspaceSize blockSize maxWorkspaces
  omega

lemma copyWords_cases (start len : ℕ) (hle : 8 * (start + len) ≤ blockSize)
    (h : Agrees readSlot w start) :
    (∃ e, copyWords readSlot start len w = throw e ∧ ∃ i < start + len,
      readSlot (2 + i) = .error e) ∨
    ∃ w', copyWords readSlot start len w = pure w' ∧ Agrees readSlot w' (start + len) := by
  induction len generalizing start w with
  | zero => exact .inr ⟨w, rfl, h⟩
  | succ len ih =>
    rw [copyWords, List.range'_succ, List.foldlM_cons, copyWord]
    cases hread : readSlot (2 + start) with
    | error e => exact .inl ⟨e, rfl, start, by omega, hread⟩
    | ok v =>
      rw [demand, if_pos (by omega)]
      have hnext : Agrees readSlot (update w start v) (start + 1) := fun i hi => by
        rcases Nat.lt_succ_iff_lt_or_eq.mp hi with hi | rfl
        · rw [update_of_ne hi.ne, h i hi]
        rw [update_self, hread]
      have := ih (start + 1) (by omega) hnext
      rwa [Nat.add_right_comm] at this

/-- **The restored block** is the image in the slots, and is validated as such. -/
lemma restore_cases (currentEpoch : BitVec 64) (w₀ : Words) :
    (∃ e, restoreFromAuthority readSlot currentEpoch w₀ = throw e ∧ ∀ v, ¬Image readSlot v) ∨
    ∃ w, Image readSlot w ∧ restoreFromAuthority readSlot currentEpoch w₀ =
      do w.validate currentEpoch; return (w, min w.workspaceCount maxWorkspaces) := by
  unfold restoreFromAuthority
  have hle := total_le w₀
  rcases @copyWords_cases readSlot w₀ 0 baseWords (by omega) nofun with
    ⟨e, he, i, hi, hread⟩ | ⟨w₁, hw₁, h₁⟩
  · exact .inl ⟨e, by rw [he]; rfl, fun v hv => by cases hread.symm.trans (hv i (by omega))⟩
  rw [Nat.zero_add] at h₁
  have hcount : ∀ {v n}, Agrees readSlot v (baseWords + n) → restWords v = restWords w₁ :=
    fun hv => by
      rw [restWords, workspaceCount_congr fun i hi => hv.eq h₁ (by omega) hi, restWords]
  rw [hw₁, pure_bind]
  rcases copyWords_cases baseWords (restWords w₁) (total_le w₁) h₁ with
    ⟨e, he, i, hi, hread⟩ | ⟨w₂, hw₂, h₂⟩
  · refine .inl ⟨e, by rw [he]; rfl, fun v hv => ?_⟩
    cases hread.symm.trans (hv i (by rwa [hcount hv]))
  exact .inr ⟨w₂, by rwa [Image, hcount h₂], by rw [hw₂, pure_bind]⟩

lemma payload_fits : headerSize + w.payloadLen ≤ blockSize ↔ w.workspaceCount ≤ maxWorkspaces := by
  unfold Words.payloadLen headerSize sessionSize workspaceSize blockSize maxWorkspaces
  omega

/-- A count beyond the array takes the checksum beyond the block. -/
lemma restore_outside {currentEpoch : BitVec 64} (hv : Image readSlot v)
    (hmagic : v.magic = snapshotMagic) (hepoch : v.epoch ≤ currentEpoch)
    (hcount : maxWorkspaces < v.workspaceCount) (w₀ : Words) :
    restoreFromAuthority readSlot currentEpoch w₀ = fault .outside := by
  rcases restore_cases currentEpoch w₀ with ⟨e, -, hno⟩ | ⟨w, hw, heq⟩
  · exact absurd hv (hno v)
  have hagree : ∀ i < baseWords, w i = v i := fun i hi => hw.eq hv (by omega) (by omega)
  replace hmagic : w.magic = snapshotMagic := (hagree 0 (by decide)).trans hmagic
  replace hepoch : w.epoch ≤ currentEpoch := by rwa [Words.epoch, hagree 1 (by decide)]
  rw [← workspaceCount_congr hagree] at hcount
  rw [heq, Words.validate, rejectIf, if_neg (not_not.mpr hmagic), rejectIf,
    if_neg (BitVec.not_lt.mpr hepoch), Words.computePayloadCrc32, demand,
    if_neg (mt payload_fits.mp (not_le.mpr hcount))]
  rfl

/-- The block is the image in the slots, and its checksum is the one in its header. -/
def Checked (readSlot : ℕ → Except ZeroError (BitVec 64)) (r : Words × ℕ) : Prop :=
  Image readSlot r.1 ∧ r.1.payloadCrc32 = r.1.checksum

/-- **A restore stays inside the block** and returns a checked snapshot, unless the slots hold a
snapshot of an allowed epoch whose count is larger than the array. -/
theorem restore_safe_iff (readSlot : ℕ → Except ZeroError (BitVec 64)) (currentEpoch : BitVec 64)
    (w₀ : Words) :
    Safe (restoreFromAuthority readSlot currentEpoch w₀) (Checked readSlot) ↔
      ∀ v, Image readSlot v → v.magic = snapshotMagic → v.epoch ≤ currentEpoch →
        v.workspaceCount ≤ maxWorkspaces := by
  constructor
  · rintro ⟨r, hr, -⟩ v hv hmagic hepoch
    by_contra hcount
    rw [restore_outside hv hmagic hepoch (not_le.mp hcount)] at hr
    cases hr
  intro h
  rcases restore_cases currentEpoch w₀ with ⟨e, he, -⟩ | ⟨w, hw, heq⟩
  · rw [he]
    exact safe_throw e
  rw [heq]
  refine safe_bind (Q := fun _ => w.payloadCrc32 = w.checksum) ?_ fun _ hcrc =>
    safe_pure ⟨hw, hcrc⟩
  refine safe_bind safe_rejectIf fun _ hmagic => safe_bind safe_rejectIf fun _ hepoch => ?_
  have hfits := payload_fits.mpr (h w hw (not_not.mp hmagic) (BitVec.not_lt.mp hepoch))
  refine safe_bind (safe_bind (safe_demand hfits) fun _ _ => safe_pure rfl) fun crc hcrc => ?_
  exact safe_rejectIf.mono fun _ hne => (not_not.mp hne).trans hcrc.symm

/-- An otherwise empty snapshot of seventeen workspaces. -/
def overfull : Words := fun i => if i = 0 then snapshotMagic else if i = 46 then 17 else 0

theorem restore_overruns : ¬Safe (restoreFromAuthority (fun slot => .ok (overfull (slot - 2))) 0 0)
    (Checked fun slot => .ok (overfull (slot - 2))) := by
  rintro ⟨r, hr, -⟩
  have hv : Image (fun slot => .ok (overfull (slot - 2))) overfull := fun i _ => by simp
  rw [restore_outside hv rfl (by decide) (by decide)] at hr
  cases hr

end ProjectZero.Libzero.Persistence
