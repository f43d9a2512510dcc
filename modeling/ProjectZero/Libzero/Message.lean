import ProjectZero.Lib.Layout
import ProjectZero.Libzero.Resource

/-! # Messages of the daemons

The fixed message of 80 bytes in which requests and responses travel, the numbers the errors have in
it, and the two ways in which the daemons use its payload: a field is read at an offset, and a
response is written from the front. -/

namespace ProjectZero.Libzero.Message

open Lib.Layout Resource
open BitVec (ofNat ofInt toNat_ofNat)

variable {α : Type} {n : ℕ}

/-- `IpcMessage`. The length is the sender's word for it: nothing in the type keeps it below 48. -/
structure IpcMessage where
  tag : BitVec 64
  payloadLen : BitVec 16
  handlesCount : BitVec 16
  payload : Fin 48 → Byte
  handles : Fin 4 → BitVec 32
  deriving DecidableEq

/-- `as_i32`. -/
def asI32 : ZeroError → ℤ
  | .success => 0
  | .invalidSyscall => -1
  | .badAddress => -2
  | .invalidHandle => -3
  | .permissionDenied => -4
  | .objectTableFull => -5
  | .badMessageSize => -6
  | .notFound => -7
  | .alreadyExists => -8
  | .invalidRequest => -9
  | .capAmplificationRejected => -10
  | .generationMismatch => -11
  | .staleEndpoint => -12
  | .serviceFailed => -13
  | .maxRetriesExceeded => -14
  | .wouldBlock => -15
  | .peerClosed => -16
  | .timeout => -17
  | .unsupportedResourceShape => -18
  | .dimensionLimitExceeded => -19
  | .vectorConservationViolated => -20
  | .couplingViolation => -21
  | .timeAuthorityUnavailable => -22
  | .timeObservationStale => -23
  | .hardwareRegressionDetected => -24
  | .epochExhaustion => -25
  | .deadlineExhaustion => -26
  | .identifierExhausted => -27
  | .capacityQuarantined => -28
  | .providerConfirmationRequired => -29
  | .quotaExceeded => -30
  | .cyclicDependency => -31
  | .staleSpatialIndex => -32
  | .staleSessionEpoch => -33
  | .unknown => -99

/-! ### Reading a request -/

/-- The field at an offset that lies in the payload. -/
def IpcMessage.field (m : IpcMessage) (offset : ℕ) (l : Encoding n α)
    (h : offset + n ≤ 48 := by decide) : α :=
  l fun k => m.payload ⟨offset + k.val, by have := k.isLt; omega⟩

/-- The two words of an identifier. -/
def IpcMessage.idAt (m : IpcMessage) (offset : ℕ) (h : offset + 16 ≤ 48 := by decide) :
    DistributedId :=
  ⟨(m.field offset u64 (by omega)).toNat, (m.field (offset + 8) u64 (by omega)).toNat⟩

/-! ### Writing a response -/

/-- A response whose payload is written from the front and is zero beyond its length. -/
def reply (tag : BitVec 64) (bytes : List Byte) : IpcMessage where
  tag := tag
  payloadLen := ofNat 16 bytes.length
  handlesCount := 0
  payload := fun i => bytes.getD i.val 0
  handles := fun _ => 0

def encode (l : Encoding n α) (a : α) : List Byte := List.ofFn (l.symm a)

def status (e : ZeroError) : List Byte := encode u32 (ofInt 32 (asI32 e))

def idBytes (id : DistributedId) : List Byte :=
  encode u64 (ofNat 64 id.nodeId) ++ encode u64 (ofNat 64 id.localSeq)

@[simp] lemma length_encode (l : Encoding n α) (a : α) : (encode l a).length = n := by
  simp [encode]

@[simp] lemma length_status (e : ZeroError) : (status e).length = 4 := length_encode _ _

/-- **What is written is read.** -/
lemma field_reply (tag : BitVec 64) (before after : List Byte) (l : Encoding n α) (a : α)
    {offset : ℕ} (hoff : before.length = offset) (h : offset + n ≤ 48) :
    (reply tag (before ++ (encode l a ++ after))).field offset l h = a := by
  have hread : (fun k : Fin n => (before ++ (encode l a ++ after)).getD (offset + k.val) 0) =
      l.symm a := by
    funext k
    rw [List.getD_append_right _ _ _ _ (by omega), hoff, Nat.add_sub_cancel_left,
      List.getD_append _ _ _ _ (by rw [length_encode]; exact k.isLt)]
    unfold encode
    rw [List.getD_eq_getElem _ _ (by rw [List.length_ofFn]; exact k.isLt), List.getElem_ofFn]
  exact (congrArg l hread).trans (l.apply_symm_apply a)

def IpcMessage.statusWord (m : IpcMessage) : BitVec 32 := m.field 0 u32

lemma statusWord_reply (tag : BitVec 64) (e : ZeroError) (rest : List Byte) :
    (reply tag (status e ++ rest)).statusWord = ofInt 32 (asI32 e) :=
  field_reply tag [] rest u32 _ rfl _

lemma asI32_injective : Function.Injective fun e => ofInt 32 (asI32 e) := by
  intro e e' h
  cases e <;> cases e' <;> first | rfl | exact absurd h (by decide)

lemma idAt_reply {tag : BitVec 64} {before after : List Byte} {id : DistributedId} {offset : ℕ}
    (hoff : before.length = offset) (h : offset + 16 ≤ 48) (hnode : id.nodeId < 2 ^ 64)
    (hseq : id.localSeq < 2 ^ 64) :
    (reply tag (before ++ (idBytes id ++ after))).idAt offset h = id := by
  unfold IpcMessage.idAt idBytes
  have hlen : (before ++ encode u64 (ofNat 64 id.nodeId)).length = offset + 8 := by
    rw [List.length_append, hoff, length_encode]
  have hfirst := field_reply tag before (encode u64 (ofNat 64 id.localSeq) ++ after) u64
    (ofNat 64 id.nodeId) hoff (by omega)
  have hsecond := field_reply tag (before ++ encode u64 (ofNat 64 id.nodeId)) after u64
    (ofNat 64 id.localSeq) hlen (by omega)
  rw [List.append_assoc] at hsecond
  rw [List.append_assoc, hfirst, hsecond, toNat_ofNat, toNat_ofNat,
    Nat.mod_eq_of_lt hnode, Nat.mod_eq_of_lt hseq]

end ProjectZero.Libzero.Message
