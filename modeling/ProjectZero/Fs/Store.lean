import ProjectZero.Fs.Types
import ProjectZero.Lib.Program
import ProjectZero.Lib.Update

/-! # What the filesystem asks of its store

The code of ZeroFS reaches its blocks through four functions of the block cache, and the open file
descriptions through the table of storage objects. A function of the filesystem is a program over
these requests, with an error of type `FsError`; a failed bounds check or overflow check stops the
kernel. Here the requests are answered by a volume, the contents of every block: what the code is
written against. The block cache answers them in `Fs.Buf`. -/

namespace ProjectZero.Fs.Store

open Lib.Program Fs.Types

/-- The devices that `get_device` knows. -/
inductive DeviceId
  | mem
  | ata
deriving DecidableEq

/-- An open file description. -/
structure StorageObject where
  occupied : Bool
  inodeNum : BitVec 32
  generation : BitVec 32
  deviceId : DeviceId
  cursorOffset : BitVec 64
  openFlags : BitVec 32
  inFlightOps : BitVec 16
  cachedSize : BitVec 64

def StorageObject.empty : StorageObject where
  occupied := false
  inodeNum := 0
  generation := 0
  deviceId := .mem
  cursorOffset := 0
  openFlags := 0
  inFlightOps := 0
  cachedSize := 0

/-- A slot of `STORAGE_OBJECT_TABLE`, below `MAX_OPEN_STORAGE_OBJECTS`. -/
abbrev ObjectIdx := Fin 32

/-- `STORAGE_OBJECT_TABLE`. -/
abbrev Objects := ObjectIdx → StorageObject

inductive Request
  | read (d : DeviceId) (k : Kind) (b : ℕ)
  | write (d : DeviceId) (k : Kind) (b : ℕ) (v : View k)
  | syncBlock (d : DeviceId) (b : ℕ)
  | syncAll (d : DeviceId)
  | objects
  | setObjects (t : Objects)

abbrev Answer : Request → Type
  | .read _ k _ => Except FsError (View k)
  | .write _ _ _ _ => Except FsError Unit
  | .syncBlock _ _ => Except FsError Unit
  | .syncAll _ => Except FsError Unit
  | .objects => Objects
  | .setObjects _ => Unit

def store : Interface := ⟨Request, Answer⟩

abbrev FsM := ExceptT FsError (Prog store)

variable {α β : Type}

/-- `read_block_cached`, with the block read as a structure. -/
def readBlock (d : DeviceId) (k : Kind) (b : ℕ) : FsM (View k) :=
  ExceptT.mk (Prog.request (F := store) (.read d k b))

/-- `write_block_cached`. -/
def writeBlock (d : DeviceId) (k : Kind) (b : ℕ) (v : View k) : FsM Unit :=
  ExceptT.mk (Prog.request (F := store) (.write d k b v))

def syncBlock (d : DeviceId) (b : ℕ) : FsM Unit :=
  ExceptT.mk (Prog.request (F := store) (.syncBlock d b))

def syncAllBuffers (d : DeviceId) : FsM Unit :=
  ExceptT.mk (Prog.request (F := store) (.syncAll d))

def objects : FsM Objects := ExceptT.lift (Prog.request (F := store) .objects)

def setObjects (t : Objects) : FsM Unit := ExceptT.lift (Prog.request (F := store) (.setObjects t))

def result (r : Except FsError α) : FsM α := ExceptT.mk (pure r)

/-- A check that fails stops the kernel. -/
def stop : FsM α := ExceptT.lift .halt

/-- Addition with the overflow check on. -/
def addChecked {w : ℕ} (a b : BitVec w) : FsM (BitVec w) :=
  if a.toNat + b.toNat < 2 ^ w then pure (a + b) else stop

/-- `let _ = p`: the error of `p` is dropped. -/
def ignore (p : FsM α) : FsM Unit := ExceptT.mk do
  let _ ← p.run
  pure (.ok ())

/-- The result of `p` is inspected. -/
def attempt (p : FsM α) : FsM (Except FsError α) := ExceptT.lift p.run

/-! ### Volumes -/

/-- The contents of every block, and the open files. -/
structure Volume where
  blocks : DeviceId → ℕ → Block
  objects : Objects

namespace Volume

variable (s : Volume) (d : DeviceId)

def put (b : ℕ) (v : Block) : Volume :=
  { s with blocks := update s.blocks d (update (s.blocks d) b v) }

/-- Block `b` read as a structure. -/
def get (k : Kind) (b : ℕ) : View k := format k (s.blocks d b)

variable {s d}

@[simp] lemma objects_put (b : ℕ) (v : Block) : (s.put d b v).objects = s.objects := rfl

lemma blocks_put (b : ℕ) (v : Block) :
    (s.put d b v).blocks d = update (s.blocks d) b v := by simp [put]

@[simp] lemma blocks_put_self (b : ℕ) (v : Block) : (s.put d b v).blocks d b = v := by
  simp [blocks_put]

lemma blocks_put_of_ne {b c : ℕ} (hc : c ≠ b) (v : Block) :
    (s.put d b v).blocks d c = s.blocks d c := by
  rw [blocks_put, update_of_ne hc]

lemma get_put_self (k : Kind) (b : ℕ) (v : View k) :
    (s.put d b ((format k).symm v)).get d k b = v := by
  simp [get]

lemma get_put_of_ne {b c : ℕ} (hc : c ≠ b) (v : Block) (k : Kind) :
    (s.put d b v).get d k c = s.get d k c := by
  rw [get, get, blocks_put_of_ne hc]

end Volume

/-- A volume answers every request. -/
def volume : Handler store Volume
  | .read d k b, s => (.ok (s.get d k b), s)
  | .write d k b v, s => (.ok (), s.put d b ((format k).symm v))
  | .syncBlock _ _, s => (.ok (), s)
  | .syncAll _, s => (.ok (), s)
  | .objects, s => (s.objects, s)
  | .setObjects t, s => ((), { s with objects := t })

/-! ### Running on a volume -/

abbrev exec {S : Type} (h : Handler store S) (p : FsM α) (s : S) : Option (Except FsError α) × S :=
  run h p.run s

variable {S : Type} {h : Handler store S} {s : Volume} {t t' : S}

variable {p : FsM α} {f : α → FsM β}

lemma exec_bind_ok {a : α} (hp : exec h p t = (some (.ok a), t')) :
    exec h (p >>= f) t = exec h (f a) t' :=
  run_bind_of_some (f := fun r => ExceptT.bindCont f r) hp

lemma exec_bind_error {e : FsError} (hp : exec h p t = (some (.error e), t')) :
    exec h (p >>= f) t = (some (.error e), t') :=
  run_bind_of_some (f := fun r => ExceptT.bindCont f r) hp

lemma exists_of_exec_bind {b : β} {t'' : S} (hp : exec h (p >>= f) t = (some (.ok b), t'')) :
    ∃ a t', exec h p t = (some (.ok a), t') ∧ exec h (f a) t' = (some (.ok b), t'') := by
  obtain ⟨r, t', hr, hf⟩ := exists_of_run_bind (f := fun r => ExceptT.bindCont f r) hp
  cases r with
  | error e => cases hf
  | ok a => exact ⟨a, t', hr, hf⟩

@[simp] lemma exec_pure (a : α) : exec h (pure a : FsM α) t = (some (.ok a), t) := rfl

@[simp] lemma exec_result (r : Except FsError α) : exec h (result r) t = (some r, t) := rfl

@[simp] lemma exec_readBlock (d : DeviceId) (k : Kind) (b : ℕ) :
    exec volume (readBlock d k b) s = (some (.ok (s.get d k b)), s) := rfl

@[simp] lemma exec_writeBlock (d : DeviceId) (k : Kind) (b : ℕ) (v : View k) :
    exec volume (writeBlock d k b v) s = (some (.ok ()), s.put d b ((format k).symm v)) := rfl

@[simp] lemma exec_syncAllBuffers (d : DeviceId) :
    exec volume (syncAllBuffers d) s = (some (.ok ()), s) := rfl

@[simp] lemma exec_objects : exec volume objects s = (some (.ok s.objects), s) := rfl

@[simp] lemma exec_setObjects (o : Objects) :
    exec volume (setObjects o) s = (some (.ok ()), { s with objects := o }) := rfl

end ProjectZero.Fs.Store
