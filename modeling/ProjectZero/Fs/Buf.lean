import ProjectZero.Fs.Store

/-! # The block cache

Four buffers between the filesystem and the block devices, replaced by age and written back when they
are replaced or synced. The devices are a parameter, a `Driver`, since any of their operations may
fail; `disks` are the ones that never do. Over these the cache is transparent: the code runs as if
over a volume (`machine_related`).

Two things are left out. The clock of the replacement is a number: one of 64 bits stops after `2 ^ 64`
accesses. And `sync_all_buffers` is for one device: no caller passes `0xFF`, which stands for all. -/

namespace ProjectZero.Fs.Buf

open Lib.Program Fs.Types Store

inductive BufferState
  | free
  | clean
  | dirty
  | pinned
  | writeback
deriving DecidableEq

structure BlockBuffer where
  deviceId : DeviceId
  blockIdx : ℕ
  state : BufferState
  pinCount : ℕ
  lruSeq : ℕ
  data : Block

def BlockBuffer.empty : BlockBuffer where
  deviceId := .mem
  blockIdx := 0
  state := .free
  pinCount := 0
  lruSeq := 0
  data := zeroBlock

namespace BlockBuffer

def Holds (d : DeviceId) (b : ℕ) (buf : BlockBuffer) : Prop :=
  buf.state ≠ .free ∧ buf.deviceId = d ∧ buf.blockIdx = b
  deriving Decidable

/-- The buffer may be replaced. -/
def Evictable (buf : BlockBuffer) : Prop :=
  buf.pinCount = 0 ∧ buf.state ≠ .pinned ∧ buf.state ≠ .writeback
  deriving Decidable

end BlockBuffer

/-- The operations of the block devices. -/
structure Driver (D : Type) where
  readBlock : DeviceId → ℕ → D → Except FsError Block × D
  writeBlock : DeviceId → ℕ → Block → D → Except FsError Unit × D
  flush : DeviceId → D → Except FsError Unit × D

/-- The cache, and the state of the devices. -/
structure Machine (D : Type) where
  buffers : Fin 4 → BlockBuffer
  nextLruSeq : ℕ
  dev : D

variable {D : Type}

namespace Machine

variable (m : Machine D)

/-- `init_cache`. -/
def fresh (dev : D) : Machine D := ⟨fun _ => .empty, 1, dev⟩

def find (p : BlockBuffer → Prop) [DecidablePred p] : Option (Fin 4) :=
  (List.finRange 4).find? fun i => p (m.buffers i)

def modify (i : Fin 4) (f : BlockBuffer → BlockBuffer) : Machine D :=
  { m with buffers := update m.buffers i (f (m.buffers i)) }

def tick : Machine D := { m with nextLruSeq := m.nextLruSeq + 1 }

def touch (i : Fin 4) : Machine D :=
  m.tick.modify i fun buf => { buf with lruSeq := m.nextLruSeq + 1 }

/-- The buffer is given to a block; its data are still the old ones. -/
def claim (i : Fin 4) (d : DeviceId) (b : ℕ) : Machine D :=
  m.tick.modify i fun buf =>
    { buf with
      deviceId := d
      blockIdx := b
      state := .clean
      pinCount := 0
      lruSeq := m.nextLruSeq + 1 }

/-- The buffer used longest ago among those that may be replaced. -/
def victim : Option (Fin 4) :=
  (List.finRange 4).foldl (fun best i =>
    if (m.buffers i).Evictable ∧
        best.all fun j => (m.buffers i).lruSeq < (m.buffers j).lruSeq then some i
    else best) none

end Machine

variable (io : Driver D) (d : DeviceId)

/-- The buffer for a block, freed for it if need be: a dirty one is written back before. -/
def allocateSlot (b : ℕ) (m : Machine D) : Except FsError (Fin 4) × Machine D :=
  match m.find (·.Holds d b) with
  | some i => (.ok i, m.touch i)
  | none =>
    match m.find (·.state = .free) with
    | some i => (.ok i, m.claim i d b)
    | none =>
      match m.victim with
      | none => (.error .busy, m)
      | some i =>
        let buf := m.buffers i
        if buf.state = .dirty then
          let m := m.modify i fun buf => { buf with state := .writeback }
          match io.writeBlock buf.deviceId buf.blockIdx buf.data m.dev with
          | (.error e, dev) => (.error e, { m with dev })
          | (.ok (), dev) => (.ok i, { m with dev }.claim i d b)
        else (.ok i, m.claim i d b)

def readBlockCached (b : ℕ) (m : Machine D) : Except FsError Block × Machine D :=
  match m.find (·.Holds d b) with
  | some i => (.ok (m.buffers i).data, m.touch i)
  | none =>
    match allocateSlot io d b m with
    | (.error e, m) => (.error e, m)
    | (.ok i, m) =>
      let m := m.modify i fun buf => { buf with state := .pinned, pinCount := 1 }
      match io.readBlock d b m.dev with
      | (.error e, dev) =>
        (.error e, { m with dev }.modify i fun buf => { buf with state := .free, pinCount := 0 })
      | (.ok data, dev) =>
        (.ok data,
          { m with dev }.modify i fun buf => { buf with data, state := .clean, pinCount := 0 })

def writeBlockCached (b : ℕ) (data : Block) (m : Machine D) : Except FsError Unit × Machine D :=
  match allocateSlot io d b m with
  | (.error e, m) => (.error e, m)
  | (.ok i, m) => (.ok (), m.modify i fun buf => { buf with data, state := .dirty })

/-- A buffer is written to its device, and is clean whether that fails or not. -/
def writeOut (i : Fin 4) (m : Machine D) : Except FsError Unit × Machine D :=
  let buf := m.buffers i
  let m := m.modify i fun buf => { buf with state := .writeback }
  let (r, dev) := io.writeBlock buf.deviceId buf.blockIdx buf.data m.dev
  (r, { m with dev }.modify i fun buf => { buf with state := .clean })

def syncBlockCached (b : ℕ) (m : Machine D) : Except FsError Unit × Machine D :=
  match m.find fun buf => buf.state = .dirty ∧ buf.deviceId = d ∧ buf.blockIdx = b with
  | none => (.ok (), m)
  | some i =>
    let (w, m) := writeOut io i m
    let (f, dev) := io.flush d m.dev
    -- the flush is done even if the write failed, and the error of the write comes first
    (match w with
      | .error e => .error e
      | .ok () => f, { m with dev })

def syncBuffers : List (Fin 4) → Machine D → Except FsError Unit × Machine D
  | [], m => (.ok (), m)
  | i :: l, m =>
    if (m.buffers i).state = .dirty ∧ (m.buffers i).deviceId = d then
      match writeOut io i m with
      | (.error e, m) => (.error e, m)
      | (.ok (), m) => syncBuffers l m
    else syncBuffers l m

def syncAllCached (m : Machine D) : Except FsError Unit × Machine D :=
  match syncBuffers io d (List.finRange 4) m with
  | (.error e, m) => (.error e, m)
  | (.ok (), m) =>
    let (f, dev) := io.flush d m.dev
    (f, { m with dev })

/-! ### The machine as a store -/

/-- The cache and the devices, and the open files. -/
structure System (D : Type) where
  machine : Machine D
  objects : Objects

def onMachine {α : Type} (f : Machine D → α × Machine D) (s : System D) : α × System D :=
  let (a, machine) := f s.machine
  (a, { s with machine })

/-- The requests of the filesystem, answered by the cache. -/
def machine : Handler store (System D)
  | .read d k b => onMachine fun m =>
    let (r, m) := readBlockCached io d b m
    (r.map (format k), m)
  | .write d k b v => onMachine (writeBlockCached io d b ((format k).symm v))
  | .syncBlock d b => onMachine (syncBlockCached io d b)
  | .syncAll d => onMachine (syncAllCached io d)
  | .objects => fun s => (s.objects, s)
  | .setObjects t => fun s => ((), { s with objects := t })

/-! ### Devices that do not fail -/

/-- The blocks of the devices, and the writes that were made to them. -/
structure Disks where
  blocks : DeviceId → ℕ → Block
  log : List (DeviceId × ℕ × Block)

def Disks.put (k : Disks) (d : DeviceId) (b : ℕ) (v : Block) : Disks where
  blocks := update k.blocks d (update (k.blocks d) b v)
  log := k.log ++ [(d, b, v)]

def disks : Driver Disks where
  readBlock d b k := (.ok (k.blocks d b), k)
  writeBlock d b v k := (.ok (), k.put d b v)
  flush _ k := (.ok (), k)

end ProjectZero.Fs.Buf
