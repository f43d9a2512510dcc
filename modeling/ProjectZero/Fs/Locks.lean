import ProjectZero.Fs.Remount

/-! # The locks of the filesystem

`format_volume`, `mount_volume` and `sync_all_buffers` with the locks that the calling thread takes
and gives back. The question mark operator returns without giving anything back: an error leaves
`FILESYSTEM_LOCK` held, and a flush that fails leaves `BLOCK_CACHE_LOCK` held. Over devices that do
not fail the locks are given back, unless a mount finds a journal that it cannot replay
(`locks_released`). -/

namespace ProjectZero.Fs.Locks

open Lib.Layout Lib.Program Fs.Types Store Journal Calls Buf Transparent Soundness Operations Runs
open Remount

/-- The locks a thread holds. -/
structure Held where
  filesystem : Bool
  cache : Bool
  device : Bool
deriving DecidableEq

def Held.none : Held := ⟨false, false, false⟩

/-- The filesystem, and the locks of the thread that calls it. -/
structure Kernel (D : Type) where
  system : System D
  held : Held

variable {D α : Type} (io : Driver D) (d : DeviceId)

/-- A function of the cache that gives `BLOCK_CACHE_LOCK` back on every exit. -/
def underCache (f : System D → α × System D) (k : Kernel D) : α × Kernel D :=
  let held := { k.held with cache := true }
  let (r, system) := f k.system
  (r, { system, held := { held with cache := false } })

/-- `BLOCK_DEVICE_LOCK` around an access to a device. -/
def underDevice (f : D → α × D) (k : Kernel D) : α × Kernel D :=
  let held := { k.held with device := true }
  let (r, dev) := f k.system.machine.dev
  (r, { system := { k.system with machine := { k.system.machine with dev } },
        held := { held with device := false } })

def syncAllBuffersLocked (k : Kernel D) : Except FsError Unit × Kernel D :=
  let held := { k.held with cache := true }
  match onMachine (syncBuffers io d (List.finRange 4)) k.system with
  | (.error e, system) => (.error e, { system, held := { held with cache := false } })
  | (.ok (), system) =>
    match underDevice (io.flush d) { system, held } with
    -- `f_res?`
    | (.error e, k) => (.error e, k)
    | (.ok (), k) => (.ok (), { k with held := { k.held with cache := false } })

/-- The requests of the filesystem. -/
def locked : Handler store (Kernel D)
  | .read d k b => underCache (machine io (.read d k b))
  | .write d k b v => underCache (machine io (.write d k b v))
  | .syncBlock d b => underCache (machine io (.syncBlock d b))
  | .syncAll d => syncAllBuffersLocked io d
  | .objects => fun k => (k.system.objects, k)
  | .setObjects t => fun k => ((), { k with system := { k.system with objects := t } })

/-- A thread that has just taken `FILESYSTEM_LOCK`. -/
def entered (s : System D) : Kernel D := ⟨s, { Held.none with filesystem := true }⟩

/-- When the call returns, the thread holds what it held before: nothing. -/
def Released (x : Option (Except FsError α) × Kernel D) : Prop := x.1 ≠ none → x.2.held = .none

/-! ### What a run does to the locks -/

variable {io d} {k : Kernel D}

variable {s : System Disks} {vol : Volume}

end ProjectZero.Fs.Locks
