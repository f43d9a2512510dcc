import ProjectZero.Dev.Dma
import ProjectZero.Dev.Interrupt
import ProjectZero.Dev.Mmio
import ProjectZero.Net.Calls

/-! # Device system calls

The dispatchers of the calls on devices. Each of them finds the process of the caller, checks the handle
for the right it needs and for the type of its object, and the device slot for the generation of the
object. What the checks of the memory of the caller say is an argument. -/

namespace ProjectZero.Dev.Calls

open ProjectZero.Tables Ipc.Handle Ipc.Channel Ipc.Shm Net.Tables Net.Calls Dev.Tables Interrupt
open Dma Mmio

/-- What a call returns and the machine it leaves. -/
abbrev Reply := Except Halt (Except SyscallError ℕ × Board)

def answer (r : Except SyscallError ℕ) (b : Board) : Reply := .ok (r, b)

/-- The object of the handle `hd`, of the type `objType`, with the rights of the handle. -/
def lookupObject (k : Kernel) (p : PSlot) (hd : Handle) (right : Rights) (objType : KernelObjectType) :
    Except SyscallError (ObjIdx × Rights) :=
  match validateHandleLocked k p hd right with
  | .error e => .error (ipcToSyscallErr e)
  | .ok (i, _, rights) =>
    if (k.object i).objType ≠ objType then .error .badHandle else .ok (i, rights)

/-- The device slot of the object `i`, if both have the same generation. -/
def lookupSlot (b : Board) (i : ObjIdx) : Except SyscallError DevIdx :=
  if hs : (b.kernel.object i).poolIndex < 16 then
    let slot := b.devices.device ⟨(b.kernel.object i).poolIndex, hs⟩
    if slot.occupied = false ∨ slot.generation ≠ (b.kernel.object i).generation then .error .badHandle
    else .ok ⟨(b.kernel.object i).poolIndex, hs⟩
  else .error .badHandle

/-- The process, the object, the rights and the device slot of a device handle. -/
def lookupDevice (b : Board) (pid : ℕ) (hd : Handle) (right : Rights) :
    Except SyscallError (PSlot × ObjIdx × Rights × DevIdx) :=
  match resolveCurrentProcessSlot b.kernel pid with
  | .error e => .error (ipcToSyscallErr e)
  | .ok p =>
    match lookupObject b.kernel p hd right .device with
    | .error e => .error e
    | .ok (i, rights) =>
      match lookupSlot b i with
      | .error e => .error e
      | .ok s => .ok (p, i, rights, s)

/-- The resource `resIdx` of the device, of the type `resType`. -/
def lookupResource (d : Devices) (s : DevIdx) (resIdx : ℕ) (resType : ResourceType) :
    Except SyscallError DeviceResourceSlot :=
  if hr : resIdx < 64 then
    if (d.device s).resourceMask &&& (1#64 <<< resIdx) = 0 then .error .invalidArgument
    else
      let res := d.resource ⟨resIdx, hr⟩
      if res.occupied = false ∨ res.resType ≠ resType then .error .invalidArgument else .ok res
  else .error .invalidArgument

/-- The size of `DeviceInfo`. -/
def deviceInfoSize : ℕ := 32

variable (pid : ℕ) (hd : Handle)

/-- The information is written to the memory of the caller, which is no part of the tables. -/
def dispatchDevQuery (size : ℕ) (range : Except SyscallError Unit) (b : Board) :
    Reply :=
  if size < deviceInfoSize then answer (.error .invalidArgument) b
  else
    match range with
    | .error e => answer (.error e) b
    | .ok () =>
      match lookupDevice b pid hd CapRights.inspect with
      | .error e => answer (.error e) b
      | .ok _ => answer (.ok 0) b

/-- `mapping_refs.saturating_add(1)` on the object `i`. -/
def addMappingRef (k : Kernel) (i : ObjIdx) : Kernel :=
  let header := (k.object i).header
  let o := { k.object i with
    header := { header with mappingRefs := min (header.mappingRefs + 1) (2 ^ 16 - 1) } }
  { k with object := update k.object i o }

def dispatchDevMapMmio (resIdx : ℕ) (range : Except SyscallError Unit)
    (b : Board) : Reply :=
  match range with
  | .error e => answer (.error e) b
  | .ok () =>
    match lookupDevice b pid hd CapRights.devMapMmio with
    | .error e => answer (.error e) b
    | .ok (p, i, rights, s) =>
      match lookupResource b.devices s resIdx .mmio with
      | .error e => answer (.error e) b
      | .ok res => do
        let k := b.kernel
        let writable := rights &&& CapRights.devWrite ≠ 0
        let (r, d, m) ← mapDeviceMmio k.geometry (k.process p).addressSpace res.base res.size writable
          b.devices (memory k)
        match r with
        | .error _ => answer (.error .outOfMemory) { kernel := setMemory k m, devices := d }
        | .ok _ => answer (.ok 0) { kernel := addMappingRef (setMemory k m) i, devices := d }

def dispatchDevDmaAlloc (frameCount : ℕ) (physRange : Except SyscallError Unit)
    (vaddrRange : Except SyscallError Unit) (b : Board) : Reply :=
  match physRange, vaddrRange with
  | .error e, _ => answer (.error e) b
  | .ok (), .error e => answer (.error e) b
  | .ok (), .ok () =>
    match lookupDevice b pid hd CapRights.devDmaAcquire with
    | .error e => answer (.error e) b
    | .ok (_, _, _, s) =>
      match allocDmaBuffer (b.devices.device s).deviceId pid frameCount .exclusive b.devices
          b.kernel.pmm with
      | (r, d, pmm) =>
        let b := { kernel := { b.kernel with pmm := pmm }, devices := d }
        match r with
        | .ok _ => answer (.ok 0) b
        | .error .outOfMemory => answer (.error .outOfMemory) b
        | .error _ => answer (.error .invalidArgument) b

def dispatchDevReset (b : Board) : Reply :=
  match lookupDevice b pid hd CapRights.devReset with
  | .error e => answer (.error e) b
  | .ok (_, i, _, s) =>
    let slot := b.devices.device s
    if slot.driverPid ≠ pid ∧ 1 < (b.kernel.object i).header.handleRefs then
      answer (.error .permissionDenied) b
    else
      -- the device passes through `Resetting` under the lock
      let device := update b.devices.device s { slot with state := .ready }
      answer (.ok 0) { b with devices := { b.devices with device := device } }

def dispatchDevBindIrq (devHandle : Handle) (resIdx : ℕ) (eventHandle : Handle) (b : Board) :
    Reply :=
  match resolveCurrentProcessSlot b.kernel pid with
  | .error e => answer (.error (ipcToSyscallErr e)) b
  | .ok p =>
    match lookupObject b.kernel p devHandle CapRights.devInterruptListen .device with
    | .error e => answer (.error e) b
    | .ok (i, _) =>
      match lookupObject b.kernel p eventHandle 0 .event with
      | .error e => answer (.error e) b
      | .ok (event, _) =>
        match lookupSlot b i with
        | .error e => answer (.error e) b
        | .ok s =>
          match lookupResource b.devices s resIdx .irq with
          | .error e => answer (.error e) b
          | .ok res =>
            match registerIrqBinding (Fin.ofNat 256 res.base) res.sharing (b.devices.device s).deviceId
                pid (b.kernel.object event).header.objectId b.devices with
            | (r, d) =>
              let b := { b with devices := d }
              match r with
              | .ok _ => answer (.ok 0) b
              | .error .resourceConflict => answer (.error .resourceConflict) b
              | .error _ => answer (.error .outOfMemory) b

end ProjectZero.Dev.Calls
