import ProjectZero.Net.Tables

/-! # Device tables

The tables of the device subsystem: the registry of devices and of their resources, the interrupt
bindings of every vector, the DMA buffers and the frames pinned for them, and the next free address of
the aperture for device registers. -/

namespace ProjectZero.Dev.Tables

open ProjectZero.Tables

def maxSharedIrqBindings : ℕ := 4
def maxFramesPerBuffer : ℕ := 16

abbrev DevIdx := Fin 16
abbrev ResIdx := Fin 64
abbrev Vector := Fin 256
abbrev DmaIdx := Fin 32
abbrev PinIdx := Fin 128

inductive DeviceError
  | deviceNotFound | resourceConflict | deviceFault | deviceBusy | permissionDenied | outOfMemory
  | invalidParameter | capacityExceeded
  deriving DecidableEq

/-! ### Registry -/

inductive DeviceClass
  | unknown | storage | network | display | input | busController | accelerator | timer
  | interruptController | platform
  deriving DecidableEq

inductive DeviceLifecycleState
  | discovered | probed | attached | ready | active | quiescing | detached | released | faulted
  | resetting
  deriving DecidableEq

inductive ResourceType
  | unused | ioPort | mmio | irq | dmaBuffer
  deriving DecidableEq

inductive ResourceSharing
  | exclusive | shared
  deriving DecidableEq

structure DeviceSlot where
  occupied : Bool
  deviceClass : DeviceClass
  state : DeviceLifecycleState
  generation : BitVec 16
  deviceId : ℕ
  driverPid : ℕ
  resourceMask : BitVec 64
  deriving DecidableEq

def DeviceSlot.empty : DeviceSlot :=
  { occupied := false, deviceClass := .unknown, state := .released, generation := 1, deviceId := 0,
    driverPid := 0, resourceMask := 0 }

structure DeviceResourceSlot where
  occupied : Bool
  resType : ResourceType
  sharing : ResourceSharing
  deviceId : ℕ
  base : ℕ
  size : ℕ
  deriving DecidableEq

def DeviceResourceSlot.empty : DeviceResourceSlot :=
  { occupied := false, resType := .unused, sharing := .exclusive, deviceId := 0, base := 0, size := 0 }

/-! ### Interrupts -/

structure InterruptBinding where
  occupied : Bool
  bindingId : BitVec 16
  deviceId : ℕ
  driverPid : ℕ
  eventObjectId : ℕ
  interruptCount : ℕ
  deriving DecidableEq

def InterruptBinding.empty : InterruptBinding :=
  { occupied := false, bindingId := 0, deviceId := 0, driverPid := 0, eventObjectId := 0,
    interruptCount := 0 }

structure IrqLineState where
  activeBindings : ℕ
  sharing : ResourceSharing
  deriving DecidableEq

def IrqLineState.empty : IrqLineState := { activeBindings := 0, sharing := .exclusive }

/-! ### DMA -/

/-- A DMA buffer; its frames are those of the pins `frameIndices` below `frameCount`. -/
structure DmaBufferDescriptor where
  occupied : Bool
  bufferId : BitVec 32
  frameCount : ℕ
  sharing : ResourceSharing
  deviceId : ℕ
  owningPid : ℕ
  physBase : PhysFrame
  frameIndices : Fin 16 → BitVec 16
  deriving DecidableEq

def DmaBufferDescriptor.empty : DmaBufferDescriptor :=
  { occupied := false, bufferId := 0, frameCount := 0, sharing := .exclusive, deviceId := 0,
    owningPid := 0, physBase := 0, frameIndices := fun _ => 0xFFFF#16 }

structure PhysicalFramePinRecord where
  occupied : Bool
  pinCount : ℕ
  owningBufferMask : BitVec 32
  physAddr : PhysFrame
  deriving DecidableEq

def PhysicalFramePinRecord.empty : PhysicalFramePinRecord :=
  { occupied := false, pinCount := 0, owningBufferMask := 0, physAddr := 0 }

/-! ### The subsystem -/

structure Devices where
  device : DevIdx → DeviceSlot
  resource : ResIdx → DeviceResourceSlot
  binding : Vector → Fin 4 → InterruptBinding
  line : Vector → IrqLineState
  buffer : DmaIdx → DmaBufferDescriptor
  pin : PinIdx → PhysicalFramePinRecord
  nextBufferId : BitVec 32
  nextMmioVaddr : BitVec 64

/-- The tables after `dev::init`. -/
def Devices.boot : Devices :=
  { device := fun _ => .empty, resource := fun _ => .empty, binding := fun _ _ => .empty,
    line := fun _ => .empty, buffer := fun _ => .empty, pin := fun _ => .empty, nextBufferId := 1,
    nextMmioVaddr := BitVec.ofNat 64 userDevMmioBase }

/-- The kernel with its devices. -/
structure Board where
  kernel : Kernel
  devices : Devices

end ProjectZero.Dev.Tables
