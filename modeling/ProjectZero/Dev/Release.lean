import ProjectZero.Dev.Calls
import ProjectZero.Task.Zombies

/-! # Process exit and devices

A process gets interrupt bindings and DMA buffers by system calls. Process exit does not know about
devices, and no call gives anything back: a zombie has released its devices exactly if it never got
any. -/

namespace ProjectZero.Dev.Release

open Lib.Run ProjectZero.Tables Mm.Pmm Ipc.Object Ipc.Handle Net.Tables Dev.Tables Interrupt
open Dma Mmio Calls Task.Process Task.Zombies

/-! ### The system -/

/-- The device calls, with what the checks of the caller's memory say. -/
inductive DevCall
  | query (hd : Handle) (size : ℕ) (range : Except SyscallError Unit)
  | mapMmio (hd : Handle) (resIdx : ℕ) (range : Except SyscallError Unit)
  | dmaAlloc (hd : Handle) (frameCount : ℕ) (physRange vaddrRange : Except SyscallError Unit)
  | reset (hd : Handle)
  | bindIrq (devHandle : Handle) (resIdx : ℕ) (eventHandle : Handle)

def DevCall.dispatch (pid : ℕ) (b : Board) : DevCall → Reply
  | .query hd size range => dispatchDevQuery pid hd size range b
  | .mapMmio hd resIdx range => dispatchDevMapMmio pid hd resIdx range b
  | .dmaAlloc hd frameCount physRange vaddrRange =>
    dispatchDevDmaAlloc pid hd frameCount physRange vaddrRange b
  | .reset hd => dispatchDevReset pid hd b
  | .bindIrq devHandle resIdx eventHandle => dispatchDevBindIrq pid devHandle resIdx eventHandle b

/-- The call is one of the two that hand something out. -/
def DevCall.grants : DevCall → Bool
  | .dmaAlloc .. | .bindIrq .. => true
  | _ => false

/-- The frame is in a DMA buffer of the process. -/
def HeldBy (d : Devices) (pid : ℕ) (f : PhysFrame) : Prop :=
  ∃ b, (d.buffer b).occupied ∧ (d.buffer b).owningPid = pid ∧
    ∃ i : Fin 16, i.val < (d.buffer b).frameCount ∧
      ∃ j : PinIdx, (d.buffer b).frameIndices i = BitVec.ofNat 16 j.val ∧ (d.pin j).physAddr = f

/-- The machine with a record of the past: the frames that have been in DMA buffers of each process, and
the processes that were granted a buffer or a binding. -/
structure Site where
  board : Board
  former : ℕ → Set PhysFrame
  granted : List ℕ

/-- The site after a call of the process `pid`. -/
def Site.after (σ : Site) (pid : ℕ) (c : DevCall) (r : Except SyscallError ℕ) (b : Board) : Site :=
  { board := b
    former := fun q => σ.former q ∪ {f | HeldBy b.devices q f}
    granted := if c.grants && r.isOk then pid :: σ.granted else σ.granted }

/-- No device is driven, no binding and no buffer is held by a process, and all processes are alive. -/
structure Start (σ : Site) : Prop where
  driver : ∀ s, (σ.board.devices.device s).occupied → (σ.board.devices.device s).driverPid = 0
  binding : ∀ v b, (σ.board.devices.binding v b).occupied →
    (σ.board.devices.binding v b).driverPid = 0
  buffer : ∀ b, (σ.board.devices.buffer b).occupied → (σ.board.devices.buffer b).owningPid = 0
  former : ∀ pid ≠ 0, σ.former pid = ∅
  granted : σ.granted = []
  alive : ∀ p, (σ.board.kernel.process p).occupied → (σ.board.kernel.process p).state ≠ .zombie

/-- A device call of a process, or the exit of one. -/
inductive Next (σ : Site) : Site → Prop
  | call (pid : ℕ) (c : DevCall) {r : Except SyscallError ℕ} {b : Board} :
      c.dispatch pid σ.board = .ok (r, b) → Next σ (σ.after pid c r b)
  | exit (t : TSlot) {k : Kernel} : processExit σ.board.kernel t = .ok k →
      Next σ { σ with board := { σ.board with kernel := k } }

/-- Nothing of the device subsystem belongs to the process any more. -/
structure Released (σ : Site) (pid : ℕ) : Prop where
  device : ∀ s, (σ.board.devices.device s).occupied →
    (σ.board.devices.device s).driverPid ≠ pid
  binding : ∀ v b, (σ.board.devices.binding v b).occupied →
    (σ.board.devices.binding v b).driverPid ≠ pid
  buffer : ∀ b, (σ.board.devices.buffer b).occupied →
    (σ.board.devices.buffer b).owningPid ≠ pid
  frames : ∀ f ∈ σ.former pid, Free σ.board.kernel.pmm f

/-! ### What a call does -/

variable {d d' : Devices} {b b' : Board} {pid : ℕ} {r : Except SyscallError ℕ}

/-- The owners in the tables are the same. -/
structure Kept (d d' : Devices) : Prop where
  device : ∀ s, (d'.device s).occupied = (d.device s).occupied ∧
    (d'.device s).driverPid = (d.device s).driverPid
  binding : d'.binding = d.binding
  buffer : d'.buffer = d.buffer

lemma Kept.refl (d : Devices) : Kept d d := ⟨fun _ => ⟨rfl, rfl⟩, rfl, rfl⟩

/-- A free binding or a free descriptor passes to the process. -/
inductive Gained (pid : ℕ) (d d' : Devices) : Prop
  | binding (v : Vector) (i : Fin 4) (slot : InterruptBinding) : (d.binding v i).occupied = false →
      slot.occupied → slot.driverPid = pid → d'.device = d.device → d'.buffer = d.buffer →
      d'.binding = update d.binding v (update (d.binding v) i slot) →
      Gained pid d d'
  | buffer (i : DmaIdx) (desc : DmaBufferDescriptor) : (d.buffer i).occupied = false →
      desc.occupied → desc.owningPid = pid → d'.device = d.device → d'.binding = d.binding →
      d'.buffer = update d.buffer i desc → Gained pid d d'

/-- The processes are the same; the owners are the same, or the call was granted. -/
def Effect (pid : ℕ) (grants : Bool) (b : Board) (r : Except SyscallError ℕ) (b' : Board) : Prop :=
  b'.kernel.process = b.kernel.process ∧
    if grants && r.isOk then Gained pid b.devices b'.devices else Kept b.devices b'.devices

lemma Effect.refused (pid : ℕ) (grants : Bool) (b : Board) (e : SyscallError) :
    Effect pid grants b (.error e) b := by
  refine ⟨rfl, ?_⟩
  rw [show (grants && (Except.error e : Except SyscallError ℕ).isOk) = false by
    rw [Bool.and_eq_false_iff]; exact .inr rfl]
  exact .refl _

variable {hd : Handle}

variable {size resIdx : ℕ} {range : Except SyscallError Unit}

lemma effect_query
    (h : dispatchDevQuery pid hd size range b = .ok (r, b')) : Effect pid false b r b' := by
  unfold dispatchDevQuery at h
  iterate 3
    split at h
    · cases h
      exact .refused pid false b _
  · cases h
    exact ⟨rfl, .refl _⟩

lemma allocateMmioVirtualWindow_kept (size : ℕ) (d : Devices) :
    Kept d (allocateMmioVirtualWindow size d).2 := by
  unfold allocateMmioVirtualWindow
  split
  · exact .refl d
  simp only
  split
  · exact ⟨fun _ => ⟨rfl, rfl⟩, rfl, rfl⟩
  · exact ⟨fun _ => ⟨rfl, rfl⟩, rfl, rfl⟩

lemma mapDeviceMmio_kept {g : AddressSpaceGeometry} {root : PhysFrame} {physBase : ℕ}
    {writable : Bool} {m m' : Mm.Vmm.Memory} {res : Except DeviceError ℕ}
    (h : mapDeviceMmio g root physBase size writable d m = .ok (res, d', m')) : Kept d d' := by
  unfold mapDeviceMmio at h
  split at h
  · cases h
    exact .refl d
  have hkept := allocateMmioVirtualWindow_kept size d
  split at h
  next hw =>
    rw [hw] at hkept
    cases h
    exact hkept
  rename_i hw
  rw [hw] at hkept
  obtain ⟨⟨res', m1⟩, -, h⟩ := bind_eq_ok h
  cases res' with
  | error | ok =>
    cases h
    exact hkept

lemma effect_mapMmio
    (h : dispatchDevMapMmio pid hd resIdx range b = .ok (r, b')) : Effect pid false b r b' := by
  unfold dispatchDevMapMmio at h
  iterate 3
    split at h
    · cases h
      exact .refused pid false b _
  obtain ⟨⟨res, d, m⟩, hmap, h⟩ := bind_eq_ok h
  have hkept := mapDeviceMmio_kept hmap
  cases res with
  | error | ok =>
    cases h
    exact ⟨rfl, hkept⟩

lemma effect_reset (h : dispatchDevReset pid hd b = .ok (r, b')) : Effect pid false b r b' := by
  unfold dispatchDevReset at h
  split at h
  · cases h
    exact .refused pid false b _
  rename_i s _
  simp only at h
  split at h
  · cases h
    exact .refused pid false b _
  cases h
  refine ⟨rfl, ⟨fun s' => ?_, rfl, rfl⟩⟩
  dsimp only
  by_cases hs : s' = s
  · subst hs
    rw [update_self]
    exact ⟨rfl, rfl⟩
  rw [update_of_ne hs]
  exact ⟨rfl, rfl⟩

lemma effect_dmaAlloc {frameCount : ℕ} {physRange vaddrRange : Except SyscallError Unit}
    (h : dispatchDevDmaAlloc pid hd frameCount physRange vaddrRange b = .ok (r, b')) :
    Effect pid true b r b' := by
  unfold dispatchDevDmaAlloc at h
  split at h
  · cases h
    exact .refused pid true b _
  · cases h
    exact .refused pid true b _
  split at h
  · cases h
    exact .refused pid true b _
  rename_i s _
  rcases allocDmaBuffer_cases (b.devices.device s).deviceId pid frameCount .exclusive b.devices
    b.kernel.pmm with ⟨e, pin, pmm, he⟩ | ⟨a, i, desc, pin, next, pmm, hfree, hocc, hown, he⟩
  · rw [he] at h
    have hkept : Kept b.devices { b.devices with pin := pin } := ⟨fun _ => ⟨rfl, rfl⟩, rfl, rfl⟩
    simp only at h
    split at h
    next hok =>
      cases hok
    · cases h
      exact ⟨rfl, hkept⟩
    cases h
    exact ⟨rfl, hkept⟩
  rw [he] at h
  cases h
  exact ⟨rfl, .buffer i desc hfree hocc hown rfl rfl rfl⟩

lemma effect_bindIrq {devHandle eventHandle : Handle}
    (h : dispatchDevBindIrq pid devHandle resIdx eventHandle b = .ok (r, b')) :
    Effect pid true b r b' := by
  unfold dispatchDevBindIrq at h
  iterate 4
    split at h
    · cases h
      exact .refused pid true b _
  rename_i event _ _ _ s _
  split at h
  · cases h
    exact .refused pid true b _
  rename_i res _
  rcases registerIrqBinding_cases (Fin.ofNat 256 res.base) res.sharing (b.devices.device s).deviceId
    pid (b.kernel.object event).header.objectId b.devices with
    ⟨e, line, he⟩ | ⟨id, i, slot, line, hfree, hocc, hpid, he⟩
  · rw [he] at h
    have hkept : Kept b.devices { b.devices with line := line } := ⟨fun _ => ⟨rfl, rfl⟩, rfl, rfl⟩
    simp only at h
    split at h
    next hok =>
      cases hok
    · cases h
      exact ⟨rfl, hkept⟩
    cases h
    exact ⟨rfl, hkept⟩
  rw [he] at h
  cases h
  exact ⟨rfl, .binding _ i slot hfree hocc hpid rfl rfl rfl⟩

variable {c : DevCall}

/-- **What a device call does** to the processes and to the owners. -/
lemma effect_dispatch (h : c.dispatch pid b = .ok (r, b')) : Effect pid c.grants b r b' := by
  cases c with
  | query hd size range => exact effect_query h
  | mapMmio hd resIdx range => exact effect_mapMmio h
  | dmaAlloc hd frameCount physRange vaddrRange => exact effect_dmaAlloc h
  | reset hd => exact effect_reset h
  | bindIrq devHandle resIdx eventHandle => exact effect_bindIrq h

/-! ### Owners over a run -/

/-- The process owns a binding or a buffer. -/
def Owns (d : Devices) (pid : ℕ) : Prop :=
  (∃ v i, (d.binding v i).occupied ∧ (d.binding v i).driverPid = pid) ∨
    ∃ i, (d.buffer i).occupied ∧ (d.buffer i).owningPid = pid

lemma Kept.owns (h : Kept d d') (q : ℕ) : Owns d' q ↔ Owns d q := by
  unfold Owns
  rw [h.binding, h.buffer]

lemma Gained.owns_self (h : Gained pid d d') : Owns d' pid := by
  cases h with
  | binding v i slot hfree hocc hpid hdev hbuf hbind =>
    refine .inl ⟨v, i, ?_⟩
    rw [hbind, update_self, update_self]
    exact ⟨hocc, hpid⟩
  | buffer i desc hfree hocc hown hdev hbind hbuf =>
    refine .inr ⟨i, ?_⟩
    rw [hbuf, update_self]
    exact ⟨hocc, hown⟩

/-- The others own what they owned: the slot that was filled was free. -/
lemma Gained.owns_other (h : Gained pid d d') {q : ℕ} (hq : q ≠ pid) : Owns d' q ↔ Owns d q := by
  unfold Owns
  cases h with
  | binding v i slot hfree hocc hpid hdev hbuf hbind =>
    rw [hbuf]
    have hsame : ∀ w j, ¬(w = v ∧ j = i) → d'.binding w j = d.binding w j := by
      intro w j hw
      rw [hbind]
      by_cases hv : w = v
      · subst hv
        rw [update_self, update_of_ne fun hj => hw ⟨rfl, hj⟩]
      · rw [update_of_ne hv]
    refine or_congr_left ⟨?_, ?_⟩
    · rintro ⟨w, j, hocc', hpid'⟩
      by_cases hw : w = v ∧ j = i
      · obtain ⟨rfl, rfl⟩ := hw
        rw [hbind, update_self, update_self, hpid] at hpid'
        exact absurd hpid'.symm hq
      rw [hsame w j hw] at hocc' hpid'
      exact ⟨w, j, hocc', hpid'⟩
    rintro ⟨w, j, hocc', hpid'⟩
    refine ⟨w, j, ?_⟩
    rw [hsame w j]
    · exact ⟨hocc', hpid'⟩
    rintro ⟨rfl, rfl⟩
    rw [hfree] at hocc'
    cases hocc'
  | buffer i desc hfree hocc hown hdev hbind hbuf =>
    rw [hbind]
    refine or_congr_right ⟨?_, ?_⟩
    · rintro ⟨j, hocc', hown'⟩
      by_cases hj : j = i
      · subst hj
        rw [hbuf, update_self, hown] at hown'
        exact absurd hown'.symm hq
      rw [hbuf, update_of_ne hj] at hocc' hown'
      exact ⟨j, hocc', hown'⟩
    rintro ⟨j, hocc', hown'⟩
    have hj : j ≠ i := by
      rintro rfl
      rw [hfree] at hocc'
      cases hocc'
    refine ⟨j, ?_⟩
    rw [hbuf, update_of_ne hj]
    exact ⟨hocc', hown'⟩

/-- What every step keeps: no device is driven by a process, the processes that own something are those
that were granted something, only they have had frames, and zombies are processes of users. -/
structure Tracked (σ : Site) : Prop where
  driver : ∀ s, (σ.board.devices.device s).occupied → (σ.board.devices.device s).driverPid = 0
  owns_iff : ∀ pid ≠ 0, (Owns σ.board.devices pid ↔ pid ∈ σ.granted)
  former : ∀ pid ≠ 0, pid ∉ σ.granted → σ.former pid = ∅
  zombie : ∀ p, (σ.board.kernel.process p).occupied →
    (σ.board.kernel.process p).state = .zombie → (σ.board.kernel.process p).id ≠ 0

variable {σ : Site}

lemma tracked_start (h : Start σ) : Tracked σ where
  driver := h.driver
  owns_iff pid hpid := by
    rw [h.granted]
    refine iff_of_false ?_ (by simp)
    rintro (⟨v, i, hocc, hp⟩ | ⟨i, hocc, hp⟩)
    · exact hpid (hp.symm.trans (h.binding v i hocc))
    · exact hpid (hp.symm.trans (h.buffer i hocc))
  former pid hpid _ := h.former pid hpid
  zombie p hocc hz := absurd hz (h.alive p hocc)

lemma Tracked.call (h : Tracked σ)
    (hc : c.dispatch pid σ.board = .ok (r, b')) : Tracked (σ.after pid c r b') := by
  obtain ⟨hproc, heff⟩ := effect_dispatch hc
  have hdriver : ∀ s, (b'.devices.device s).occupied → (b'.devices.device s).driverPid = 0 := by
    intro s hs
    split at heff
    · have hdev : b'.devices.device = σ.board.devices.device := by cases heff <;> assumption
      rw [hdev] at hs ⊢
      exact h.driver s hs
    rw [(heff.device s).2]
    exact h.driver s ((heff.device s).1.symm.trans hs)
  have howns : ∀ q ≠ 0, (Owns b'.devices q ↔ q ∈ (σ.after pid c r b').granted) := by
    intro q hq
    show _ ↔ q ∈ if _ then _ else _
    split at heff
    next hg =>
      rw [if_pos hg, List.mem_cons]
      by_cases hqp : q = pid
      · rw [hqp]
        exact iff_of_true heff.owns_self (.inl rfl)
      rw [heff.owns_other hqp, h.owns_iff q hq]
      exact ⟨.inr, fun ho => ho.resolve_left hqp⟩
    rename_i hg
    rw [if_neg hg, heff.owns q]
    exact h.owns_iff q hq
  refine ⟨hdriver, howns, fun q hq hg => ?_, fun p hocc hz => ?_⟩
  · -- a process that was granted nothing owns no buffer, and never has had a frame
    have hold : q ∉ σ.granted := by
      intro hmem
      refine hg ?_
      show q ∈ if _ then _ else _
      split
      · exact List.mem_cons_of_mem _ hmem
      · exact hmem
    have hempty : ∀ f, ¬HeldBy b'.devices q f := by
      rintro f ⟨i, hocc, hown, -⟩
      exact hg ((howns q hq).mp (.inr ⟨i, hocc, hown⟩))
    show σ.former q ∪ _ = ∅
    rw [h.former q hq hold, Set.empty_union]
    exact Set.eq_empty_of_forall_notMem hempty
  change (b'.kernel.process p).occupied = true at hocc
  change (b'.kernel.process p).state = .zombie at hz
  show (b'.kernel.process p).id ≠ 0
  rw [hproc] at hocc hz ⊢
  exact h.zombie p hocc hz

variable {k : Kernel}

lemma Tracked.exit (h : Tracked σ) {t : TSlot} (he : processExit σ.board.kernel t = .ok k) :
    Tracked { σ with board := { σ.board with kernel := k } } := by
  refine ⟨h.driver, h.owns_iff, h.former, fun p hocc hz => ?_⟩
  obtain ⟨q, -, -, hid, -, hproc⟩ := processExit_table he
  rw [hproc] at hocc hz ⊢
  by_cases hp : p = q
  · subst hp
    rw [update_self]
    exact hid
  rw [update_of_ne hp] at hocc hz ⊢
  exact h.zombie p hocc hz

/-- **A zombie has released its devices** exactly if no DMA allocation and no interrupt binding was
ever granted to it. -/
theorem zombie_released (hr : Reach Start Next σ) {p : PSlot}
    (hocc : (σ.board.kernel.process p).occupied = true)
    (hz : (σ.board.kernel.process p).state = .zombie) :
    Released σ (σ.board.kernel.process p).id ↔ (σ.board.kernel.process p).id ∉ σ.granted := by
  have h : Tracked σ := by
    refine hr.invariant (I := Tracked) (fun _ => tracked_start) fun τ τ' hτ hstep => ?_
    cases hstep with
    | call pid c hc => exact hτ.call hc
    | exit t he => exact hτ.exit he
  have hid := h.zombie p hocc hz
  rw [← h.owns_iff _ hid]
  constructor
  · rintro hrel (⟨v, i, ho, hp⟩ | ⟨i, ho, hp⟩)
    · exact hrel.binding v i ho hp
    · exact hrel.buffer i ho hp
  intro hnot
  refine ⟨fun s ho hp => ?_, fun v i ho hp => hnot (.inl ⟨v, i, ho, hp⟩),
    fun i ho hp => hnot (.inr ⟨i, ho, hp⟩), fun f hf => ?_⟩
  · exact hid (hp.symm.trans (h.driver s ho))
  rw [h.former _ hid fun hg => hnot ((h.owns_iff _ hid).mpr hg)] at hf
  cases hf

/-! ### A process with a device -/

/-- Two processes, of which the first has a handle for DMA buffers of a device. -/
def equipped : Except Halt Kernel := do
  let k := { Ipc.Steps.twoProcesses.kernel with
    object := fun _ => { KernelObjectSlot.empty with generation := 2 } }
  match allocateObjectSlotLocked k .device 0 0 with
  | (.error _, _) => .error .panic
  | (.ok i, k) => do
    let (_, k) ← allocateHandleEntryLocked k 1 i CapRights.devDmaAcquire 0
    .ok k

/-- A device as `register_device` leaves it. -/
def discovered : DeviceSlot :=
  { occupied := true, deviceClass := .network, state := .discovered, generation := 2, deviceId := 2,
    driverPid := 0, resourceMask := 0 }

/-- The first slot of the registry has a device. -/
def plugged (k : Kernel) : Site :=
  let device := update Devices.boot.device 0 discovered
  { board := { kernel := k, devices := { Devices.boot with device := device } }
    former := fun _ => ∅
    granted := [] }

lemma start_plugged
    (h : ∀ p, (k.process p).occupied → (k.process p).state ≠ .zombie) : Start (plugged k) where
  driver s _ := by
    show (update Devices.boot.device 0 discovered s).driverPid = 0
    by_cases hs : s = 0
    · subst hs
      rfl
    rw [update_of_ne hs]
    rfl
  binding _ _ ho := by cases ho
  buffer _ ho := by cases ho
  former _ _ := rfl
  granted := rfl
  alive := h

theorem zombie_released_idle : ∃ σ, Reach Start Next σ ∧ (σ.board.kernel.process 1).state = .zombie ∧
    (Released σ (σ.board.kernel.process 1).id ↔ (σ.board.kernel.process 1).id ∉ σ.granted) := by
  obtain ⟨⟨k, k'⟩, hr, halive, hocc, hz⟩ : ∃ x : Kernel × Kernel,
      (equipped >>= fun k => processExit k 1 >>= fun k' => .ok (k, k')) = .ok x ∧
      (∀ p, (x.1.process p).occupied = true → (x.1.process p).state ≠ .zombie) ∧
      (x.2.process 1).occupied = true ∧ (x.2.process 1).state = .zombie :=
    exists_ok (by decide +kernel)
  obtain ⟨k1, -, hr⟩ := bind_eq_ok hr
  obtain ⟨k2, hexit, hr⟩ := bind_eq_ok hr
  cases hr
  have hreach : Reach Start Next (plugged k) := .start (start_plugged halive)
  have hnext := hreach.next (.exit 1 (show processExit (plugged k).board.kernel 1 = .ok k' from hexit))
  exact ⟨_, hnext, hz, zombie_released hnext hocc hz⟩

/-- **A process that exits** with a DMA buffer stays its owner as a zombie. -/
theorem zombie_keeps_buffer : ∃ σ, Reach Start Next σ ∧
    (σ.board.kernel.process 1).occupied = true ∧ (σ.board.kernel.process 1).state = .zombie ∧
    (σ.board.devices.buffer 0).occupied = true ∧
    (σ.board.devices.buffer 0).owningPid = (σ.board.kernel.process 1).id ∧
    ¬Released σ (σ.board.kernel.process 1).id := by
  obtain ⟨⟨k, r, b, k'⟩, hr, halive, hocc, hz, hbuf, hown⟩ :
      ∃ x : Kernel × Except SyscallError ℕ × Board × Kernel,
      (equipped >>= fun k =>
        (DevCall.dmaAlloc (.new 0 1) 1 (.ok ()) (.ok ())).dispatch 1 (plugged k).board >>= fun y =>
        processExit y.2.kernel 1 >>= fun k' => .ok (k, y.1, y.2, k')) = .ok x ∧
      (∀ p, (x.1.process p).occupied = true → (x.1.process p).state ≠ .zombie) ∧
      (x.2.2.2.process 1).occupied = true ∧ (x.2.2.2.process 1).state = .zombie ∧
      (x.2.2.1.devices.buffer 0).occupied = true ∧
      (x.2.2.1.devices.buffer 0).owningPid = (x.2.2.2.process 1).id :=
    exists_ok (by decide +kernel)
  obtain ⟨k1, -, hr⟩ := bind_eq_ok hr
  obtain ⟨⟨r1, b1⟩, hcall, hr⟩ := bind_eq_ok hr
  obtain ⟨k2, hexit, hr⟩ := bind_eq_ok hr
  cases hr
  have hreach : Reach Start Next (plugged k) := .start (start_plugged halive)
  have hgranted := hreach.next (.call 1 _ hcall)
  have hnext := hgranted.next (.exit 1 (show processExit
    ((plugged k).after 1 _ r1 b1).board.kernel 1 = .ok k' from hexit))
  exact ⟨_, hnext, hocc, hz, hbuf, hown, fun hrel => hrel.buffer 0 hbuf hown⟩

end ProjectZero.Dev.Release
