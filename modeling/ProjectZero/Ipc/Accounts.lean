import ProjectZero.Cap.Calls
import ProjectZero.Ipc.Queues
import ProjectZero.Lib.Count

/-! # The accounts of the kernel objects

The three reference counters of an object and the handle counter of a process count entries of tables.
`Ledger` says that they are exact, that references name current objects of the right type, and that
who waits on a channel is blocked and holds a pin on its object. `Busy` says that every object has a
reference left. The lemmas of this module are about the changes the operations are made of: a
reference is taken, dropped or handed on, and an object is made or freed. -/

namespace ProjectZero.Ipc.Accounts

open Lib.Count Tables Cap.Ops Cap.RevokeLoop Cap.Calls Queues

def handleTarget (_ : Slot) (e : HandleEntry) : Option ObjIdx :=
  if e.occupied then some e.objectIndex else none

def handleOwner (s : Slot) (e : HandleEntry) : Option PSlot :=
  if e.occupied then some s.1 else none

def mappingTarget (_ : Fin 64) (m : ShmMapping) : Option ObjIdx :=
  if m.occupied then some m.objectIndex else none

def pinTarget (_ : TSlot) (p : ThreadIpcState) : Option ObjIdx :=
  if p.occupied then some p.objectIndex else none

/-- The counters are exact, and what they count is current. -/
structure Tallied (k : Kernel) : Prop where
  handles : Counted handleTarget k.entry fun i => (k.object i).header.handleRefs
  mappings : Counted mappingTarget k.mapping fun i => (k.object i).header.mappingRefs
  pins : Counted pinTarget k.threadIpc fun i => (k.object i).header.inFlightOpRefs
  owned : Counted handleOwner k.entry k.count
  vacant : ∀ i, (k.object i).occupied = false → (k.object i).header.refCount = 0
  handleGen : ∀ s, Live k.entry s →
    (k.entry s).objectGeneration = (k.object (k.entry s).objectIndex).generation
  mappingGen : ∀ j, (k.mapping j).occupied →
    (k.mapping j).objectGeneration = (k.object (k.mapping j).objectIndex).generation
  unsaturated : k.saturated = false

/-- Objects are channels and shared memory, each with a pool entry of its own; mappings are of shared
memory, and calls in flight on channels. -/
structure Kinds (k : Kernel) : Prop where
  objType : ∀ i, (k.object i).occupied →
    (k.object i).objType = .channel ∨ (k.object i).objType = .shmObject
  mapping : ∀ j, (k.mapping j).occupied →
    (k.object (k.mapping j).objectIndex).objType = .shmObject
  pin : ∀ t, (k.threadIpc t).occupied →
    (k.object (k.threadIpc t).objectIndex).objType = .channel
  pool : ∀ i j, (k.object i).occupied → (k.object j).occupied →
    (k.object i).objType = (k.object j).objType →
    (k.object i).poolIndex = (k.object j).poolIndex → i = j

/-- The thread sleeps in a call on the channel `c`. -/
structure Waits (k : Kernel) (c : ℕ) (t : TSlot) : Prop where
  blocked : (k.thread t).state = .blocked
  pinned : (k.threadIpc t).occupied
  channel : (k.object (k.threadIpc t).objectIndex).poolIndex = c

/-- Who is in a wait queue sleeps there, once. -/
structure Queued (k : Kernel) : Prop where
  nodup : ∀ c, (queued (k.channel c)).Nodup
  waits : ∀ c, ∀ t ∈ queued (k.channel c), Waits k c t

structure Ledger (k : Kernel) : Prop where
  tallied : Tallied k
  kinds : Kinds k
  queued : Queued k

-- `L` holds the objects that may stay behind without a reference.
variable {L : ObjIdx → Prop}

/-- Every object but perhaps `i` has a reference left, unless it is among `L`. -/
def BusyBut (L : ObjIdx → Prop) (k : Kernel) (i : ObjIdx) : Prop :=
  ∀ j, j ≠ i → (k.object j).occupied → ¬L j → (k.object j).header.refCount ≠ 0

/-- Every object has a reference left, unless it is among `L`. -/
def Busy (L : ObjIdx → Prop) (k : Kernel) : Prop :=
  ∀ i, (k.object i).occupied → ¬L i → (k.object i).header.refCount ≠ 0

variable {k k' k₁ k₂ k₃ : Kernel}

lemma Busy.but (h : Busy L k) (i : ObjIdx) : BusyBut L k i := fun j _ => h j

variable {i : ObjIdx}

lemma BusyBut.busy (h : BusyBut L k i)
    (hi : (k.object i).occupied → ¬L i → (k.object i).header.refCount ≠ 0) :
    Busy L k := fun j => by
  by_cases hj : j = i
  · subst hj; exact hi
  · exact h j hj

/-! ### References and objects -/

variable {s : Slot}

lemma handleTarget_live (h : Live k.entry s) :
    handleTarget s (k.entry s) = some (k.entry s).objectIndex := if_pos h

lemma refCount_ne_of_live (h : Tallied k) (hs : Live k.entry s) :
    (k.object (k.entry s).objectIndex).header.refCount ≠ 0 := by
  have := h.handles.pos (handleTarget_live hs)
  unfold KernelObjectHeader.refCount
  omega

lemma refCount_ne_of_mapping (h : Tallied k) {j : Fin 64} (hj : (k.mapping j).occupied) :
    (k.object (k.mapping j).objectIndex).header.refCount ≠ 0 := by
  have := h.mappings.pos (a := j) (if_pos hj)
  unfold KernelObjectHeader.refCount
  omega

variable {t : TSlot}

lemma refCount_ne_of_pin (h : Tallied k) (ht : (k.threadIpc t).occupied) :
    (k.object (k.threadIpc t).objectIndex).header.refCount ≠ 0 := by
  have := h.pins.pos (a := t) (if_pos ht)
  unfold KernelObjectHeader.refCount
  omega

lemma Tallied.occupied_of_ne (h : Tallied k)
    (hi : (k.object i).header.refCount ≠ 0) : (k.object i).occupied := by
  by_contra hc
  exact hi (h.vacant i (by simpa using hc))

lemma Tallied.live_occupied (h : Tallied k) (hs : Live k.entry s) :
    (k.object (k.entry s).objectIndex).occupied :=
  h.occupied_of_ne (refCount_ne_of_live h hs)

lemma Tallied.unnamed (h : Tallied k) (hi : (k.object i).header.refCount = 0) :
    (∀ s, Live k.entry s → (k.entry s).objectIndex ≠ i) ∧
    (∀ j, (k.mapping j).occupied → (k.mapping j).objectIndex ≠ i) ∧
    ∀ t, (k.threadIpc t).occupied → (k.threadIpc t).objectIndex ≠ i :=
  ⟨fun _ hs e => refCount_ne_of_live h hs (e ▸ hi),
    fun _ hj e => refCount_ne_of_mapping h hj (e ▸ hi),
    fun _ ht e => refCount_ne_of_pin h ht (e ▸ hi)⟩

/-! ### Object slots that differ in their header -/

/-- The slots agree up to the headers. -/
def Alike (o o' : ObjIdx → KernelObjectSlot) : Prop :=
  ∀ i, (o' i).occupied = (o i).occupied ∧ (o' i).objType = (o i).objType ∧
    (o' i).generation = (o i).generation ∧ (o' i).poolIndex = (o i).poolIndex

lemma Alike.refl (o : ObjIdx → KernelObjectSlot) : Alike o o := fun _ => ⟨rfl, rfl, rfl, rfl⟩

/-- The object table with another header in the slot `i`. -/
def withHeader (o : ObjIdx → KernelObjectSlot) (i : ObjIdx) (header : KernelObjectHeader) :
    ObjIdx → KernelObjectSlot :=
  update o i { o i with header := header }

section

variable (o : ObjIdx → KernelObjectSlot)

include o

lemma alike_withHeader (i : ObjIdx)
    (header : KernelObjectHeader) : Alike o (withHeader o i header) := fun j => by
  unfold withHeader
  by_cases hj : j = i
  · subst hj; simp
  · simp [hj]

@[simp] lemma withHeader_self (i : ObjIdx)
    (header : KernelObjectHeader) : (withHeader o i header i).header = header := by
  simp [withHeader]

lemma withHeader_of_ne {j : ObjIdx}
    (header : KernelObjectHeader) (h : j ≠ i) : withHeader o i header j = o j :=
  update_of_ne h _ _

end

lemma Kinds.of_alike (h : Kinds k) (ho : Alike k.object k'.object)
    (hm : ∀ j, (k'.mapping j).occupied → (k.object (k'.mapping j).objectIndex).objType = .shmObject)
    (hp : ∀ t, (k'.threadIpc t).occupied →
      (k.object (k'.threadIpc t).objectIndex).objType = .channel) : Kinds k' := by
  refine ⟨fun i hi => ?_, fun j hj => ?_, fun t ht => ?_, fun i j hi hj hij hp => ?_⟩
  · rw [(ho i).2.1]
    rw [(ho i).1] at hi
    exact h.objType i hi
  · rw [(ho _).2.1]; exact hm j hj
  · rw [(ho _).2.1]; exact hp t ht
  rw [(ho i).1] at hi
  rw [(ho j).1] at hj
  rw [(ho i).2.1, (ho j).2.1] at hij
  rw [(ho i).2.2.2, (ho j).2.2.2] at hp
  exact h.pool i j hi hj hij hp

lemma Queued.mono (h : Queued k)
    (hsub : ∀ c, (queued (k'.channel c)).Sublist (queued (k.channel c)))
    (hw : ∀ c, ∀ t ∈ queued (k'.channel c), Waits k c t → Waits k' c t) : Queued k' :=
  ⟨fun c => (h.nodup c).sublist (hsub c),
    fun c t ht => hw c t ht (h.waits c t ((hsub c).subset ht))⟩

lemma Waits.of_alike {c : ℕ} (h : Waits k c t)
    (ho : Alike k.object k'.object) (ht : (k'.thread t).state = (k.thread t).state)
    (hp : k'.threadIpc t = k.threadIpc t) : Waits k' c t :=
  ⟨by rw [ht]; exact h.blocked, by rw [hp]; exact h.pinned,
    by rw [hp, (ho _).2.2.2]; exact h.channel⟩

/-! ### One counter of one object changes -/

lemma counter_withHeader (f : KernelObjectHeader → ℕ) (o : ObjIdx → KernelObjectSlot)
    (header : KernelObjectHeader) : (fun j => f (withHeader o i header j).header) =
      update (fun j => f (o j).header) i (f header) := by
  funext j
  by_cases hj : j = i
  · subst hj; rw [withHeader_self, update_self]
  · rw [withHeader_of_ne o header hj, update_of_ne hj]

lemma withHeader_keep (f : KernelObjectHeader → ℕ) {o : ObjIdx → KernelObjectSlot}
    {header : KernelObjectHeader} (h : f header = f (o i).header) (j : ObjIdx) :
    f (withHeader o i header j).header = f (o j).header := by
  refine (congrFun (counter_withHeader f o header) j).trans ?_
  rw [h, update_eq_self i fun j => f (o j).header]

lemma Tallied.header (h : Tallied k) {header : KernelObjectHeader}
    (hi : (k.object i).occupied) (ho : k'.object = withHeader k.object i header)
    (handles : Counted handleTarget k'.entry
      (update (fun j => (k.object j).header.handleRefs) i header.handleRefs))
    (mappings : Counted mappingTarget k'.mapping
      (update (fun j => (k.object j).header.mappingRefs) i header.mappingRefs))
    (pins : Counted pinTarget k'.threadIpc
      (update (fun j => (k.object j).header.inFlightOpRefs) i header.inFlightOpRefs))
    (owned : Counted handleOwner k'.entry k'.count)
    (handleGen : ∀ s, Live k'.entry s →
      (k'.entry s).objectGeneration = (k.object (k'.entry s).objectIndex).generation)
    (mappingGen : ∀ j, (k'.mapping j).occupied →
      (k'.mapping j).objectGeneration = (k.object (k'.mapping j).objectIndex).generation)
    (hsat : k'.saturated = false) : Tallied k' := by
  have ha : Alike k.object k'.object := ho ▸ alike_withHeader k.object i header
  refine ⟨?_, ?_, ?_, owned, fun j hj => ?_, fun s hs => ?_, fun j hj => ?_, hsat⟩
  · rwa [ho, counter_withHeader (·.handleRefs)]
  · rwa [ho, counter_withHeader (·.mappingRefs)]
  · rwa [ho, counter_withHeader (·.inFlightOpRefs)]
  · rw [(ha j).1] at hj
    have hji : j ≠ i := by
      rintro rfl
      rw [hi] at hj
      cases hj
    rw [ho, withHeader_of_ne _ _ hji]
    exact h.vacant j hj
  · rw [(ha _).2.2.1]; exact handleGen s hs
  · rw [(ha _).2.2.1]; exact mappingGen j hj

section Handles

variable {k k' : Kernel} {i : ObjIdx} {s : Slot}

/-- **A handle is installed**: the entry of `s` is filled, the object and the process count it. -/
lemma Tallied.fill (h : Tallied k) (hi : (k.object i).occupied)
    (hs : ¬Live k.entry s) {e : HandleEntry} (he : e.occupied) (hei : e.objectIndex = i)
    (heg : e.objectGeneration = (k.object i).generation) (hentry : k'.entry = update k.entry s e)
    (hcount : k'.count = update k.count s.1 (k.count s.1 + 1))
    (ho : k'.object = withHeader k.object i
      { (k.object i).header with handleRefs := (k.object i).header.handleRefs + 1 })
    (hm : k'.mapping = k.mapping) (hp : k'.threadIpc = k.threadIpc)
    (hsat : k'.saturated = k.saturated) : Tallied k' := by
  have hfree : (k.entry s).occupied = false := by simpa [Live] using hs
  refine h.header hi ho ?_ (by rw [hm]; exact h.mappings.keep rfl)
    (by rw [hp]; exact h.pins.keep rfl) ?_ (fun u hu => ?_) (by rw [hm]; exact h.mappingGen)
    (hsat.trans h.unsaturated)
  · rw [hentry]
    exact h.handles.take (by simp [handleTarget, hfree]) (by simp [handleTarget, he, hei])
  · rw [hentry, hcount]
    exact h.owned.take (by simp [handleOwner, hfree]) (by simp [handleOwner, he])
  rw [hentry] at hu ⊢
  by_cases hus : u = s
  · subst hus; rw [update_self, heg, hei]
  rw [Live, update_of_ne hus] at hu
  rw [update_of_ne hus]
  exact h.handleGen u hu

/-- **A handle is dropped**: the entry of `s` is vacated, the object and the process lose it. -/
lemma Tallied.vacate (h : Tallied k) (hs : Live k.entry s) (hi : (k.entry s).objectIndex = i)
    (hentry : k'.entry = update k.entry s (Cap.Ops.vacate (k.entry s)))
    (hcount : k'.count = update k.count s.1 (k.count s.1 - 1))
    (ho : k'.object = withHeader k.object i
      { (k.object i).header with handleRefs := (k.object i).header.handleRefs - 1 })
    (hm : k'.mapping = k.mapping) (hp : k'.threadIpc = k.threadIpc)
    (hsat : k'.saturated = (k.saturated || decide (k.count s.1 = 0) ||
      decide ((k.object i).header.handleRefs = 0))) : Tallied k' := by
  have ht : handleTarget s (k.entry s) = some i := by rw [handleTarget_live hs, hi]
  have how : handleOwner s (k.entry s) = some s.1 := if_pos hs
  refine h.header (i := i) (hi ▸ h.live_occupied hs) ho ?_ (by rw [hm]; exact h.mappings.keep rfl)
    (by rw [hp]; exact h.pins.keep rfl) ?_ (fun u hu => ?_) (by rw [hm]; exact h.mappingGen) ?_
  · rw [hentry]; exact h.handles.drop ht rfl
  · rw [hentry, hcount]; exact h.owned.drop how rfl
  · rw [hentry] at hu ⊢
    have hus : u ≠ s := by
      rintro rfl
      simp [Live, Cap.Ops.vacate] at hu
    rw [Live, update_of_ne hus] at hu
    rw [update_of_ne hus]
    exact h.handleGen u hu
  have h1 : k.count s.1 ≠ 0 := (h.owned.pos how).ne'
  have h2 : (k.object i).header.handleRefs ≠ 0 := (h.handles.pos ht).ne'
  simp [hsat, h.unsaturated, h1, h2]

/-- **A handle moves** from `s` to `d`: the object keeps its count, and a reference of the process of
`s` becomes one of the process of `d`. -/
lemma Tallied.move (h : Tallied k) {d : Slot} (hs : Live k.entry s) (hd : ¬Live k.entry d)
    {e : HandleEntry} (he : e.occupied) (hei : e.objectIndex = (k.entry s).objectIndex)
    (heg : e.objectGeneration = (k.entry s).objectGeneration)
    (hentry : k'.entry = update (update k.entry d e) s (Cap.Ops.vacate (k.entry s)))
    (hcount : k'.count = update (update k.count s.1 (k.count s.1 - 1)) d.1
      (update k.count s.1 (k.count s.1 - 1) d.1 + 1))
    (ho : k'.object = k.object) (hm : k'.mapping = k.mapping) (hp : k'.threadIpc = k.threadIpc)
    (hsat : k'.saturated = (k.saturated || decide (k.count s.1 = 0))) : Tallied k' := by
  have hsd : s ≠ d := fun e => hd (e ▸ hs)
  have hfree : (k.entry d).occupied = false := by simpa [Live] using hd
  have how : handleOwner s (k.entry s) = some s.1 := if_pos hs
  refine ⟨?_, ?_, ?_, ?_, ?_, fun u hu => ?_, ?_, ?_⟩
  · rw [hentry, ho]
    exact h.handles.pass hsd (handleTarget_live hs) rfl (by simp [handleTarget, hfree])
      (by simp [handleTarget, he, hei])
  · rw [hm, ho]; exact h.mappings
  · rw [hp, ho]; exact h.pins
  · rw [hentry, hcount, update_comm hsd.symm]
    exact (h.owned.drop how rfl).take (by simp [handleOwner, hsd.symm, hfree])
      (by simp [handleOwner, he])
  · rw [ho]; exact h.vacant
  · rw [hentry] at hu ⊢
    rw [ho]
    have hus : u ≠ s := by
      rintro rfl
      simp [Live, Cap.Ops.vacate] at hu
    rw [update_of_ne hus]
    by_cases hud : u = d
    · subst hud; rw [update_self, heg, hei]; exact h.handleGen s hs
    rw [Live, update_of_ne hus, update_of_ne hud] at hu
    rw [update_of_ne hud]
    exact h.handleGen u hu
  · rw [hm, ho]; exact h.mappingGen
  have := (h.owned.pos how).ne'
  simp [hsat, h.unsaturated, this]

end Handles

section Mappings

variable {k k' : Kernel} {i : ObjIdx} {j : Fin 64}

/-- **A mapping is recorded.** -/
lemma Tallied.record (h : Tallied k) (hi : (k.object i).occupied)
    (hj : (k.mapping j).occupied = false) {m : ShmMapping} (hmo : m.occupied)
    (hmi : m.objectIndex = i) (hmg : m.objectGeneration = (k.object i).generation)
    (hm : k'.mapping = update k.mapping j m)
    (ho : k'.object = withHeader k.object i
      { (k.object i).header with mappingRefs := (k.object i).header.mappingRefs + 1 })
    (he : k'.entry = k.entry) (hc : k'.count = k.count) (hp : k'.threadIpc = k.threadIpc)
    (hsat : k'.saturated = k.saturated) : Tallied k' := by
  refine h.header hi ho (by rw [he]; exact h.handles.keep rfl) ?_
    (by rw [hp]; exact h.pins.keep rfl) (by rw [he, hc]; exact h.owned)
    (by rw [he]; exact h.handleGen) (fun u hu => ?_) (hsat.trans h.unsaturated)
  · rw [hm]
    exact h.mappings.take (by simp [mappingTarget, hj]) (by simp [mappingTarget, hmo, hmi])
  rw [hm] at hu ⊢
  by_cases huj : u = j
  · subst huj; rw [update_self, hmg, hmi]
  rw [update_of_ne huj] at hu ⊢
  exact h.mappingGen u hu

/-- **A mapping is removed.** -/
lemma Tallied.unmap (h : Tallied k) (hj : (k.mapping j).occupied)
    (hi : (k.mapping j).objectIndex = i)
    (hm : k'.mapping = update k.mapping j { k.mapping j with occupied := false })
    (ho : k'.object = withHeader k.object i
      { (k.object i).header with mappingRefs := (k.object i).header.mappingRefs - 1 })
    (he : k'.entry = k.entry) (hc : k'.count = k.count) (hp : k'.threadIpc = k.threadIpc)
    (hsat : k'.saturated = (k.saturated || decide ((k.object i).header.mappingRefs = 0))) :
    Tallied k' := by
  have ht : mappingTarget j (k.mapping j) = some i := by simp [mappingTarget, hj, hi]
  refine h.header (i := i) (hi ▸ h.occupied_of_ne (refCount_ne_of_mapping h hj)) ho
    (by rw [he]; exact h.handles.keep rfl) (by rw [hm]; exact h.mappings.drop ht rfl)
    (by rw [hp]; exact h.pins.keep rfl) (by rw [he, hc]; exact h.owned)
    (by rw [he]; exact h.handleGen) (fun u hu => ?_) ?_
  · rw [hm] at hu ⊢
    have huj : u ≠ j := by
      rintro rfl
      simp at hu
    rw [update_of_ne huj] at hu ⊢
    exact h.mappingGen u hu
  have := (h.mappings.pos ht).ne'
  simp [hsat, h.unsaturated, this]

end Mappings

section Pins

variable {k k' : Kernel} {i : ObjIdx} {t : TSlot}

/-- **A call is pinned.** -/
lemma Tallied.pin (h : Tallied k) (hi : (k.object i).occupied)
    (ht : (k.threadIpc t).occupied = false)
    (hp : k'.threadIpc = update k.threadIpc t { occupied := true, objectIndex := i })
    (ho : k'.object = withHeader k.object i
      { (k.object i).header with inFlightOpRefs := (k.object i).header.inFlightOpRefs + 1 })
    (he : k'.entry = k.entry) (hc : k'.count = k.count) (hm : k'.mapping = k.mapping)
    (hsat : k'.saturated = k.saturated) : Tallied k' := by
  refine h.header hi ho (by rw [he]; exact h.handles.keep rfl)
    (by rw [hm]; exact h.mappings.keep rfl) ?_ (by rw [he, hc]; exact h.owned)
    (by rw [he]; exact h.handleGen) (by rw [hm]; exact h.mappingGen) (hsat.trans h.unsaturated)
  rw [hp]
  exact h.pins.take (by simp [pinTarget, ht]) rfl

/-- **A pin is released.** -/
lemma Tallied.unpin (h : Tallied k) (ht : (k.threadIpc t).occupied)
    (hi : (k.threadIpc t).objectIndex = i)
    (hp : k'.threadIpc = update k.threadIpc t { k.threadIpc t with occupied := false })
    (ho : k'.object = withHeader k.object i
      { (k.object i).header with inFlightOpRefs := (k.object i).header.inFlightOpRefs - 1 })
    (he : k'.entry = k.entry) (hc : k'.count = k.count) (hm : k'.mapping = k.mapping)
    (hsat : k'.saturated = (k.saturated || decide ((k.object i).header.inFlightOpRefs = 0))) :
    Tallied k' := by
  have htarget : pinTarget t (k.threadIpc t) = some i := by simp [pinTarget, ht, hi]
  refine h.header (i := i) (hi ▸ h.occupied_of_ne (refCount_ne_of_pin h ht)) ho
    (by rw [he]; exact h.handles.keep rfl) (by rw [hm]; exact h.mappings.keep rfl)
    (by rw [hp]; exact h.pins.drop htarget rfl) (by rw [he, hc]; exact h.owned)
    (by rw [he]; exact h.handleGen) (by rw [hm]; exact h.mappingGen) ?_
  have := (h.pins.pos htarget).ne'
  simp [hsat, h.unsaturated, this]

end Pins

/-! ### Objects are made and freed -/

section Objects

variable {k k' : Kernel} {i : ObjIdx}

/-- The slot `i` has a new object; handles, mappings, pins and threads are as they were. -/
structure Replaced (k k' : Kernel) (i : ObjIdx) (o : KernelObjectSlot) : Prop where
  object : k'.object = update k.object i o
  entry : k'.entry = k.entry
  count : k'.count = k.count
  mapping : k'.mapping = k.mapping
  threadIpc : k'.threadIpc = k.threadIpc
  saturated : k'.saturated = k.saturated
  thread : k'.thread = k.thread

variable {o : KernelObjectSlot}

lemma Replaced.self (hk : Replaced k k' i o) : k'.object i = o := by rw [hk.object, update_self]

lemma Replaced.other (hk : Replaced k k' i o) (j : ObjIdx) (hj : j ≠ i) :
    k'.object j = k.object j := by
  rw [hk.object, update_of_ne hj]

/-- **An object slot without references changes**, to one without references. -/
lemma Tallied.object (h : Tallied k) (hi : (k.object i).header.refCount = 0)
    (hor : o.header.refCount = 0) (hk : Replaced k k' i o) : Tallied k' := by
  have hself := hk.self
  have hother := hk.other
  obtain ⟨hu, hmu, -⟩ := h.unnamed hi
  have hkeep : ∀ f : KernelObjectHeader → ℕ, f (k.object i).header = 0 → f o.header = 0 →
      ∀ j, f (k'.object j).header = f (k.object j).header := by
    intro f h1 h2 j
    by_cases hj : j = i
    · subst hj; rw [hself, h1, h2]
    · rw [hother j hj]
  unfold KernelObjectHeader.refCount at hi hor
  refine ⟨?_, ?_, ?_, ?_, fun j hj => ?_, fun s hs => ?_, fun j hj => ?_, hk.saturated.trans h.unsaturated⟩
  · rw [hk.entry]
    exact h.handles.congr (fun _ => rfl) (hkeep (·.handleRefs) (by omega) (by omega))
  · rw [hk.mapping]
    exact h.mappings.congr (fun _ => rfl) (hkeep (·.mappingRefs) (by omega) (by omega))
  · rw [hk.threadIpc]
    exact h.pins.congr (fun _ => rfl) (hkeep (·.inFlightOpRefs) (by omega) (by omega))
  · rw [hk.entry, hk.count]; exact h.owned
  · by_cases hji : j = i
    · subst hji; rw [hself]; exact hor
    · rw [hother j hji] at hj ⊢; exact h.vacant j hj
  · rw [hk.entry] at hs ⊢
    rw [hother _ (hu s hs)]; exact h.handleGen s hs
  rw [hk.mapping] at hj ⊢
  rw [hother _ (hmu j hj)]; exact h.mappingGen j hj

end Objects

/-! ### Changes outside the accounts -/

/-- The two states agree in everything the accounts are about. -/
structure SameBooks (k k' : Kernel) : Prop where
  entry : k'.entry = k.entry
  count : k'.count = k.count
  mapping : k'.mapping = k.mapping
  threadIpc : k'.threadIpc = k.threadIpc
  saturated : k'.saturated = k.saturated
  alike : Alike k.object k'.object
  handleRefs : ∀ i, (k'.object i).header.handleRefs = (k.object i).header.handleRefs
  mappingRefs : ∀ i, (k'.object i).header.mappingRefs = (k.object i).header.mappingRefs
  inFlightOpRefs : ∀ i, (k'.object i).header.inFlightOpRefs = (k.object i).header.inFlightOpRefs

lemma SameBooks.of_object (entry : k'.entry = k.entry) (count : k'.count = k.count)
    (mapping : k'.mapping = k.mapping) (threadIpc : k'.threadIpc = k.threadIpc)
    (saturated : k'.saturated = k.saturated) (object : k'.object = k.object) : SameBooks k k' :=
  ⟨entry, count, mapping, threadIpc, saturated, object ▸ .refl _, by simp [object],
    by simp [object], by simp [object]⟩

lemma SameBooks.trans (h₁ : SameBooks k₁ k₂) (h₂ : SameBooks k₂ k₃) : SameBooks k₁ k₃ :=
  ⟨h₂.entry.trans h₁.entry, h₂.count.trans h₁.count, h₂.mapping.trans h₁.mapping,
    h₂.threadIpc.trans h₁.threadIpc, h₂.saturated.trans h₁.saturated,
    fun i => ⟨(h₂.alike i).1.trans (h₁.alike i).1, (h₂.alike i).2.1.trans (h₁.alike i).2.1,
      (h₂.alike i).2.2.1.trans (h₁.alike i).2.2.1, (h₂.alike i).2.2.2.trans (h₁.alike i).2.2.2⟩,
    fun i => (h₂.handleRefs i).trans (h₁.handleRefs i),
    fun i => (h₂.mappingRefs i).trans (h₁.mappingRefs i),
    fun i => (h₂.inFlightOpRefs i).trans (h₁.inFlightOpRefs i)⟩

section SameBooks

variable {k k' : Kernel}

lemma SameBooks.refCount (h : SameBooks k k') (i : ObjIdx) :
    (k'.object i).header.refCount = (k.object i).header.refCount := by
  unfold KernelObjectHeader.refCount
  rw [h.handleRefs i, h.mappingRefs i, h.inFlightOpRefs i]

lemma Tallied.of_same (h : Tallied k) (hs : SameBooks k k') : Tallied k' := by
  refine ⟨?_, ?_, ?_, ?_, fun i hi => ?_, fun s hl => ?_, fun j hj => ?_,
    hs.saturated.trans h.unsaturated⟩
  · rw [hs.entry]; exact h.handles.congr (fun _ => rfl) hs.handleRefs
  · rw [hs.mapping]; exact h.mappings.congr (fun _ => rfl) hs.mappingRefs
  · rw [hs.threadIpc]; exact h.pins.congr (fun _ => rfl) hs.inFlightOpRefs
  · rw [hs.entry, hs.count]; exact h.owned
  · rw [(hs.alike i).1] at hi
    rw [hs.refCount i]
    exact h.vacant i hi
  · rw [hs.entry] at hl ⊢
    rw [(hs.alike _).2.2.1]; exact h.handleGen s hl
  rw [hs.mapping] at hj ⊢
  rw [(hs.alike _).2.2.1]; exact h.mappingGen j hj

lemma Ledger.of_same (h : Ledger k) (hs : SameBooks k k')
    (hsub : ∀ c, (Queues.queued (k'.channel c)).Sublist (Queues.queued (k.channel c)))
    (ht : ∀ c, ∀ t ∈ Queues.queued (k'.channel c), (k'.thread t).state = (k.thread t).state) :
    Ledger k' := by
  refine ⟨h.tallied.of_same hs, h.kinds.of_alike hs.alike ?_ ?_,
    h.queued.mono hsub fun c t hc hw => hw.of_alike hs.alike (ht c t hc) (by rw [hs.threadIpc])⟩
  · rw [hs.mapping]; exact h.kinds.mapping
  · rw [hs.threadIpc]; exact h.kinds.pin

lemma BusyBut.of_same {i : ObjIdx} (h : BusyBut L k i) (hs : SameBooks k k') : BusyBut L k' i :=
  fun j hj ho => by
    rw [(hs.alike j).1] at ho
    rw [hs.refCount j]
    exact h j hj ho

lemma Busy.of_same (h : Busy L k) (hs : SameBooks k k') : Busy L k' := fun i ho => by
  rw [(hs.alike i).1] at ho
  rw [hs.refCount i]
  exact h i ho

end SameBooks

/-! ### Calls in flight -/

/-- The thread can run, or will when it is woken. -/
def Active (k : Kernel) (t : TSlot) : Prop :=
  (k.thread t).state = .ready ∨ (k.thread t).state = .blocked ∨ (k.thread t).state = .running

/-- The thread is pinned to the object `i`, which is the channel `c`. -/
structure Pinned (k : Kernel) (t : TSlot) (i : ObjIdx) (c : ℕ) : Prop where
  occupied : (k.threadIpc t).occupied
  object : (k.threadIpc t).objectIndex = i
  channel : (k.object i).poolIndex = c

lemma Pinned.of_same {c : ℕ} (h : Pinned k t i c) (hs : SameBooks k k') : Pinned k' t i c :=
  ⟨by rw [hs.threadIpc]; exact h.occupied, by rw [hs.threadIpc]; exact h.object,
    by rw [(hs.alike i).2.2.2]; exact h.channel⟩

/-- From `k` to `k'`, every thread keeps its process, and of the threads in `P` none comes to life or
falls asleep, and one that lives keeps its pin. -/
structure CarriesFor (P : TSlot → Prop) (k k' : Kernel) : Prop where
  occupied : ∀ t, (k'.thread t).occupied = (k.thread t).occupied
  processId : ∀ t, (k'.thread t).processId = (k.thread t).processId
  awake : ∀ t, P t → (k.thread t).state ≠ .blocked → (k'.thread t).state ≠ .blocked
  active : ∀ t, P t → Active k' t → Active k t
  pinned : ∀ t, P t → Active k' t → ∀ i c, Pinned k t i c → Pinned k' t i c

lemma CarriesFor.trans {P : TSlot → Prop} (h₁ : CarriesFor P k₁ k₂)
    (h₂ : CarriesFor P k₂ k₃) : CarriesFor P k₁ k₃ where
  occupied t := (h₂.occupied t).trans (h₁.occupied t)
  processId t := (h₂.processId t).trans (h₁.processId t)
  awake t ht h := h₂.awake t ht (h₁.awake t ht h)
  active t ht h := h₁.active t ht (h₂.active t ht h)
  pinned t ht h i c hp := h₂.pinned t ht h i c (h₁.pinned t ht (h₂.active t ht h) i c hp)

lemma CarriesFor.mono {P Q : TSlot → Prop} (h : CarriesFor P k k')
    (hQ : ∀ t, Q t → P t) : CarriesFor Q k k' :=
  ⟨h.occupied, h.processId, fun t ht => h.awake t (hQ t ht), fun t ht => h.active t (hQ t ht),
    fun t ht => h.pinned t (hQ t ht)⟩

abbrev Carries (k k' : Kernel) : Prop := CarriesFor (fun _ => True) k k'

/-- The calls in flight are carried on, up to that of the thread `t`. -/
abbrev CarriesBut (t : TSlot) (k k' : Kernel) : Prop := CarriesFor (· ≠ t) k k'

lemma Carries.of_thread (ht : k'.thread = k.thread) (hp : k'.threadIpc = k.threadIpc)
    (ho : ∀ i, (k'.object i).poolIndex = (k.object i).poolIndex) : Carries k k' := by
  have hact : ∀ t, Active k' t → Active k t := fun t h => by
    unfold Active at h ⊢
    rw [ht] at h
    exact h
  refine ⟨fun t => by rw [ht], fun t => by rw [ht], fun t _ h => by rw [ht]; exact h,
    fun t _ => hact t, fun t _ _ i c h => ⟨?_, ?_, ?_⟩⟩
  · rw [hp]; exact h.occupied
  · rw [hp]; exact h.object
  · rw [ho]; exact h.channel

lemma SameBooks.carries (h : SameBooks k k') (ht : k'.thread = k.thread) : Carries k k' :=
  .of_thread ht h.threadIpc fun j => (h.alike j).2.2.2

lemma Carries.refl (k : Kernel) : Carries k k := .of_thread rfl rfl fun _ => rfl

lemma CarriesFor.but (h : Carries k k') (t : TSlot) : CarriesBut t k k' :=
  h.mono fun _ _ => trivial

/-- What an operation keeps: the accounts are in order, every object has a reference left, and the
calls in flight are. -/
structure Kept (L : ObjIdx → Prop) (k k' : Kernel) : Prop where
  ledger : Ledger k'
  busy : Busy L k'
  carries : Carries k k'

lemma Kept.trans (h₁ : Carries k₁ k₂) (h₂ : Kept L k₂ k₃) : Kept L k₁ k₃ :=
  ⟨h₂.ledger, h₂.busy, h₁.trans h₂.carries⟩

/-- What a stretch of a call by the thread `t` keeps. -/
structure KeptBut (L : ObjIdx → Prop) (t : TSlot) (k k' : Kernel) : Prop where
  ledger : Ledger k'
  busy : Busy L k'
  carries : CarriesBut t k k'

lemma KeptBut.trans (h₁ : CarriesBut t k₁ k₂)
    (h₂ : KeptBut L t k₂ k₃) : KeptBut L t k₁ k₃ := ⟨h₂.ledger, h₂.busy, h₁.trans h₂.carries⟩

/-- Between two operations. -/
structure Good (L : ObjIdx → Prop) (k : Kernel) : Prop where
  sound : Sound k
  ledger : Ledger k
  busy : Busy L k

lemma Good.kept (h : Good L k) : Kept L k k := ⟨h.ledger, h.busy, .refl k⟩

end ProjectZero.Ipc.Accounts
