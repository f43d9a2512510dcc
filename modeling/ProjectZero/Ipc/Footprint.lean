import ProjectZero.Ipc.Accounts
import ProjectZero.Ipc.Steps

/-! # The footprints of the operations

Every operation on the tables is a chain of elementary changes. The headers of objects and the pins
change; an endpoint loses a handle; waiters wake; an object goes. An operation may moreover change
the handle tables, close an endpoint, change the memory, make an object, move messages, or stop
threads: these are the kinds of changes it needs a permission for. A relation between states that is
kept by the elementary changes of the kinds allowed is kept by every operation which only needs
those. -/

namespace ProjectZero.Ipc.Footprint

open Lib.Run Tables Cap.Node Cap.Ops Cap.RevokeLoop Cap.Calls Object Queues Accounts
open Ipc.Channel Ipc.Handle Ipc.Shm Steps Task.Process

variable {k k' k₁ k₂ k₃ : Kernel}

/-! ### Elementary changes -/

/-- The kinds of changes that not every operation makes. -/
inductive Kind
  | close | memory | traffic | threads
  | handles (edit : EditKind)
  | create (objType : KernelObjectType)
  deriving DecidableEq

/-- The closed flags of the endpoints are the same. -/
def SameFlags (ch ch' : Channel) : Prop :=
  ∀ e, (ch'.mine e).isClosed = (ch.mine e).isClosed ∧
    (ch'.peer e).peerClosed = (ch.peer e).peerClosed

/-- Threads become ready, or stay as they are. -/
def Wakes (thread thread' : TSlot → KernelThread) : Prop :=
  ∀ t, thread' t = thread t ∨ thread' t = { thread t with state := .ready }

/-- A process changes at most its state. -/
def SameSpaces (process process' : PSlot → ProcessSlot) : Prop :=
  ∀ p, process' p = { process p with state := (process' p).state }

/-- An elementary change. -/
inductive Change (A : Kind → Prop) (k : Kernel) : Kernel → Prop
  | headers {k' : Kernel} (alike : Alike k.object k'.object)
      (rest : k' = { k with
        object := k'.object, nextObjectId := k'.nextObjectId, threadIpc := k'.threadIpc
        saturated := k'.saturated }) : Change A k k'
  | handles {c : EditKind} (a : A (.handles c)) {k' : Kernel} (edit : Edit k c k')
      (rest : k' = { k with
        entry := k'.entry, count := k'.count, node := k'.node
        nextCapabilityId := k'.nextCapabilityId, saturated := k'.saturated }) : Change A k k'
  | dropRef (c endpoint : ℕ) : Change A k (k.setChannel c ((k.channel c).dropRef endpoint))
  | wake (c endpoint : ℕ) {thread : TSlot → KernelThread} (wakes : Wakes k.thread thread) :
      Change A k { k with
        thread := thread
        channel := update k.channel c ((k.channel c).dropRef endpoint).drain }
  | free (i : ObjIdx) :
      Change A k { k with object := update k.object i (freed (k.object i)) }
  | reclaim (i : ObjIdx) (occupied : (k.object i).occupied)
      (objType : (k.object i).objType = .channel) :
      Change A k { k.setChannel (k.object i).poolIndex .empty with
        object := update k.object i (freed (k.object i)) }
  | close (a : A .close) (c endpoint : ℕ) {thread : TSlot → KernelThread}
      (wakes : Wakes k.thread thread) :
      Change A k { k with
        thread := thread
        channel := update k.channel c
          (((k.channel c).dropRef endpoint).close endpoint).drain }
  | memory (a : A .memory) {k' : Kernel} (alike : Alike k.object k'.object)
      (rest : k' = { k with
        object := k'.object, pmm := k'.pmm, pageTable := k'.pageTable, shm := k'.shm
        mapping := k'.mapping, shmFreed := k'.shmFreed, saturated := k'.saturated }) :
      Change A k k'
  | channel (a : A (.create .channel)) {i : ObjIdx} {o : KernelObjectSlot}
      (new : NewObject k .channel i o) (n : ℕ) :
      Change A k { k with
        nextObjectId := n
        object := update k.object i o
        channel := update k.channel o.poolIndex newChannel }
  | shm (a : A (.create .shmObject)) {i : ObjIdx} {o : KernelObjectSlot}
      (new : NewObject k .shmObject i o) (n : ℕ) (s : ShmObject) :
      Change A k { k with
        nextObjectId := n
        object := update k.object i o
        shm := update k.shm o.poolIndex s }
  | traffic (a : A .traffic) (c : ℕ) {ch : Channel} (thread : TSlot → KernelThread)
      (flags : SameFlags (k.channel c) ch) :
      Change A k { k with thread := thread, channel := update k.channel c ch }
  | threads (a : A .threads) {k' : Kernel} (flags : ∀ c, SameFlags (k.channel c) (k'.channel c))
      (to1 : ∀ c, (k'.channel c).ring0to1 = (k.channel c).ring0to1)
      (to0 : ∀ c, (k'.channel c).ring1to0 = (k.channel c).ring1to0)
      (spaces : SameSpaces k.process k'.process)
      (rest : k' = { k with
        thread := k'.thread, channel := k'.channel, process := k'.process }) : Change A k k'

/-- A chain of elementary changes. -/
abbrev Moves (A : Kind → Prop) : Kernel → Kernel → Prop := Relation.ReflTransGen (Change A)

variable {A : Kind → Prop}

/-- **Lifting.** What the elementary changes keep the chain keeps. -/
lemma Moves.lift {R : Kernel → Kernel → Prop} (hrefl : ∀ k, R k k)
    (htrans : ∀ {k₁ k₂ k₃}, R k₁ k₂ → R k₂ k₃ → R k₁ k₃)
    (hR : ∀ {k k'}, Change A k k' → R k k') (h : Moves A k k') : R k k' := by
  induction h with
  | refl => exact hrefl k
  | tail _ hc ih => exact htrans ih (hR hc)

lemma moves_header (i : ObjIdx) (header : KernelObjectHeader) (saturated : Bool) :
    Moves A k { k with object := withHeader k.object i header, saturated := saturated } :=
  .single (.headers (alike_withHeader k.object i header) rfl)

/-! ### The processes -/

lemma SameSpaces.refl (process : PSlot → ProcessSlot) : SameSpaces process process :=
  fun _ => rfl

lemma SameSpaces.trans {p₁ p₂ p₃ : PSlot → ProcessSlot} (h : SameSpaces p₁ p₂)
    (h' : SameSpaces p₂ p₃) : SameSpaces p₁ p₃ := fun p => by rw [h' p, h p]

variable {process process' : PSlot → ProcessSlot}

section

variable (h : SameSpaces process process') (p : PSlot)

include h p

lemma SameSpaces.occupied : (process' p).occupied = (process p).occupied := by
  rw [h p]

lemma SameSpaces.id : (process' p).id = (process p).id := by
  rw [h p]

lemma SameSpaces.root : (process' p).addressSpace = (process p).addressSpace := by
  rw [h p]

end

/-- No change gives a process another identity or address space; the state changes with the
threads. -/
lemma process_of_change (h : Change A k k') :
    SameSpaces k.process k'.process ∧ (¬A .threads → k'.process = k.process) := by
  cases h with
  | headers alike rest => rw [rest]; exact ⟨.refl _, fun _ => rfl⟩
  | handles a edit rest => rw [rest]; exact ⟨.refl _, fun _ => rfl⟩
  | memory a alike rest => rw [rest]; exact ⟨.refl _, fun _ => rfl⟩
  | threads a flags to1 to0 spaces rest => exact ⟨spaces, fun ha => absurd a ha⟩
  | _ => exact ⟨.refl _, fun _ => rfl⟩

lemma sameSpaces_of_moves (h : Moves A k k') : SameSpaces k.process k'.process :=
  h.lift (R := fun k k' => SameSpaces k.process k'.process) (fun _ => .refl _) .trans
    fun hc => (process_of_change hc).1

lemma process_of_moves (hA : ¬A .threads) (h : Moves A k k') : k'.process = k.process :=
  h.lift (R := fun k k' => k'.process = k.process) (fun _ => rfl) (fun h1 h2 => h2.trans h1)
    fun hc => (process_of_change hc).2 hA

/-! ### The handle tables -/

lemma handles_of_change (h : Change A k k') :
    SameHandles k k' ∨ ∃ c, A (.handles c) ∧ Edit k c k' := by
  cases h with
  | headers alike rest => rw [rest]; exact .inl ⟨rfl, rfl, rfl⟩
  | handles a edit rest => exact .inr ⟨_, a, edit⟩
  | memory a alike rest => rw [rest]; exact .inl ⟨rfl, rfl, rfl⟩
  | threads a flags to1 to0 spaces rest => rw [rest]; exact .inl ⟨rfl, rfl, rfl⟩
  | _ => exact .inl ⟨rfl, rfl, rfl⟩

lemma sameHandles_of_moves (hA : ∀ c, ¬A (.handles c)) (h : Moves A k k') : SameHandles k k' :=
  h.lift .refl .trans fun hc => (handles_of_change hc).resolve_right fun ⟨c, a, _⟩ => hA c a

/-- **The handle tables stay well-formed.** -/
lemma sound_of_moves (hs : Sound k) (h : Moves A k k') : Sound k' := by
  refine h.lift (R := fun k k' => Sound k → Sound k') (fun _ => id) (fun h1 h2 h => h2 (h1 h))
    (fun hc h => ?_) hs
  rcases handles_of_change hc with hsame | ⟨c, -, edit⟩
  · exact h.of_same hsame
  · exact edit.sound h

lemma Moves.retable (a : A .memory) (h : Moves (Eq .memory) k k') (entry : Slot → HandleEntry)
    (count : PSlot → ℕ) (node : NodeTable) :
    Moves A { k with entry := entry, count := count, node := node }
      { k' with entry := entry, count := count, node := node } := by
  refine h.lift (R := fun k k' => Moves A { k with entry := entry, count := count, node := node }
    { k' with entry := entry, count := count, node := node }) (fun _ => .refl) .trans
    fun hc => .single ?_
  cases hc with
  | headers alike rest => exact .headers alike (by rw [rest])
  | dropRef c endpoint => exact .dropRef c endpoint
  | wake c endpoint wakes => exact .wake c endpoint wakes
  | free i => exact .free i
  | reclaim i occupied objType => exact .reclaim i occupied objType
  | memory _ alike rest => exact .memory a alike (by rw [rest])
  | handles h | close h | channel h | shm h | traffic h | threads h => cases h

/-! ### Wake-up and reclamation -/

lemma wakeAllWaiters_eq (k : Kernel) (c endpoint : ℕ) :
    Ensures (fun k' => ∃ thread, Wakes k.thread thread ∧ k' = { k with
      thread := thread, channel := update k.channel c (k.channel c).drain })
      (wakeAllWaiters k c endpoint) := by
  refine .bind (P := fun k' => ∃ thread, Wakes k.thread thread ∧
    k' = { k with thread := thread }) (holds_foldlM (fun k' t h => ?_) _
      ⟨k.thread, fun _ => .inl rfl, rfl⟩) fun k' h => ?_
  · obtain ⟨thread, hw, rfl⟩ := h
    unfold wakeThreadLocked
    split
    · refine ⟨_, fun u => ?_, rfl⟩
      by_cases hu : u = t
      · subst hu
        rw [update_self]
        exact .inr ((hw u).elim (fun e => by simp only [e]) fun e => by simp only [e])
      rw [update_of_ne hu]
      exact hw u
    · trivial
  obtain ⟨thread, hw, rfl⟩ := h
  exact ⟨thread, hw, rfl⟩

lemma wakeAllWaiters_moves (k : Kernel) (c endpoint : ℕ) :
    Ensures (Moves A k)
      (wakeAllWaiters (k.setChannel c ((k.channel c).dropRef endpoint)) c endpoint) := by
  refine (wakeAllWaiters_eq _ c endpoint).mono fun k' h => ?_
  obtain ⟨thread, hw, rfl⟩ := h
  refine .single ?_
  have hwake := Change.wake (A := A) (k := k) c endpoint hw
  simpa [Kernel.setChannel] using hwake

lemma freeObjectSlot_moves (k : Kernel) (i : ObjIdx) :
    Ensures (Moves A k) (freeObjectSlotLocked k i) := by
  unfold freeObjectSlotLocked
  split
  · exact .single (.free i)
  · trivial

lemma reclaimChannel_moves (k : Kernel) (i : ObjIdx) :
    Ensures (Moves A k) (checkAndReclaimChannelLocked k i) := by
  rcases reclaimChannel_cases k i with ⟨hocc, htype, -, -, he⟩ | ⟨-, he⟩
  · rw [he]; exact .single (.reclaim i hocc htype)
  · rw [he]; exact .refl

lemma reclaimShm_moves (a : A .memory) (k : Kernel) (i : ObjIdx) :
    Ensures (Moves A k) (checkAndReclaimShmLocked k i) := by
  rcases reclaimShm_cases k i with ⟨-, -, -, he⟩ | ⟨-, he⟩
  · rw [he]
    have hmemory : Change A k { k with
        pmm := Mm.Pmm.freeFrames k.pmm (k.shm (k.object i).poolIndex).pages
        shm := update k.shm (k.object i).poolIndex .empty
        shmFreed := (k.shm (k.object i).poolIndex).pages.map (·, k.pageTable) ++ k.shmFreed } :=
      .memory a (.refl _) rfl
    exact .head hmemory (.single (.free i))
  · rw [he]; exact .refl

/-! ### Close and revocation -/

lemma dropEndpointRef_moves (a : A .close) (k : Kernel) (i : ObjIdx) (endpoint : ℕ) :
    Ensures (Moves A k) (dropEndpointRef k i endpoint) := by
  unfold dropEndpointRef
  simp only
  split
  · refine (wakeAllWaiters_eq _ _ endpoint).mono fun k' h => ?_
    obtain ⟨thread, hw, rfl⟩ := h
    obtain ⟨header, hheader⟩ : ∃ header : KernelObjectHeader, header =
      { (k.object i).header with signals := (k.object i).header.signals ||| 4#32 } := ⟨_, rfl⟩
    rw [← hheader]
    refine (moves_header i header k.saturated).tail ?_
    have hclose := Change.close a (k := { k with object := withHeader k.object i header })
      (k.object i).poolIndex endpoint hw
    simpa [Kernel.setChannel, withHeader] using hclose
  · exact .single (.dropRef _ _)

lemma releaseEndpoint_moves (a : A .close) (k : Kernel) (i : ObjIdx) (endpoint : ℕ) :
    Ensures (Moves A k) (releaseEndpoint k i endpoint) :=
  Holds.bind (dropEndpointRef_moves a k i endpoint) fun k₁ h1 =>
    (reclaimChannel_moves k₁ i).mono fun _ => h1.trans

lemma dropHandleRef_moves (k : Kernel) (i : ObjIdx) : Moves A k (dropHandleRef k i) :=
  moves_header i _ _

lemma wakeRevoked_moves (k : Kernel) (i : ObjIdx) (c endpoint : ℕ) :
    Ensures (Moves A k) (do
      let k ← wakeAllWaiters (k.setChannel c ((k.channel c).dropRef endpoint)) c endpoint
      checkAndReclaimChannelLocked k i) :=
  Holds.bind (wakeAllWaiters_moves k c endpoint) fun k₁ h1 =>
    (reclaimChannel_moves k₁ i).mono fun _ => h1.trans

lemma releaseRevoked_moves (a : A .memory) (k : Kernel) (i : ObjIdx) (endpoint : ℕ) :
    Ensures (Moves A k) (releaseRevoked k i endpoint) := by
  unfold releaseRevoked
  split
  · exact .refl
  have h1 : Moves A k (dropHandleRef k i) := dropHandleRef_moves k i
  simp only
  split
  · exact (wakeRevoked_moves _ i _ endpoint).mono fun _ => h1.trans
  · exact (reclaimShm_moves a _ i).mono fun _ => h1.trans
  · exact h1

section

variable (av : A (.handles .vacate))

include av

lemma revokeDescendants_moves (a : A .memory) (hs : Sound k) (s : Slot) :
    Leaves (Moves A k) (capabilityRevokeDescendantsLocked k s) := by
  unfold capabilityRevokeDescendantsLocked
  split
  · exact .refl
  rename_i hl
  split
  · exact .refl
  split
  · exact .refl
  have hlive : Live k.entry s := by simpa [Live] using hl
  -- the cuts come first: the releases in between do not look at the handle tables
  refine .bind (revokeTree_spec (Q := fun _ k' => Moves (Eq .memory)
    { k with entry := k'.entry, count := k'.count, node := k'.node } k') hs.forest hlive .refl
    fun dn c k' _ hk _ _ => ?_) fun r hr => ?_
  · refine ((releaseRevoked_moves rfl _ _ _).and (releaseRevoked_same _ _ _).ensures).mono
      fun k'' h => ?_
    rw [h.2.entry, h.2.count, h.2.node]
    have hcut := hk.retable rfl (cutAt k' c).entry (cutAt k' c).count (cutAt k' c).node
    have hsat : Change (Eq .memory) { k' with
        entry := (cutAt k' c).entry, count := (cutAt k' c).count, node := (cutAt k' c).node }
        (cutAt k' c) := .headers (.refl _) rfl
    exact (hcut.tail hsat).trans h.1
  obtain ⟨dn, _, hdn, hP, hk, _⟩ := hr
  have hedit : Edit k .vacate { k with entry := r.2.entry, count := r.2.count, node := r.2.node } :=
    .pruned hlive hdn ⟨hP.entry_in, hP.entry_out, hP.node_in, hP.node_top, hP.node_out⟩
  exact .head (.handles av hedit rfl) (hk.retable a r.2.entry r.2.count r.2.node)

lemma capabilityClose_moves (hs : Sound k) (s : Slot) :
    Leaves (Moves A k) (capabilityCloseLocked k s) := by
  rcases capabilityClose_cases hs s with ⟨-, he⟩ | ⟨node, hl, hu, he⟩
  · rw [he]; exact .refl
  rw [he]
  have hclosed : Change A k { invalidate k s with node := update node s .empty } :=
    .handles av (.closed hl hu) rfl
  split
  · exact .head hclosed (dropHandleRef_moves _ _)
  · exact .single hclosed

lemma closeAndReclaim_moves (a : A .close) (a' : A .memory) (hs : Sound k) (s : Slot) :
    Leaves (Moves A k) (closeAndReclaimCapabilityLocked k s) := by
  refine .bind (capabilityClose_moves av hs s) fun r h1 => ?_
  obtain ⟨res, k₁⟩ := r
  cases res with
  | error e => exact h1
  | ok r =>
    simp only
    split
    · split
      · exact .bind (releaseEndpoint_moves a k₁ _ _) fun _ h2 => h1.trans h2
      · exact .bind (reclaimShm_moves a' k₁ _) fun _ h2 => h1.trans h2
      · exact h1
    · exact h1

lemma closeHandle_moves (hs : Sound k) (p : PSlot)
    (h : Handle) : Leaves (Moves A k) (closeHandleLocked k p h) := by
  rcases closeHandle_cases k p h with ⟨e, he⟩ | ⟨s, -, he⟩
  · rw [he]; exact .refl
  · rw [he]; exact capabilityClose_moves av hs s

end

/-! ### Installation and transfer -/

lemma addHandleRef_moves (k : Kernel) (i : ObjIdx) (s : Slot) :
    Leaves (Moves A k) (addHandleRef k i s) := by
  unfold addHandleRef
  simp only
  split
  · exact .refl
  · exact moves_header i _ k.saturated

section

variable (af : A (.handles .fill))

include af

lemma installRoot_moves (k : Kernel) (s : Slot) (i : ObjIdx) (rights : Rights) (endpoint : ℕ) :
    Leaves (Moves A k) (installRootCapabilityLocked k s i rights endpoint) := by
  rcases installRoot_cases k s i rights endpoint with
    ⟨e, he⟩ | he | ⟨id, -, hs, he⟩
  · rw [he]; exact .refl
  · rw [he]; trivial
  rw [he]
  exact (addHandleRef_moves _ i s).mono fun _ h =>
    .head (.handles af (.root hs i rights endpoint id) rfl) h

lemma allocateHandleEntry_moves (k : Kernel) (p : PSlot)
    (i : ObjIdx) (rights : Rights) (endpoint : ℕ) :
    Leaves (Moves A k) (allocateHandleEntryLocked k p i rights endpoint) := by
  unfold allocateHandleEntryLocked
  split
  · exact .refl
  · exact installRoot_moves af k _ _ _ _

lemma installDerived_moves (k : Kernel) (d q : Slot) (rights : Rights) :
    Leaves (Moves A k) (installDerivedCapabilityLocked k d q rights) := by
  rcases installDerived_cases k d q rights with
    ⟨e, -, he⟩ | ⟨-, he⟩ | ⟨hq, -, hd, he⟩
  · rw [he]; exact .refl
  · rw [he]; trivial
  rw [he]
  exact (addHandleRef_moves _ _ d).mono fun _ h => .head (.handles af (.derived hq hd _) rfl) h

lemma capabilityDerive_moves (k : Kernel) (p : PSlot) (hd : Handle)
    (rights : Rights) : Leaves (Moves A k) (capabilityDerive k p hd rights) := by
  unfold capabilityDerive
  split
  · split
    · exact .refl
    · exact installDerived_moves af k _ _ _
  · exact .refl

lemma capabilityDuplicate_moves (k : Kernel) (p : PSlot) (hd : Handle) :
    Leaves (Moves A k) (capabilityDuplicate k p hd) := by
  unfold capabilityDuplicate
  split
  · simp only
    split
    · exact .refl
    split
    · exact .refl
    · exact installDerived_moves af k _ _ _
  · exact .refl

lemma transferDelegate_moves (k : Kernel) (src : Slot) (dst : PSlot) (rights : Rights) :
    Leaves (Moves A k) (transferDelegateLocked k src dst rights) := by
  unfold transferDelegateLocked
  simp only
  iterate 7
    split
    · exact .refl
  exact installDerived_moves af k _ src rights

end

lemma transferMove_moves (am : A (.handles .move)) (hs : Sound k) (src : Slot)
    (dst : PSlot) : Leaves (Moves A k) (transferMoveLocked k src dst) := by
  rcases transferMove_cases k src dst with ⟨e, he⟩ | ⟨d, id, he⟩
  · rw [he]; exact .refl
  rw [he]
  have ht : Sound (takeId k) := hs
  rcases installMoved_cases ht (dst, d) src id with
    he | ⟨node, hx, hd, ⟨hm, -⟩, he⟩
  · rw [he]; trivial
  rw [he]
  have hedit : Edit k .move (plantMoved (takeId k) (dst, d) src node) :=
    .moved (k := k) hx hd hm _
  exact .single (.handles am hedit rfl)

/-! ### Send and receive -/

lemma sameFlags_setEndpoints {ch : Channel} {endpoint : ℕ} {mine peer : ChannelEndpointData}
    (h1 : mine.isClosed = (ch.mine endpoint).isClosed)
    (h2 : mine.peerClosed = (ch.mine endpoint).peerClosed)
    (h3 : peer.isClosed = (ch.peer endpoint).isClosed)
    (h4 : peer.peerClosed = (ch.peer endpoint).peerClosed) :
    SameFlags ch (ch.setEndpoints endpoint mine peer) := by
  intro e
  unfold Channel.setEndpoints Channel.mine Channel.peer at *
  by_cases hep : endpoint = 0 <;> by_cases he : e = 0 <;> simp_all

lemma setWaiters_flags (e : ChannelEndpointData) (queue : List TSlot) (d : Direction) :
    (setWaiters e queue d).isClosed = e.isClosed ∧
      (setWaiters e queue d).peerClosed = e.peerClosed := by
  cases d <;> exact ⟨rfl, rfl⟩

lemma sameFlags_setRing (ch : Channel) (endpoint : ℕ) (r : ChannelRing) (d : Direction) :
    SameFlags ch (setRing ch endpoint r d) := by
  intro e
  unfold setRing
  cases d <;> by_cases he : endpoint = 0 <;> simp [he, Channel.mine, Channel.peer]

lemma wakePeer_moves (a : A .traffic) (k : Kernel) (c endpoint : ℕ) (d : Direction) :
    Ensures (Moves A k) (wakePeer k c endpoint d) := by
  unfold wakePeer
  simp only
  split
  · exact .refl
  rename_i queue _
  unfold wakeThreadLocked
  split
  · obtain ⟨h1, h2⟩ := setWaiters_flags ((k.channel c).peer endpoint) queue d
    exact .single (.traffic a c _ (sameFlags_setEndpoints rfl rfl h1 h2))
  · trivial

lemma sleep_moves (a : A .traffic) (k : Kernel) (t : TSlot) (c endpoint : ℕ) (d : Direction) :
    Ensures (Moves A k) (sleep k t c endpoint d) := by
  unfold sleep prepareBlockLocked
  split
  · rw [ok_bind]
    obtain ⟨h1, h2⟩ := setWaiters_flags (((setThreadState k t .blocked).channel c).mine endpoint)
      (pushPriority (fun u => ((setThreadState k t .blocked).thread u).priority) t
        (waiters (((setThreadState k t .blocked).channel c).mine endpoint) d)) d
    exact .single (.traffic a c _ (sameFlags_setEndpoints h1 h2 rfl rfl))
  · rw [error_bind]; trivial

lemma dropPin_moves (k : Kernel) (t : TSlot) (i : ObjIdx) : Moves A k (dropPin k t i) :=
  .single (.headers (alike_withHeader k.object i _) rfl)

lemma releaseInFlightPin_moves (k : Kernel) (t : TSlot) (i : ObjIdx) :
    Ensures (Moves A k) (releaseInFlightPinLocked k t i) := by
  unfold releaseInFlightPinLocked
  split
  · exact (reclaimChannel_moves _ i).mono fun _ => (dropPin_moves k t i).trans
  · exact .refl

lemma finish_moves (k : Kernel) (t : TSlot) (c : Pending) (r : Progress) :
    Leaves (Moves A k) (finish k t c r) :=
  Holds.bind (releaseInFlightPin_moves k t c.object) fun _ h => h

section

variable (a : A .traffic)

include a

lemma complete_moves (k : Kernel) (t : TSlot) (c : Pending)
    (msg : Option IpcMessage) (r : ChannelRing) : Leaves (Moves A k) (complete k t c msg r) :=
  Holds.bind (wakePeer_moves a _ _ _ _) fun k₁ h1 => (finish_moves k₁ t c _).mono fun _ h2 =>
    .head (.traffic a _ k.thread (sameFlags_setRing _ _ _ _)) (h1.trans h2)

lemma wait_moves (k : Kernel) (t : TSlot) (c : Pending) : Leaves (Moves A k) (wait k t c) := by
  unfold wait
  split
  · exact finish_moves k t c _
  · exact .bind (sleep_moves a k t _ _ _) fun _ h => h

lemma callRound_moves (k : Kernel) (t : TSlot) (c : Pending) :
    Leaves (Moves A k) (callRound k t c) := by
  unfold callRound
  simp only
  split
  · exact finish_moves k t c _
  · exact complete_moves a k t c _ _
  · exact wait_moves a k t c
  · exact complete_moves a k t c _ _
  · exact finish_moves k t c _
  · exact wait_moves a k t c

lemma resume_moves (k : Kernel) (t : TSlot) (c : Pending) : Leaves (Moves A k) (resume k t c) := by
  unfold resume
  simp only
  split
  · split
    · exact finish_moves k t c _
    · exact callRound_moves a k t c
  · exact finish_moves k t c _
  · exact callRound_moves a k t c

lemma channelCall_moves (k : Kernel) (t : TSlot) (h : Handle) (action : Action)
    (blocking : Bool) : Leaves (Moves A k) (channelCall k t h action blocking) := by
  unfold channelCall
  split
  · exact .refl
  split
  · exact .refl
  rename_i i endpoint rights _
  split
  · exact .refl
  split
  · trivial
  split
  · exact .refl
  exact (callRound_moves a _ t _).mono fun _ h =>
    .head (.headers (alike_withHeader k.object i _) rfl) h

end

/-! ### Channels -/

lemma channelHandles_moves (af : A (.handles .fill)) (av : A (.handles .vacate)) (hs : Sound k)
    (p : PSlot) (i : ObjIdx) : Leaves (Moves A k) (channelHandles k p i) := by
  refine .bind (allocateHandleEntry_moves af k p i channelRights 0) fun r h₁ => ?_
  obtain ⟨r0, k₁⟩ := r
  cases r0 with
  | error e => exact .bind (freeObjectSlot_moves (A := A) k₁ i) fun _ h2 => h₁.trans h2
  | ok h0 =>
    refine .bind (allocateHandleEntry_moves af k₁ p i channelRights 1) fun r h2 => ?_
    obtain ⟨r1, k₂⟩ := r
    cases r1 with
    | error e =>
      have hs2 := sound_of_moves hs (h₁.trans h2)
      refine .bind (closeHandle_moves av hs2 p h0) fun r h3 => ?_
      exact .bind (freeObjectSlot_moves (A := A) r.2 i) fun _ h4 =>
        (h₁.trans h2).trans (h3.trans h4)
    | ok h1 => exact h₁.trans h2

lemma channelCreate_moves (af : A (.handles .fill)) (av : A (.handles .vacate))
    (a : A (.create .channel)) (hs : Sound k) (t : TSlot) :
    Leaves (Moves A k) (channelCreate k t) := by
  rcases channelCreate_cases k t with ⟨e, n, he⟩ | ⟨p, i, o, n, hnew, he⟩
  · rw [he]; exact .single (.headers (.refl _) rfl)
  rw [he]
  refine (channelHandles_moves af av ?_ p i).mono fun _ h => .head (.channel a hnew n) h
  exact hs

lemma channelClose_moves (av : A (.handles .vacate)) (a : A .close) (hs : Sound k) (t : TSlot)
    (h : Handle) : Leaves (Moves A k) (channelClose k t h) := by
  unfold channelClose
  split
  · exact .refl
  refine .bind (closeHandle_moves av hs _ h) fun ⟨r, k₁⟩ h1 => ?_
  cases r with
  | error e => exact h1
  | ok r =>
    simp only
    split
    · trivial
    · exact .bind (releaseEndpoint_moves a k₁ _ _) fun _ h2 => h1.trans h2

/-! ### Shared memory -/

lemma setMemory_moves (a : A .memory) (k : Kernel) (m : Mm.Vmm.Memory) :
    Moves A k (setMemory k m) := .single (.memory a (.refl _) rfl)

lemma failFreeing_moves (a : A .memory) {α : Type} (e : IpcError) (frames : List PhysFrame)
    (k : Kernel) : Leaves (Moves A k) (failFreeing (α := α) e frames k) :=
  Relation.ReflTransGen.single (.memory a (.refl _) rfl)

lemma shmHandle_moves (af : A (.handles .fill)) (a : A .memory) (k : Kernel) (p : PSlot)
    (i : ObjIdx) (c : ℕ)
    (frames : List PhysFrame) : Leaves (Moves A k) (shmHandle k p i c frames) := by
  refine .bind (allocateHandleEntry_moves af k p i shmRights 0) fun ⟨r0, k₁⟩ h1 => ?_
  cases r0 with
  | error e =>
    refine .bind (freeObjectSlot_moves (A := A) k₁ i) fun k₂ h2 => ?_
    have hempty : Change A k₂ { k₂ with shm := update k₂.shm c .empty } :=
      .memory a (.refl _) rfl
    exact (failFreeing_moves a e frames _).mono fun _ h3 => (h1.trans h2).trans (.head hempty h3)
  | ok h0 => exact h1

lemma shmObject_moves (af : A (.handles .fill)) (a : A .memory) (a' : A (.create .shmObject))
    (k : Kernel) (p : PSlot) (pid pageCount : ℕ) (frames : List PhysFrame) :
    Leaves (Moves A k) (shmObject k p pid pageCount frames) := by
  rcases shmObject_cases k p pid pageCount frames with ⟨e, n, he⟩ | ⟨i, o, n, hnew, he⟩
  · rw [he]
    have hid : Change A k { k with nextObjectId := n } := .headers (.refl _) rfl
    exact (failFreeing_moves a e frames _).mono fun _ h => .head hid h
  rw [he]
  exact (shmHandle_moves af a _ p i _ frames).mono fun _ h => .head (.shm a' hnew n _) h

lemma shmCreate_moves (af : A (.handles .fill)) (a : A .memory) (a' : A (.create .shmObject))
    (k : Kernel) (t : TSlot) (pageCount : ℕ) : Leaves (Moves A k) (shmCreate k t pageCount) := by
  unfold shmCreate
  split
  · exact .refl
  split
  · exact .refl
  split
  · exact setMemory_moves a k _
  · exact (shmObject_moves af a a' _ _ _ _ _).mono fun _ => (setMemory_moves a k _).trans

lemma shmClose_moves (av : A (.handles .vacate)) (a : A .memory) (hs : Sound k) (t : TSlot)
    (h : Handle) : Leaves (Moves A k) (shmClose k t h) := by
  unfold shmClose
  split
  · exact .refl
  refine .bind (closeHandle_moves av hs _ h) fun ⟨r, k₁⟩ h1 => ?_
  cases r with
  | error e => exact h1
  | ok r => exact .bind (reclaimShm_moves a k₁ _) fun _ h2 => h1.trans h2

lemma shmMap_moves (a : A .memory) (k : Kernel) (t : TSlot) (hd : Handle)
    (vaddr : Mm.Vmm.VirtualAddress) (writable : Bool) :
    Leaves (Moves A k) (shmMap k t hd vaddr writable) := by
  unfold shmMap
  iterate 3
    split
    · exact .refl
  rename_i i _ _ _
  split
  · exact .refl
  split
  · trivial
  split
  · exact .refl
  refine .bind (ensures_true _) fun ⟨r, m⟩ _ => ?_
  cases r with
  | error e => exact setMemory_moves a k m
  | ok u => exact .single (.memory a (alike_withHeader k.object i _) rfl)

lemma dropMapping_moves (a : A .memory) (k : Kernel) (root : PhysFrame) (j : Fin 64) :
    Ensures (Moves A k) (dropMapping k root j) :=
  (reclaimShm_moves a _ _).mono fun _ h =>
    .head (.memory a (alike_withHeader k.object (k.mapping j).objectIndex _) rfl) h

lemma shmUnmap_moves (a : A .memory) (k : Kernel) (t : TSlot) (hd : Handle)
    (vaddr : Mm.Vmm.VirtualAddress) : Leaves (Moves A k) (shmUnmap k t hd vaddr) := by
  unfold shmUnmap
  split
  · exact .refl
  split
  · exact .refl
  simp only
  split
  · exact .refl
  split
  · split
    · exact .refl
    · exact .bind (dropMapping_moves a k _ _) fun _ h => h
  · exact .bind (dropMapping_moves a k _ _) fun _ h => h

/-! ### Exit -/

lemma releaseCancelled_moves (pid : ℕ) (k : Kernel) (t : TSlot) :
    Ensures (Moves A k) (releaseCancelled pid k t) := by
  unfold releaseCancelled
  split
  · simp only
    split
    · exact (reclaimChannel_moves _ _).mono fun _ => (dropPin_moves k t _).trans
    · exact dropPin_moves k t _
  · exact .refl

lemma sweepMapping_moves (a : A .memory) (pid : ℕ) (root : PhysFrame) (k : Kernel) (j : Fin 64) :
    Ensures (Moves A k) (sweepMapping pid root k j) := by
  unfold sweepMapping
  split
  · exact dropMapping_moves a k root j
  · exact .refl

lemma sweepHandle_moves (av : A (.handles .vacate)) (a : A .close) (a' : A .memory) (p : PSlot)
    (hs : Sound k) (h : HSlot) : Ensures (Moves A k) (sweepHandle p k h) := by
  unfold sweepHandle
  split
  · exact .bind (closeAndReclaim_moves av a a' hs (p, h)) fun _ hk => hk
  · exact .refl

lemma exitCleanup_moves (av : A (.handles .vacate)) (a : A .close)
    (a' : A .memory) (hs : Sound k) (p : PSlot) (pid : ℕ) (root : PhysFrame) :
    Ensures (Moves A k) (processExitCapabilityCleanupLocked k p pid root) := by
  refine .bind (P := Moves A k) (holds_foldlM (fun k' j h =>
    (sweepMapping_moves a' pid root k' j).mono fun _ => h.trans) _ .refl) fun k₁ h1 => ?_
  refine .bind (P := Moves A k) (holds_foldlM (fun k' n h =>
    (sweepHandle_moves av a a' p (sound_of_moves hs h) n).mono fun _ => h.trans) _ h1)
    fun k₂ h2 => ?_
  split
  · exact h2
  · trivial

lemma cancelled_moves (a : A .threads) (k : Kernel) (pid : ℕ) (caller : TSlot) (p : PSlot)
    (st : ProcessState) :
    Moves A k (setProcessState (cancelProcessThreadsLocked k pid caller) p st) := by
  refine .single (.threads a (fun c e => ?_) (fun _ => rfl) (fun _ => rfl) (fun q => ?_) rfl)
  · unfold Channel.mine Channel.peer
    by_cases he : e = 0 <;> simp [he, setProcessState, cancelProcessThreadsLocked,
      cancelChannelWaitersForProcessLocked, cancelWaiters]
  by_cases hq : q = p
  · subst hq
    simp [setProcessState, cancelProcessThreadsLocked, cancelChannelWaitersForProcessLocked]
  · simp [setProcessState, hq, cancelProcessThreadsLocked, cancelChannelWaitersForProcessLocked]

lemma setThreadState_moves (a : A .threads) (k : Kernel) (t : TSlot) (st : ThreadState) :
    Moves A k (setThreadState k t st) :=
  .single (.threads a (fun _ _ => ⟨rfl, rfl⟩) (fun _ => rfl) (fun _ => rfl) (fun _ => rfl) rfl)

lemma processExit_moves (av : A (.handles .vacate)) (a : A .close) (a' : A .memory)
    (at' : A .threads) (hs : Sound k) (t : TSlot) : Ensures (Moves A k) (processExit k t) := by
  unfold processExit
  simp only
  split
  · trivial
  split
  · trivial
  rename_i p _
  split
  · trivial
  refine .bind (holds_foldlM (I := Moves A k) (fun k' u h =>
    (releaseCancelled_moves _ k' u).mono fun _ => h.trans) _
      (cancelled_moves at' k _ t p .zombie)) fun k₁ h1 => ?_
  refine .bind (exitCleanup_moves av a a' (sound_of_moves hs h1) p _ _) fun k₂ h2 => ?_
  exact (h1.trans h2).trans (setThreadState_moves at' k₂ t .zombie)

/-! ### The steps of the system -/

/-- The kinds of changes a call makes. -/
def callNeeds : Syscall → List Kind
  | .channelCreate => [.handles .fill, .handles .vacate, .create .channel]
  | .channelSend .. | .channelReceive .. => [.traffic]
  | .channelClose _ => [.handles .vacate, .close]
  | .shmCreate _ => [.handles .fill, .memory, .create .shmObject]
  | .shmMap .. | .shmUnmap .. => [.memory]
  | .shmClose _ => [.handles .vacate, .memory]
  | .derive .. | .duplicate _ => [.handles .fill]
  | .exit => [.handles .vacate, .close, .memory, .threads]

/-- The kinds of changes a step makes. -/
def needs : Op → List Kind
  | .call _ c => callNeeds c
  | .resume _ => [.traffic]
  | .schedule _ | .preempt _ => [.threads]
  | .delegate .. => [.handles .fill]
  | .move .. => [.handles .move]
  | .close _ => [.handles .vacate]
  | .revoke _ => [.handles .vacate, .memory]
  | .closeAndReclaim _ => [.handles .vacate, .close, .memory]

variable {σ : System}

lemma syscall_moves (hs : Sound σ.kernel) (t : TSlot) (c : Syscall) (h : ∀ a ∈ callNeeds c, A a) :
    Ensures (fun r => Moves A σ.kernel r.2.kernel) (c.exec σ t) := by
  cases c <;> simp only [callNeeds, List.forall_mem_cons] at h
  case channelCreate => exact ensures_only (channelCreate_moves h.1 h.2.1 h.2.2.1 hs t)
  case channelSend hd msg blocking => exact ensures_settle (channelCall_moves h.1 _ t hd _ blocking)
  case channelReceive hd blocking => exact ensures_settle (channelCall_moves h.1 _ t hd _ blocking)
  case channelClose hd => exact ensures_only (channelClose_moves h.1 h.2.1 hs t hd)
  case shmCreate n => exact ensures_only (shmCreate_moves h.1 h.2.1 h.2.2.1 _ t n)
  case shmMap hd vaddr writable => exact ensures_only (shmMap_moves h.1 _ t hd vaddr writable)
  case shmUnmap hd vaddr => exact ensures_only (shmUnmap_moves h.1 _ t hd vaddr)
  case shmClose hd => exact ensures_only (shmClose_moves h.1 h.2.1 hs t hd)
  case derive hd rights =>
    exact ensures_only (ensures_asProcess .refl fun p => capabilityDerive_moves h.1 _ p hd rights)
  case duplicate hd =>
    exact ensures_only (ensures_asProcess .refl fun p => capabilityDuplicate_moves h.1 _ p hd)
  case exit =>
    exact ensures_only ((processExit_moves h.1 h.2.1 h.2.2.1 h.2.2.2.1 hs t).map fun _ hk => hk)

/-- **A step** makes the changes it needs, and no others. -/
lemma exec_moves (hs : Sound σ.kernel) (op : Op) (h : ∀ a ∈ needs op, A a) :
    Ensures (fun r => Moves A σ.kernel r.2.kernel) (op.exec σ) := by
  cases op <;> simp only [needs, List.forall_mem_cons] at h
  case call t c => exact syscall_moves hs t c h
  case resume t =>
    simp only [Op.exec]
    split
    · exact .refl
    · exact ensures_settle (resume_moves h.1 _ t _)
  case schedule t => exact setThreadState_moves h.1 _ t _
  case preempt t => exact setThreadState_moves h.1 _ t _
  case delegate src dst rights =>
    exact ensures_only (transferDelegate_moves h.1 _ src dst rights)
  case move src dst => exact ensures_only (transferMove_moves h.1 hs src dst)
  case revoke s => exact ensures_only (revokeDescendants_moves h.1 h.2.1 hs s)
  case close s => exact ensures_only (capabilityClose_moves h.1 hs s)
  case closeAndReclaim s =>
    exact ensures_only (closeAndReclaim_moves h.1 h.2.1 h.2.2.1 hs s)

end ProjectZero.Ipc.Footprint
