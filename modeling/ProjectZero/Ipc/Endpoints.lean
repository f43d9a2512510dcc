import ProjectZero.Task.Accounting

/-! # Endpoints that stay open

A close of a channel handle closes the endpoint, whatever other handles there are: the counter
`handle_refs` of an endpoint starts at one and no derivation raises it. So an endpoint is open for all
its handles as long as every close is of the only one. -/

namespace ProjectZero.Ipc.Endpoints

open Lib.Run Tables Cap.Ops Cap.RevokeLoop Object Accounts Keeping Ipc.Channel
open Footprint Task.Lifecycle

variable {L : ObjIdx → Prop} {k : Kernel}

/-! ### Open endpoints -/

/-- The endpoint is not closed, and the peer has not been told that it is. -/
def Unclosed (ch : Channel) (endpoint : ℕ) : Prop :=
  (ch.mine endpoint).isClosed = false ∧ (ch.peer endpoint).peerClosed = false

/-- The two numbers stand for one endpoint: the code only asks whether they are 0. -/
def SameEnd (a b : ℕ) : Prop := a = 0 ↔ b = 0
  deriving Decidable

/-- The endpoint of the object is open, if the object is a channel. -/
def OpenEnd (k : Kernel) (i : ObjIdx) (endpoint : ℕ) : Prop :=
  (k.object i).occupied → (k.object i).objType = .channel →
    Unclosed (k.channel (k.object i).poolIndex) endpoint

/-- From `k` to `k'`, the endpoints in `Q` stay open. -/
def StaysOpen (Q : ObjIdx → ℕ → Prop) (k k' : Kernel) : Prop :=
  ∀ i endpoint, Q i endpoint → OpenEnd k i endpoint → OpenEnd k' i endpoint

abbrev AllStay (k k' : Kernel) : Prop := StaysOpen (fun _ _ => True) k k'

lemma StaysOpen.trans {Q : ObjIdx → ℕ → Prop} {k₁ k₂ k₃ : Kernel} (h₁ : StaysOpen Q k₁ k₂)
    (h₂ : StaysOpen Q k₂ k₃) : StaysOpen Q k₁ k₃ := fun i e hq h => h₂ i e hq (h₁ i e hq h)

variable {k' : Kernel}

lemma StaysOpen.mono {Q Q' : ObjIdx → ℕ → Prop} (h : StaysOpen Q k k')
    (hQ : ∀ i e, Q' i e → Q i e) : StaysOpen Q' k k' := fun i e hq => h i e (hQ i e hq)

lemma AllStay.but (h : AllStay k k') (Q : ObjIdx → ℕ → Prop) :
    StaysOpen Q k k' := h.mono fun _ _ _ => trivial

lemma AllStay.of_alike (hc : k'.channel = k.channel)
    (ha : Alike k.object k'.object) : AllStay k k' := fun i e _ h hocc htype => by
  rw [(ha i).1] at hocc
  rw [(ha i).2.1] at htype
  rw [hc, (ha i).2.2.2]
  exact h hocc htype

lemma AllStay.refl (k : Kernel) : AllStay k k := fun _ _ _ h => h

variable {ch : Channel}

lemma allStay_setChannel {c : ℕ}
    (h : ∀ e, Unclosed (k.channel c) e → Unclosed ch e) : AllStay k (k.setChannel c ch) := by
  intro i e _ ho hocc htype
  by_cases hp : (k.object i).poolIndex = c
  · subst hp
    simpa [Kernel.setChannel] using h e (ho hocc htype)
  · simpa [Kernel.setChannel, hp] using ho hocc htype

lemma unclosed_empty (e : ℕ) : Unclosed Channel.empty e := by
  unfold Unclosed Channel.mine Channel.peer
  split <;> exact ⟨rfl, rfl⟩

lemma unclosed_newChannel (e : ℕ) : Unclosed newChannel e := by
  unfold Unclosed Channel.mine Channel.peer
  split <;> exact ⟨rfl, rfl⟩

lemma unclosed_of_flags {ch' : Channel} (h : SameFlags ch ch') (e : ℕ) :
    Unclosed ch' e ↔ Unclosed ch e := by
  unfold Unclosed
  rw [(h e).1, (h e).2]

@[simp] lemma unclosed_drain (ch : Channel) (e : ℕ) : Unclosed ch.drain e ↔ Unclosed ch e := by
  unfold Unclosed Channel.mine Channel.peer Channel.drain
  by_cases he : e = 0 <;> simp [he]

@[simp] lemma unclosed_dropRef (ch : Channel) (endpoint e : ℕ) :
    Unclosed (ch.dropRef endpoint) e ↔ Unclosed ch e := by
  have hflags : SameFlags ch (ch.dropRef endpoint) := by
    apply sameFlags_setEndpoints <;> rfl
  exact unclosed_of_flags hflags e

lemma unclosed_close {endpoint e : ℕ} (hne : ¬SameEnd endpoint e)
    (h : Unclosed ch e) : Unclosed (ch.close endpoint) e := by
  unfold SameEnd at hne
  unfold Unclosed Channel.close Channel.setEndpoints Channel.mine Channel.peer at *
  by_cases hep : endpoint = 0 <;> by_cases he : e = 0 <;> simp_all

/-! ### Changes that close no endpoint -/

variable {i : ObjIdx}

lemma allStay_freed (hc : k'.channel = k.channel)
    (ho : k'.object = update k.object i (Object.freed (k.object i))) : AllStay k k' := by
  intro j e _ h hocc htype
  by_cases hj : j = i
  · subst hj
    rw [ho] at hocc
    simp [Object.freed] at hocc
  rw [ho, update_of_ne hj] at hocc htype ⊢
  rw [hc]
  exact h hocc htype

variable {o : KernelObjectSlot}

/-- The slot of a new object: the object is no channel, or its channel is open. -/
lemma allStay_newObject (k' : Kernel) (ho : k'.object = update k.object i o)
    (hc : ∀ d, d ≠ o.poolIndex ∨ o.objType ≠ .channel → k'.channel d = k.channel d)
    (hfree : poolFree k o.objType o.poolIndex)
    (hnew : o.objType = .channel → ∀ e, Unclosed (k'.channel o.poolIndex) e) :
    AllStay k k' ∧ ∀ e, OpenEnd k' i e := by
  have hself : k'.object i = o := by rw [ho, update_self]
  have hi : ∀ e, OpenEnd k' i e := fun e _ htype => by
    rw [hself] at htype ⊢
    exact hnew htype e
  refine ⟨fun j e _ h hocc htype => ?_, hi⟩
  by_cases hj : j = i
  · subst hj
    exact hi e hocc htype
  rw [ho, update_of_ne hj] at hocc htype ⊢
  rw [hc]
  · exact h hocc htype
  by_cases hot : o.objType = .channel
  · exact .inl ((poolFree_iff.mp hfree) j hocc (htype.trans hot.symm))
  · exact .inr hot

lemma allStay_channel (h : NewObject k .channel i o) (n : ℕ) :
    AllStay k { k with
      nextObjectId := n, object := update k.object i o
      channel := update k.channel o.poolIndex newChannel } ∧
    ∀ e, OpenEnd { k with
      nextObjectId := n, object := update k.object i o
      channel := update k.channel o.poolIndex newChannel } i e := by
  refine allStay_newObject _ rfl (fun d hd => ?_) (by rw [h.objType]; exact h.unused) fun _ e => ?_
  · exact update_of_ne (hd.resolve_right fun hn => hn h.objType) _ _
  · simpa using unclosed_newChannel e

lemma allStay_shm (h : NewObject k .shmObject i o) (n : ℕ) (s : ShmObject) :
    AllStay k { k with
      nextObjectId := n, object := update k.object i o
      shm := update k.shm o.poolIndex s } ∧
    ∀ e, OpenEnd { k with
      nextObjectId := n, object := update k.object i o
      shm := update k.shm o.poolIndex s } i e := by
  refine allStay_newObject _ rfl (fun _ _ => rfl) (by rw [h.objType]; exact h.unused) fun hc => ?_
  rw [h.objType] at hc
  cases hc

lemma AllStay.of_change {A : Kind → Prop} (hA : ¬A .close) (h : Change A k k') : AllStay k k' := by
  cases h with
  | headers alike rest => exact .of_alike (by rw [rest]) alike
  | handles a edit rest => exact .of_alike (by rw [rest]) (by rw [rest]; exact .refl _)
  | dropRef | wake => exact allStay_setChannel fun d hd => by simpa using hd
  | free i => exact allStay_freed rfl rfl
  | reclaim i occupied objType =>
    exact .trans (allStay_setChannel fun d _ => unclosed_empty d) (allStay_freed rfl rfl)
  | close a c e wakes => exact absurd a hA
  | memory a alike rest => exact .of_alike (by rw [rest]) alike
  | channel a new n => exact (allStay_channel new n).1
  | shm a new n s => exact (allStay_shm new n s).1
  | traffic a c thread flags =>
    exact allStay_setChannel fun d hd => (unclosed_of_flags flags d).mpr hd
  | threads a flags to1 to0 spaces rest =>
    intro i e _ h hocc htype
    rw [show k'.object = k.object by rw [rest]] at hocc htype ⊢
    exact (unclosed_of_flags (flags _) e).mpr (h hocc htype)

/-- **Operations that close no endpoint.** -/
lemma AllStay.of_moves {A : Kind → Prop} (hA : ¬A .close) (h : Moves A k k') :
    AllStay k k' := h.lift .refl .trans (.of_change hA)

/-! ### Close -/

/-- All endpoints but the one named. -/
def Others (i : ObjIdx) (endpoint : ℕ) (j : ObjIdx) (e : ℕ) : Prop :=
  j = i → ¬ SameEnd endpoint e

section

variable (h : Kinds k) (hi : (k.object i).occupied = true) (htype : (k.object i).objType = .channel)

include h hi htype

/-- **A close of an endpoint** leaves all others open. -/
lemma dropEndpointRef_open (endpoint : ℕ) :
    Ensures (StaysOpen (Others i endpoint) k) (dropEndpointRef k i endpoint) := by
  unfold dropEndpointRef
  simp only
  split
  · refine (wakeAllWaiters_eq _ _ endpoint).mono fun k' hk => ?_
    obtain ⟨thread, -, rfl⟩ := hk
    intro j e hother ho hocc hj
    have ha := alike_withHeader k.object i
      { (k.object i).header with signals := (k.object i).header.signals ||| 4#32 } j
    have hpool := ha.2.2.2
    unfold withHeader at ha hpool
    simp only [Kernel.setChannel] at hocc hj ⊢
    rw [ha.1] at hocc
    rw [ha.2.1] at hj
    rw [hpool]
    have hopen := ho hocc hj
    by_cases hp : (k.object j).poolIndex = (k.object i).poolIndex
    · -- no other object has this channel
      have hji := h.pool j i hocc hi (hj.trans htype.symm) hp
      rw [hp, update_self, update_self, unclosed_drain]
      rw [hp] at hopen
      exact unclosed_close (hother hji) ((unclosed_dropRef _ endpoint e).mpr hopen)
    rw [update_of_ne hp, update_of_ne hp]
    exact hopen
  · exact AllStay.but (.of_moves (A := fun _ => False) id (.single (.dropRef _ endpoint))) _

lemma releaseEndpoint_open (endpoint : ℕ) :
    Ensures (StaysOpen (Others i endpoint) k) (releaseEndpoint k i endpoint) :=
  Holds.bind (dropEndpointRef_open h hi htype endpoint) fun k1 h1 =>
    (reclaimChannel_moves (A := fun _ => False) k1 i).mono fun _ h2 =>
      h1.trans (AllStay.but (.of_moves id h2) _)

end

/-- All endpoints but that of the channel handle in the slot `s`. -/
def OthersOf (k : Kernel) (s : Slot) (j : ObjIdx) (e : ℕ) : Prop :=
  Live k.entry s → (k.object (k.entry s).objectIndex).objType = .channel →
    Others (k.entry s).objectIndex (k.entry s).endpoint j e

lemma closeAndReclaim_open (h : Good L k) (s : Slot) :
    Leaves (StaysOpen (OthersOf k s) k) (closeAndReclaimCapabilityLocked k s) := by
  refine .bind ((capabilityClose_drops h s).and
    (capabilityClose_moves rfl h.sound s)) fun ⟨res, k1⟩ hr => ?_
  obtain ⟨hr | ⟨hl, hres, hd⟩, hm⟩ := hr
  · cases hr
    exact (AllStay.refl k).but _
  have ho : AllStay k k1 := .of_moves (by decide) hm
  subst hres
  have hocc : (k1.object (k.entry s).objectIndex).occupied :=
    (hd.alike _).1.trans (h.ledger.tallied.live_occupied hl)
  simp only [hocc, if_true]
  split
  next htype =>
    refine .bind (releaseEndpoint_open hd.ledger.kinds hocc htype _) fun k2 h2 => ?_
    exact (ho.but _).trans (h2.mono fun _ _ hq => hq hl ((hd.alike _).2.1 ▸ htype))
  · exact .bind (reclaimShm_moves rfl k1 _)
      fun _ h2 => AllStay.but (ho.trans (AllStay.of_moves (by decide) h2)) _
  · exact ho.but _

end ProjectZero.Ipc.Endpoints
