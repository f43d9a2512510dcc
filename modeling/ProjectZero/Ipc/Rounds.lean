import ProjectZero.Ipc.Rings
import ProjectZero.Ipc.Liveness

/-! # What a step does to the channels

A step of the system is either one that moves no message, the creation of an object among them, or a
stretch of a send or receive. A stretch ends without an effect on the rings, with one message pushed
or popped and one thread of the peer woken, or with the thread asleep. -/

namespace ProjectZero.Ipc.Rounds

open Lib.Run Tables Cap.Calls Object Queues Accounts Ipc.Channel Ipc.Handle Steps Footprint Rings
open Endpoints Task.Lifecycle Task.Accounting

variable {L : ObjIdx → Prop} {k k' k₁ k₂ : Kernel}

/-! ### Steps that move no message -/

def Unshared (k : Kernel) : Prop := ∀ i j c, ChanAt k i c → ChanAt k j c → i = j

/-- The ring that the endpoint `e` uses in the direction `d`, after a change of the one that `a` uses
in the direction `d₀`. -/
lemma ring_setRing_eq (ch : Channel) (a e : ℕ) (r : ChannelRing) (d₀ d : Direction) :
    ring (setRing ch a r d₀) e d = if SameEnd a e ↔ d = d₀ then r else ring ch e d := by
  unfold ring setRing SameEnd
  cases d₀ <;> cases d <;> by_cases ha : a = 0 <;> by_cases he : e = 0 <;> simp [ha, he]

lemma ring_shared (ch : Channel) {a e : ℕ} {d₀ d : Direction} (h : SameEnd a e ↔ d = d₀) :
    ring ch e d = ring ch a d₀ := by
  unfold ring
  unfold SameEnd at h
  cases d₀ <;> cases d <;> by_cases ha : a = 0 <;> by_cases he : e = 0 <;> simp_all

lemma unshared_of_kinds (h : Kinds k) : Unshared k := fun i j _ hi hj =>
  h.pool i j hi.1 hj.1 (hi.2.1.trans hj.2.1.symm) (hi.2.2.trans hj.2.2.symm)

lemma unshared_of_object (h : Unshared k) (ho : k'.object = k.object) : Unshared k' := by
  intro i j c hi hj
  unfold ChanAt at hi hj
  rw [ho] at hi hj
  exact h i j c hi hj

/-- A channel keeps its rings, or it is new and they are empty. -/
structure Quiet (k k' : Kernel) : Prop where
  rings : ∀ i c, ChanAt k' i c → ChanAt k i c ∧ rings (k'.channel c) = rings (k.channel c) ∨
    (k.object i).occupied = false ∧ rings (k'.channel c) = rings .empty

/-- Moreover, no thread stops, and a channel keeps its queues and flags or has no waiters. -/
structure Calm (k k' : Kernel) : Prop extends Quiet k k' where
  awake : ∀ t, Awake k t → Awake k' t
  queues : ∀ i c, ChanAt k' i c → queued (k'.channel c) = [] ∨
    ChanAt k i c ∧ core (k'.channel c) = core (k.channel c)

lemma Quiet.refl (k : Kernel) : Quiet k k := ⟨fun _ _ h => .inl ⟨h, rfl⟩⟩

lemma Calm.refl (k : Kernel) : Calm k k := ⟨.refl k, fun _ h => h, fun _ _ h => .inr ⟨h, rfl⟩⟩

lemma Mute.rings_eq (h : Mute k k') (hu : Unshared k) {i : ObjIdx} {c : ℕ} (hi : ChanAt k' i c) :
    rings (k'.channel c) = rings (k.channel c) := by
  rcases h.rings c with he | ⟨j, hj, hgone⟩
  · exact he
  have hji := hu j i c hj (h.object i c hi)
  subst hji
  exact absurd hi hgone

lemma Quiet.mute (h : Quiet k k₁) (h' : Mute k₁ k₂) (hu : Unshared k₁) : Quiet k k₂ where
  rings i c hi := by
    rw [Mute.rings_eq h' hu hi]
    exact h.rings i c (h'.object i c hi)

lemma Calm.steady (h : Calm k k₁) (h' : Steady k₁ k₂) (hu : Unshared k₁) : Calm k k₂ where
  toQuiet := h.toQuiet.mute h'.toMute hu
  awake t ht := h'.awake t (h.awake t ht)
  queues i c hi := by
    rcases h'.queues c with he | he
    · exact .inl he
    rcases h.queues i c (h'.object i c hi) with hq | ⟨hc, hcore⟩
    · refine .inl ?_
      rw [← queued_core, he, queued_core, hq]
    · exact .inr ⟨hc, he.trans hcore⟩

lemma calm_of_steady (h : Steady k k') (hu : Unshared k) : Calm k k' := (Calm.refl k).steady h hu

/-! ### Creation -/

lemma calm_newObject (hu : Unshared k) {i : ObjIdx} {o : KernelObjectSlot}
    (new : NewObject k .channel i o) (n : ℕ) :
    let k₁ : Kernel := { k with
      nextObjectId := n
      object := update k.object i o
      channel := update k.channel o.poolIndex newChannel }
    Calm k k₁ ∧ Unshared k₁ := by
  intro k₁
  have hold : ∀ j d, j ≠ i → ChanAt k₁ j d → ChanAt k j d ∧ d ≠ o.poolIndex := by
    intro j d hj hd
    have hd' : ChanAt k j d := by simpa [k₁, ChanAt, hj] using hd
    refine ⟨hd', ?_⟩
    rw [← hd'.2.2]
    exact poolFree_iff.mp new.unused j hd'.1 hd'.2.1
  have hself : ∀ d, ChanAt k₁ i d → d = o.poolIndex := by
    intro d hd
    have hd' := hd.2.2
    simpa [k₁] using hd'.symm
  refine ⟨⟨⟨fun j d hd => ?_⟩, fun _ h => h, fun j d hd => ?_⟩, fun j j' d hj hj' => ?_⟩
  · by_cases hj : j = i
    · subst hj
      rw [hself d hd]
      exact Or.inr ⟨new.vacant, by simp only [k₁, update_self]; rfl⟩
    obtain ⟨hd', hne⟩ := hold j d hj hd
    exact Or.inl ⟨hd', by simp only [k₁, update_of_ne hne]⟩
  · by_cases hj : j = i
    · subst hj
      rw [hself d hd]
      exact Or.inl (by simp only [k₁, update_self]; rfl)
    obtain ⟨hd', hne⟩ := hold j d hj hd
    exact Or.inr ⟨hd', by simp only [k₁, update_of_ne hne]⟩
  -- an old channel is not the new object's, since the entry was free
  by_cases hji : j = i
  · subst hji
    by_contra hne
    exact (hold j' d (fun h => hne h.symm) hj').2 (hself d hj)
  by_cases hji' : j' = i
  · subst hji'
    exact absurd (hself d hj') (hold j d hji hj).2
  · exact hu j j' d (hold j d hji hj).1 (hold j' d hji' hj').1

lemma channelCreate_calm (hs : Sound k) (hu : Unshared k) (t : TSlot) :
    Leaves (Calm k) (channelCreate k t) := by
  rcases channelCreate_cases k t with ⟨e, n, he⟩ | ⟨p, i, o, n, new, he⟩
  · rw [he]
    exact calm_of_steady (.of_alike rfl rfl (.refl _)) hu
  rw [he]
  obtain ⟨hcalm, hu1⟩ := calm_newObject hu new n
  refine (channelHandles_moves (A := fun a => ∃ c, a = .handles c) ⟨_, rfl⟩ ⟨_, rfl⟩ ?_ p i).mono
    fun _ hm => hcalm.steady (.of_moves (by simp) (by simp) (by simp) hm) hu1
  exact hs

/-! ### Stretches of a send or receive -/

lemma releaseInFlightPin_steady (k : Kernel) (t : TSlot) (i : ObjIdx) :
    Ensures (Steady k) (releaseInFlightPinLocked k t i) :=
  (releaseInFlightPin_moves (A := fun _ => False) k t i).mono fun _ => .of_moves id id id

/-- How a stretch of the call `c` by the thread `t` can end. -/
inductive Round (k : Kernel) (t : TSlot) (c : Pending) : Progress × Kernel → Prop
  | failed {e : IpcError} {k' : Kernel}
      (stuck : closure (k.channel c.channel) c.endpoint ≠ none ∨
        transfer (ring (k.channel c.channel) c.endpoint c.action.direction) c.action = none)
      (released : Steady k k') : Round k t c (.failed e, k')
  | completed {msg : Option IpcMessage} {r : ChannelRing} {k₁ k' : Kernel}
      (moved : transfer (ring (k.channel c.channel) c.endpoint c.action.direction) c.action =
        some (msg, r))
      (woke : wakePeer (k.setChannel c.channel
          (setRing (k.channel c.channel) c.endpoint r c.action.direction)) c.channel c.endpoint
        c.action.direction.opposite = .ok k₁)
      (released : Steady k₁ k') : Round k t c (.completed c msg, k')
  | asleep {k' : Kernel} (opened : closure (k.channel c.channel) c.endpoint = none)
      (stuck : transfer (ring (k.channel c.channel) c.endpoint c.action.direction) c.action = none)
      (slept : sleep k t c.channel c.endpoint c.action.direction = .ok k') :
      Round k t c (.asleep c, k')

variable {t : TSlot} {c : Pending}

lemma finish_failed {e : IpcError} (h : closure (k.channel c.channel) c.endpoint ≠ none ∨
      transfer (ring (k.channel c.channel) c.endpoint c.action.direction) c.action = none) :
    Ensures (Round k t c) (finish k t c (.failed e)) :=
  Holds.bind (releaseInFlightPin_steady k t c.object) fun _ hk => .failed h hk

lemma complete_round {msg : Option IpcMessage} {r : ChannelRing}
    (h : transfer (ring (k.channel c.channel) c.endpoint c.action.direction) c.action =
      some (msg, r)) : Ensures (Round k t c) (complete k t c msg r) := by
  unfold complete
  simp only
  cases hw : wakePeer (k.setChannel c.channel (setRing (k.channel c.channel) c.endpoint r
    c.action.direction)) c.channel c.endpoint c.action.direction.opposite with
  | error e => trivial
  | ok k₁ =>
    rw [ok_bind]
    exact .bind (releaseInFlightPin_steady k₁ t c.object) fun _ hk => .completed h hw hk

lemma wait_round (ho : closure (k.channel c.channel) c.endpoint = none)
    (h : transfer (ring (k.channel c.channel) c.endpoint c.action.direction) c.action = none) :
    Ensures (Round k t c) (wait k t c) := by
  unfold wait
  split
  · exact finish_failed (.inr h)
  cases hs : sleep k t c.channel c.endpoint c.action.direction with
  | error e => trivial
  | ok k' => exact .asleep ho h hs

lemma callRound_round (k : Kernel) (t : TSlot) (c : Pending) :
    Ensures (Round k t c) (callRound k t c) := by
  unfold callRound
  simp only
  split
  next hcl =>
    exact finish_failed (.inl (by rw [hcl]; simp))
  next ht =>
    exact complete_round ht
  next hcl ht =>
    exact wait_round hcl ht
  next ht =>
    exact complete_round ht
  next ht =>
    exact finish_failed (.inr ht)
  rename_i hcl ht
  exact wait_round hcl ht

lemma resume_round (k : Kernel) (t : TSlot) (c : Pending) :
    Ensures (Round k t c) (resume k t c) := by
  unfold resume
  simp only
  split
  next hcl _ =>
    split
    · exact finish_failed (.inl (by rw [hcl]; simp))
    · exact callRound_round k t c
  next hcl _ =>
    exact finish_failed (.inl (by rw [hcl]; simp))
  · exact callRound_round k t c

/-- **A send or receive** is refused, or pins a channel and does a round. -/
lemma channelCall_round (k : Kernel) (t : TSlot) (hd : Handle) (action : Action) (blocking : Bool) :
    Ensures (fun r => (∃ e, r = (.failed e, k)) ∨
      ∃ c : Pending, c.action = action ∧ ChanAt k c.object c.channel ∧
        Round (pin k t c.object) t c r) (channelCall k t hd action blocking) := by
  unfold channelCall
  split
  · exact .inl ⟨_, rfl⟩
  rename_i p hp
  split
  · exact .inl ⟨_, rfl⟩
  rename_i endpoint rights hv
  obtain ⟨s, -, -, hocc, -, -, hr⟩ := validateHandle_ok hv
  cases hr
  split
  · exact .inl ⟨_, rfl⟩
  split
  · trivial
  rename_i htype
  have hchan : ChanAt k (k.entry s).objectIndex (k.object (k.entry s).objectIndex).poolIndex :=
    ⟨hocc, by simpa using htype, rfl⟩
  split
  · exact .inl ⟨_, rfl⟩
  obtain ⟨c, hc⟩ : ∃ c : Pending, c =
    { process := p, handle := hd, object := (k.entry s).objectIndex,
      channel := (k.object (k.entry s).objectIndex).poolIndex, endpoint := (k.entry s).endpoint,
      action := action, blocking := blocking } := ⟨_, rfl⟩
  have hobj : c.object = (k.entry s).objectIndex := by rw [hc]
  rw [← hc, ← hobj]
  exact (callRound_round _ t c).mono fun r h =>
    .inr ⟨c, by rw [hc], by rw [hc]; exact hchan, h⟩

/-! ### The steps of the system -/

/-- The system after a stretch of a call by `t`. -/
def after (σ : System) (t : TSlot) : Progress × Kernel → System
  | (.failed _, k) => { kernel := k, pending := update σ.pending t none }
  | (.completed _ _, k) => { kernel := k, pending := update σ.pending t none }
  | (.asleep c, k) => { kernel := k, pending := update σ.pending t (some c) }

lemma kernel_after (σ : System) (t : TSlot) (r : Progress × Kernel) :
    (after σ t r).kernel = r.2 := by
  obtain ⟨r, k⟩ := r
  cases r <;> rfl

/-- The message that a stretch of a call by `t` moved. -/
def delivery (t : TSlot) : Progress × Kernel → Option Delivery
  | (.completed c msg, _) => some { thread := t, call := c, msg := msg }
  | (.failed _, _) => none
  | (.asleep _, _) => none

/-- What a step of the system can be. -/
inductive Happens (σ : System) : Op → Option Delivery × System → Prop
  | calm {op : Op} {k' : Kernel} (calm : Calm σ.kernel k') :
      Happens σ op (none, { σ with kernel := k' })
  | exit {t : TSlot} {k' : Kernel} (quiet : Quiet σ.kernel k') :
      Happens σ (.call t .exit) (none, { σ with kernel := k' })
  | round {op : Op} {t : TSlot} {c : Pending} {k : Kernel} {r : Progress × Kernel}
      (runs : (σ.kernel.thread t).state = .running)
      (own : ∀ c', σ.pending t = some c' → c' = c)
      (object : ChanAt σ.kernel c.object c.channel) (channel : k.channel = σ.kernel.channel)
      (thread : k.thread = σ.kernel.thread) (alike : Alike σ.kernel.object k.object)
      (round : Round k t c r) : Happens σ op (delivery t r, after σ t r)

variable {σ : System}

lemma settle_eq (σ : System) (t : TSlot) (x : Except Halt (Progress × Kernel)) :
    σ.settle t x = x.map fun r => (delivery t r, after σ t r) := by
  cases x with
  | error e => rfl
  | ok r =>
    obtain ⟨r, k⟩ := r
    cases r <;> rfl

variable {op : Op}

lemma call_happens (ht : (σ.kernel.thread t).state = .running)
    (hp : σ.pending t = none) (hd : Handle) (action : Action) (blocking : Bool) :
    Ensures (Happens σ op) (σ.settle t (channelCall σ.kernel t hd action blocking)) := by
  rw [settle_eq]
  refine (channelCall_round σ.kernel t hd action blocking).map fun r hr => ?_
  rcases hr with ⟨e, rfl⟩ | ⟨c, -, hobj, hround⟩
  · have hsame : after σ t (.failed e, σ.kernel) = { σ with kernel := σ.kernel } := by
      simp [after, ← hp]
    rw [hsame]
    exact .calm (.refl _)
  exact .round (k := pin σ.kernel t c.object) ht (fun c' h => by rw [hp] at h; cases h) hobj rfl rfl
    (alike_withHeader σ.kernel.object c.object _) hround

lemma pending_chanAt (h : Orderly L σ) (hp : σ.pending t = some c)
    (ht : Active σ.kernel t) : ChanAt σ.kernel c.object c.channel := by
  have hpin := h.pinned t c hp ht
  have hl := h.good.ledger
  have htype := hl.kinds.pin t hpin.occupied
  have hocc := hl.tallied.occupied_of_ne (refCount_ne_of_pin hl.tallied hpin.occupied)
  rw [hpin.object] at htype hocc
  exact ⟨hocc, htype, hpin.channel⟩

lemma exec_pending (hn : .traffic ∉ needs op) :
    Ensures (fun r => r.1 = none ∧ r.2 = { σ with kernel := r.2.kernel }) (op.exec σ) := by
  have honly : ∀ {α : Type} (x : Except Halt (α × Kernel)),
      Ensures (fun r => r.1 = none ∧ r.2 = { σ with kernel := r.2.kernel }) (σ.only x) :=
    fun x => .bind (ensures_true x) fun _ _ => ⟨rfl, rfl⟩
  cases op with
  | call t c =>
    cases c with
    | channelSend | channelReceive => exact absurd (by simp [needs, callNeeds]) hn
    | _ => exact honly _
  | resume t => exact absurd (by simp [needs]) hn
  | schedule | preempt => exact ⟨rfl, rfl⟩
  | _ => exact honly _

lemma exec_calm (hs : Sound σ.kernel) (hu : Unshared σ.kernel)
    (ht : .traffic ∉ needs op) (hh : .threads ∉ needs op) : Ensures (Happens σ op) (op.exec σ) := by
  have hcalm : Ensures (fun r => Calm σ.kernel r.2.kernel) (op.exec σ) := by
    by_cases hn : .create .channel ∈ needs op
    · have hop : ∃ t, op = .call t .channelCreate := by
        revert hn
        cases op with
        | call t c => cases c <;> simp [needs, callNeeds]
        | _ => simp [needs]
      obtain ⟨t, rfl⟩ := hop
      exact ensures_only (channelCreate_calm hs hu t)
    exact (exec_moves (A := (· ∈ needs op)) hs op fun _ ha => ha).mono fun _ hm =>
      calm_of_steady (.of_moves ht hn hh hm) hu
  refine (hcalm.both (exec_pending ht)).mono ?_
  rintro ⟨d, σ'⟩ ⟨hr, rfl, hσ⟩
  dsimp only at hσ hr
  rw [hσ]
  exact .calm hr

/-- **One step.** -/
lemma exec_happens (h : Orderly L σ) (hen : op.enabled σ) : Ensures (Happens σ op) (op.exec σ) := by
  have hs := h.good.sound
  have hu := unshared_of_kinds h.good.ledger.kinds
  cases op with
  | call t c =>
    simp only [Op.enabled, Bool.and_eq_true, decide_eq_true_eq, Option.isNone_iff_eq_none] at hen
    obtain ⟨ht, hp⟩ := hen
    cases c with
    | channelSend | channelReceive => exact call_happens ht hp _ _ _
    | exit =>
      have hm := processExit_moves (A := (· ≠ .traffic) ⊓ (· ≠ .create .channel)) (by simp)
        (by simp) (by simp) (by simp) hs t
      exact .bind (hm.map (R := fun r => Mute σ.kernel r.2)
        fun _ hk => .of_moves (by simp) (by simp) hk) fun _ hk => .exit ((Quiet.refl _).mute hk hu)
    | _ => exact exec_calm hs hu (by simp [needs, callNeeds]) (by simp [needs, callNeeds])
  | resume t =>
    have ht : (σ.kernel.thread t).state = .running := by simpa [Op.enabled] using hen
    simp only [Op.exec]
    split
    · exact .calm (.refl _)
    rename_i c hp
    rw [settle_eq]
    exact (resume_round σ.kernel t c).map fun r hr =>
      .round ht (fun c' hc' => (Option.some.inj (hp.symm.trans hc')).symm)
        (pending_chanAt h hp (.inr (.inr ht))) rfl rfl (.refl _) hr
  | schedule t => exact .calm (calm_of_steady (steady_setThreadState t (.inr rfl)) hu)
  | preempt t => exact .calm (calm_of_steady (steady_setThreadState t (.inl rfl)) hu)
  | _ => exact exec_calm hs hu (by simp [needs]) (by simp [needs])

end ProjectZero.Ipc.Rounds
