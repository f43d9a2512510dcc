import ProjectZero.Ipc.Rounds

/-! # No wake-up is lost

Every push wakes one receiver and every pop one sender, and a woken thread can find the message or
the free cell taken and go back to sleep. What a waiting thread needs is that the woken threads which
have not run yet are enough for all that is in the ring: at an endpoint with waiters, there are never
more messages, or free cells, than threads on their way to them. -/

namespace ProjectZero.Ipc.Wakeups

open Lib.Run Tables Object Queues Accounts Ipc.Channel Steps Traffic
open Endpoints Footprint Rings Rounds Task.Accounting

variable {L : ObjIdx → Prop} {k k' : Kernel} {σ σ' : System} {t : TSlot} {p : Pending}

/-! ### Threads on their way -/

/-- The call is one for the endpoint `e` of the channel `c`, in the direction `d`. -/
def CallAt (p : Pending) (c e : ℕ) (d : Direction) : Prop :=
  p.channel = c ∧ SameEnd p.endpoint e ∧ p.action.direction = d
  deriving Decidable

/-- The threads that were woken from a wait at the endpoint `e`, and have not run since. -/
def woken (σ : System) (c e : ℕ) (d : Direction) : Finset TSlot :=
  Finset.univ.filter fun t => Awake σ.kernel t ∧ ∃ p ∈ σ.pending t, CallAt p c e d

variable {c e a : ℕ} {d : Direction}

lemma mem_woken : t ∈ woken σ c e d ↔ Awake σ.kernel t ∧ ∃ p ∈ σ.pending t, CallAt p c e d := by
  simp [woken]

/-- What a call in the direction can use of the ring: free cells or messages. -/
def avail (r : ChannelRing) : Direction → ℕ
  | .send => 4 - r.count
  | .receive => r.count

/-- All threads but `t` keep their calls, and those that can run can still run. -/
structure Spares (t : TSlot) (σ σ' : System) : Prop where
  awake : ∀ u ≠ t, Awake σ.kernel u → Awake σ'.kernel u
  pending : ∀ u ≠ t, σ'.pending u = σ.pending u

lemma Spares.mem_woken (h : Spares t σ σ') {u : TSlot} (hu : u ≠ t)
    (hw : u ∈ woken σ c e d) : u ∈ woken σ' c e d := by
  rw [Wakeups.mem_woken] at hw ⊢
  rw [h.pending u hu]
  exact ⟨h.awake u hu hw.1, hw.2⟩

lemma Spares.card_le_succ (h : Spares t σ σ') (c e : ℕ) (d : Direction) :
    (woken σ c e d).card ≤ (woken σ' c e d).card + 1 := by
  have hsub : (woken σ c e d).erase t ⊆ woken σ' c e d := fun u hu =>
    h.mem_woken (Finset.ne_of_mem_erase hu) (Finset.mem_of_mem_erase hu)
  have hcard := Finset.card_le_card hsub
  have herase := Finset.pred_card_le_card_erase (s := woken σ c e d) (a := t)
  omega

lemma Spares.subset (h : Spares t σ σ') (own : ∀ p', σ.pending t = some p' → p' = p)
    (hp : ¬CallAt p c e d) : woken σ c e d ⊆ woken σ' c e d := by
  intro u hu
  refine h.mem_woken (fun hut => hp ?_) hu
  subst hut
  obtain ⟨-, p', hp', hat⟩ := Wakeups.mem_woken.mp hu
  exact own p' hp' ▸ hat

/-! ### The invariant -/

/-- At every channel: the rings are not overfull, who waits has a call there, and where someone
waits, nothing is closed and the woken threads are enough for what there is. -/
structure Tended (σ : System) : Prop where
  count : ∀ i c, ChanAt σ.kernel i c → ∀ e d, (ring (σ.kernel.channel c) e d).count ≤ 4
  linked : ∀ i c, ChanAt σ.kernel i c → ∀ e d, ∀ t ∈ waiters ((σ.kernel.channel c).mine e) d,
    ∃ p ∈ σ.pending t, CallAt p c e d
  served : ∀ i c, ChanAt σ.kernel i c → ∀ e d, waiters ((σ.kernel.channel c).mine e) d ≠ [] →
    closure (σ.kernel.channel c) e = none ∧
      avail (ring (σ.kernel.channel c) e d) d ≤ (woken σ c e d).card

lemma waiters_core (ch : Channel) (e : ℕ) (d : Direction) :
    waiters ((core ch).mine e) d = waiters (ch.mine e) d := by
  unfold Channel.mine core
  cases d <;> split <;> rfl

lemma closure_core (ch : Channel) (e : ℕ) : closure (core ch) e = closure ch e := by
  unfold Channel.closure Channel.mine Channel.peer core
  by_cases he : e = 0 <;> simp [he]

variable {ch : Channel}

lemma mem_queued (h : t ∈ waiters (ch.mine e) d) : t ∈ queued ch := by
  unfold Channel.mine at h
  unfold queued
  cases d <;> split at h <;> simp only [waiters] at h <;> simp [h]

/-- **A step that moves no message** keeps it. -/
lemma Tended.calm (h : Tended σ) (hc : Calm σ.kernel k') : Tended { σ with kernel := k' } := by
  have hsub : ∀ c e d, woken σ c e d ⊆ woken { σ with kernel := k' } c e d := fun c e d u hu => by
    rw [mem_woken] at hu ⊢
    exact ⟨hc.awake u hu.1, hu.2⟩
  refine ⟨fun i c hi e d => ?_, fun i c hi e d t ht => ?_, fun i c hi e d hw => ?_⟩
  · rcases hc.rings i c hi with ⟨hold, hr⟩ | ⟨-, hr⟩
    · rw [ring_of_rings hr]
      exact h.count i c hold e d
    rw [ring_of_rings hr]
    cases d <;> simp [ring, Channel.empty, ChannelRing.empty]
  · rcases hc.queues i c hi with hq | ⟨hold, hcore⟩
    · exact absurd (hq ▸ mem_queued ht) List.not_mem_nil
    rw [← waiters_core, hcore, waiters_core] at ht
    exact h.linked i c hold e d t ht
  rcases hc.queues i c hi with hq | ⟨hold, hcore⟩
  · obtain ⟨t, ht⟩ := List.exists_mem_of_ne_nil _ hw
    exact absurd (hq ▸ mem_queued ht) List.not_mem_nil
  rw [← waiters_core, hcore, waiters_core] at hw
  obtain ⟨hcl, hav⟩ := h.served i c hold e d hw
  have hr : rings (k'.channel c) = rings (σ.kernel.channel c) := by
    rw [← rings_core, hcore, rings_core]
  rw [← closure_core, hcore, closure_core, ring_of_rings hr]
  exact ⟨hcl, hav.trans (Finset.card_le_card (hsub c e d))⟩

/-! ### What the rounds do to a channel -/

lemma transfer_none {r : ChannelRing} {action : Action} (h : transfer r action = none) :
    avail r action.direction = 0 := by
  cases action with
  | send msg =>
    have hp : r.push msg = none := by simpa [transfer] using h
    have hfull : r.count = 4 := by
      by_contra hc
      simp [ChannelRing.push, ChannelRing.isFull, hc] at hp
    simp [avail, Action.direction, hfull]
  | receive =>
    have hp : r.pop = none := by simpa [transfer] using h
    by_contra hc
    have hc' : r.count ≠ 0 := hc
    simp [ChannelRing.pop, ChannelRing.isEmpty, hc'] at hp

variable {msg : Option IpcMessage}

/-- A transfer uses one of what there is for its own side, and makes one more for the other. -/
lemma transfer_avail {r r' : ChannelRing} {action : Action}
    (hc : r.count ≤ 4) (h : transfer r action = some (msg, r')) :
    r'.count ≤ 4 ∧ avail r' action.direction + 1 = avail r action.direction ∧
      avail r' action.direction.opposite = avail r action.direction.opposite + 1 := by
  cases action with
  | send m =>
    obtain ⟨r1, hr, he⟩ := Option.map_eq_some_iff.mp h
    cases he
    unfold ChannelRing.push at hr
    split at hr
    · cases hr
    rename_i hfull
    cases hr
    have hne : r.count ≠ 4 := by simpa [ChannelRing.isFull] using hfull
    show r.count + 1 ≤ 4 ∧ 4 - (r.count + 1) + 1 = 4 - r.count ∧ r.count + 1 = r.count + 1
    omega
  | receive =>
    obtain ⟨⟨m, r1⟩, hr, he⟩ := Option.map_eq_some_iff.mp h
    cases he
    unfold ChannelRing.pop at hr
    split at hr
    · cases hr
    rename_i hempty
    cases hr
    have hne : r.count ≠ 0 := by simpa [ChannelRing.isEmpty] using hempty
    show r.count - 1 ≤ 4 ∧ r.count - 1 + 1 = r.count ∧ 4 - (r.count - 1) = 4 - r.count + 1
    omega

variable (ch)

lemma waiters_setRing (a e : ℕ) (r : ChannelRing) (d₀ d : Direction) :
    waiters ((setRing ch a r d₀).mine e) d = waiters (ch.mine e) d := by
  unfold setRing Channel.mine
  cases d₀ <;> by_cases ha : a = 0 <;> simp [ha]

lemma closure_setRing (a e : ℕ) (r : ChannelRing) (d₀ : Direction) :
    closure (setRing ch a r d₀) e = closure ch e := by
  unfold setRing Channel.closure Channel.mine Channel.peer
  cases d₀ <;> by_cases ha : a = 0 <;> simp [ha]

lemma waiters_setMine (a e : ℕ) (queue : List TSlot) (d₀ d : Direction) :
    waiters ((ch.setEndpoints a (setWaiters (ch.mine a) queue d₀) (ch.peer a)).mine e) d =
      if SameEnd a e ∧ d = d₀ then queue else waiters (ch.mine e) d := by
  unfold Channel.setEndpoints Channel.mine Channel.peer SameEnd setWaiters waiters
  cases d₀ <;> cases d <;> by_cases ha : a = 0 <;> by_cases he : e = 0 <;> simp [ha, he]

lemma waiters_setPeer (a e : ℕ) (queue : List TSlot) (d₀ d : Direction) :
    waiters ((ch.setEndpoints a (ch.mine a) (setWaiters (ch.peer a) queue d₀)).mine e) d =
      if ¬SameEnd a e ∧ d = d₀ then queue else waiters (ch.mine e) d := by
  unfold Channel.setEndpoints Channel.mine Channel.peer SameEnd setWaiters waiters
  cases d₀ <;> cases d <;> by_cases ha : a = 0 <;> by_cases he : e = 0 <;> simp [ha, he]

lemma closure_setEndpoints (a e : ℕ) (mine peer : ChannelEndpointData)
    (h1 : mine.isClosed = (ch.mine a).isClosed) (h2 : mine.peerClosed = (ch.mine a).peerClosed)
    (h3 : peer.isClosed = (ch.peer a).isClosed) (h4 : peer.peerClosed = (ch.peer a).peerClosed) :
    closure (ch.setEndpoints a mine peer) e = closure ch e := by
  unfold Channel.closure Channel.setEndpoints Channel.mine Channel.peer at *
  by_cases ha : a = 0 <;> by_cases he : e = 0 <;> simp_all

variable {ch}

lemma peer_eq_mine (h : ¬SameEnd a e) : ch.peer a = ch.mine e := by
  unfold Channel.peer Channel.mine
  unfold SameEnd at h
  by_cases ha : a = 0 <;> by_cases he : e = 0 <;> simp_all

lemma closure_sameEnd (h : SameEnd a e) : closure ch a = closure ch e := by
  unfold Channel.closure Channel.mine Channel.peer
  unfold SameEnd at h
  by_cases ha : a = 0 <;> by_cases he : e = 0 <;> simp_all

/-- What a change of one channel leaves alone: the objects, the other channels, and of the channel
itself the rings and flags. -/
structure Touches (c : ℕ) (k k' : Kernel) : Prop where
  object : k'.object = k.object
  other : ∀ c', c' ≠ c → k'.channel c' = k.channel c'
  rings : rings (k'.channel c) = rings (k.channel c)
  closure : ∀ e, closure (k'.channel c) e = closure (k.channel c) e

lemma touches_setEndpoints (k : Kernel) (c a : ℕ) {mine peer : ChannelEndpointData}
    (h1 : mine.isClosed = ((k.channel c).mine a).isClosed)
    (h2 : mine.peerClosed = ((k.channel c).mine a).peerClosed)
    (h3 : peer.isClosed = ((k.channel c).peer a).isClosed)
    (h4 : peer.peerClosed = ((k.channel c).peer a).peerClosed) :
    Touches c k (k.setChannel c ((k.channel c).setEndpoints a mine peer)) where
  object := rfl
  other c' hc := update_of_ne hc _ _
  rings := by simp [Kernel.setChannel, rings_setEndpoints]
  closure e := by
    simp only [Kernel.setChannel, update_self]
    exact closure_setEndpoints _ a e mine peer h1 h2 h3 h4

/-- **A wake-up at the peer** takes the first thread of the queue. -/
lemma wakePeer_spec (k : Kernel) (c a : ℕ) (d₀ : Direction) :
    Ensures (fun k' => Touches c k k' ∧ (∀ u, Awake k u → Awake k' u) ∧
      (∀ e d, waiters ((k'.channel c).mine e) d = if ¬SameEnd a e ∧ d = d₀ then
        (waiters ((k.channel c).mine e) d).tail else waiters ((k.channel c).mine e) d) ∧
      ∀ u ∈ (waiters ((k.channel c).peer a) d₀).head?, Awake k' u) (wakePeer k c a d₀) := by
  unfold wakePeer
  simp only
  split
  next hq =>
    refine ⟨⟨rfl, fun _ _ => rfl, rfl, fun _ => rfl⟩, fun _ h => h, fun e d => ?_, by simp [hq]⟩
    split
    next h =>
      obtain ⟨he, rfl⟩ := h
      rw [← peer_eq_mine he, hq]
      rfl
    · rfl
  rename_i u queue hq
  obtain ⟨f1, f2⟩ := setWaiters_flags ((k.channel c).peer a) queue d₀
  have htouch := touches_setEndpoints k c a (Eq.refl ((k.channel c).mine a).isClosed) rfl f1 f2
  unfold wakeThreadLocked
  split
  · refine ⟨⟨htouch.object, htouch.other, htouch.rings, htouch.closure⟩, fun v hv => ?_,
      fun e d => ?_, fun v hv => ?_⟩
    · exact (steady_setThreadState u (.inl rfl)).awake v hv
    · simp only [setThreadState, Kernel.setChannel, update_self]
      rw [waiters_setPeer]
      split
      next h =>
        obtain ⟨he, rfl⟩ := h
        rw [← peer_eq_mine he, hq, List.tail_cons]
      · rfl
    have hv' : u = v := by simpa [hq] using hv
    subst hv'
    exact .inl (by simp [setThreadState])
  · trivial

lemma sleep_spec (k : Kernel) (t : TSlot) (c a : ℕ) (d₀ : Direction) :
    Ensures (fun k' => Touches c k k' ∧ (∀ u ≠ t, Awake k u → Awake k' u) ∧
      ∀ e d, if SameEnd a e ∧ d = d₀ then
          ∀ u ∈ waiters ((k'.channel c).mine e) d, u = t ∨ u ∈ waiters ((k.channel c).mine e) d
        else waiters ((k'.channel c).mine e) d = waiters ((k.channel c).mine e) d)
      (sleep k t c a d₀) := by
  unfold sleep prepareBlockLocked
  split
  · rw [ok_bind]
    simp only
    obtain ⟨k1, hk1⟩ : ∃ k1, k1 = setThreadState k t .blocked := ⟨_, rfl⟩
    have hch : k1.channel = k.channel := by rw [hk1]; rfl
    rw [← hk1]
    obtain ⟨queue, hqueue⟩ : ∃ queue, queue = pushPriority (fun u => (k1.thread u).priority) t
      (waiters ((k1.channel c).mine a) d₀) := ⟨_, rfl⟩
    have hmem : ∀ u ∈ queue, u = t ∨ u ∈ waiters ((k.channel c).mine a) d₀ := fun u hu => by
      rw [hqueue, (pushPriority_perm _ t _).mem_iff, hch] at hu
      exact List.mem_cons.mp hu
    rw [← hqueue]
    obtain ⟨f1, f2⟩ := setWaiters_flags ((k1.channel c).mine a) queue d₀
    have htouch := touches_setEndpoints k1 c a f1 f2 (Eq.refl ((k1.channel c).peer a).isClosed) rfl
    rw [← hch]
    refine ⟨⟨by rw [hk1]; rfl, fun c' hc => (htouch.other c' hc).trans (by rw [hch]),
      htouch.rings.trans (by rw [hch]), fun e => (htouch.closure e).trans (by rw [hch])⟩,
      fun u hu hk => ?_, fun e d => ?_⟩
    · unfold Awake at hk ⊢
      rw [hk1]
      simp only [Kernel.setChannel]
      rw [setThreadState_of_ne hu]
      exact hk
    simp only [Kernel.setChannel, update_self]
    rw [waiters_setMine]
    split
    next h =>
      obtain ⟨he, rfl⟩ := h
      intro u hu
      have hmine : (k1.channel c).mine e = (k.channel c).mine a := by
        rw [hch]
        unfold Channel.mine
        unfold SameEnd at he
        simp only [he]
      rw [hmine]
      exact hmem u hu
    · rfl
  · rw [error_bind]; trivial

/-! ### Rounds -/

section

variable (h : Tended σ) (own : ∀ p', σ.pending t = some p' → p' = p)
  (hout : ∀ c, t ∉ queued (σ.kernel.channel c))

include h own hout

/-- **A call fails**: nothing was there for it, or no one waits at its endpoint. -/
lemma Tended.failed (hstuck : closure (σ.kernel.channel p.channel) p.endpoint ≠ none ∨
      transfer (ring (σ.kernel.channel p.channel) p.endpoint p.action.direction) p.action = none) :
    Tended { σ with pending := update σ.pending t none } := by
  have hsp : Spares t σ { σ with pending := update σ.pending t none } :=
    ⟨fun _ _ h => h, fun _ hu => update_of_ne hu _ _⟩
  refine ⟨h.count, fun i c hi e d u hu => ?_, fun i c hi e d hw => ?_⟩
  · have hut : u ≠ t := fun hut => hout c (mem_queued (hut ▸ hu))
    simp only [update_of_ne hut]
    exact h.linked i c hi e d u hu
  obtain ⟨hcl, hav⟩ := h.served i c hi e d hw
  refine ⟨hcl, ?_⟩
  by_cases hp : CallAt p c e d
  · obtain ⟨rfl, he, rfl⟩ := hp
    rcases hstuck with hclosed | hnone
    · rw [closure_sameEnd he] at hclosed
      exact absurd hcl hclosed
    have hzero := transfer_none hnone
    rw [ring_shared (σ.kernel.channel p.channel)
      (iff_of_true he (Eq.refl p.action.direction)), hzero]
    exact Nat.zero_le _
  · exact hav.trans (Finset.card_le_card (hsp.subset own hp))

/-- **A call goes to sleep**: nothing was there for it, and nothing is closed. -/
lemma Tended.asleep (hopen : closure (σ.kernel.channel p.channel) p.endpoint = none)
    (hstuck : transfer (ring (σ.kernel.channel p.channel) p.endpoint p.action.direction)
      p.action = none) (hs : sleep σ.kernel t p.channel p.endpoint p.action.direction = .ok k') :
    Tended { kernel := k', pending := update σ.pending t (some p) } := by
  obtain ⟨htouch, hawake, hq⟩ := (sleep_spec ..).of_ok hs
  have hsp : Spares t σ { kernel := k', pending := update σ.pending t (some p) } :=
    ⟨hawake, fun _ hu => update_of_ne hu _ _⟩
  have hold : ∀ i c, ChanAt k' i c → ChanAt σ.kernel i c := fun i c hi => by
    unfold ChanAt at hi ⊢
    rw [htouch.object] at hi
    exact hi
  have hring : ∀ c e d, ring (k'.channel c) e d = ring (σ.kernel.channel c) e d := fun c e d => by
    by_cases hc : c = p.channel
    · subst hc
      exact ring_of_rings htouch.rings e d
    · rw [htouch.other c hc]
  have hclosure : ∀ c e, closure (k'.channel c) e = closure (σ.kernel.channel c) e := fun c e => by
    by_cases hc : c = p.channel
    · subst hc
      exact htouch.closure e
    · rw [htouch.other c hc]
  -- the queues change only where the call waits
  have hsame : ∀ c e d, ¬CallAt p c e d →
      waiters ((k'.channel c).mine e) d = waiters ((σ.kernel.channel c).mine e) d := by
    intro c e d hp
    by_cases hc : c = p.channel
    · subst hc
      have := hq e d
      rwa [if_neg fun h => hp ⟨rfl, h.1, h.2.symm⟩] at this
    · rw [htouch.other c hc]
  have hlinked : ∀ i c, ChanAt k' i c → ∀ e d u, u ≠ t →
      u ∈ waiters ((σ.kernel.channel c).mine e) d →
      ∃ p' ∈ update σ.pending t (some p) u, CallAt p' c e d := by
    intro i c hi e d u hut hu
    rw [update_of_ne hut]
    exact h.linked i c (hold i c hi) e d u hu
  refine ⟨fun i c hi e d => ?_, fun i c hi e d u hu => ?_, fun i c hi e d hw => ?_⟩
  · simp only [hring]
    exact h.count i c (hold i c hi) e d
  · by_cases hp : CallAt p c e d
    · by_cases hut : u = t
      · subst hut
        exact ⟨p, by simp, hp⟩
      obtain ⟨rfl, he, rfl⟩ := hp
      have hmem := hq e p.action.direction
      rw [if_pos ⟨he, rfl⟩] at hmem
      exact hlinked i _ hi e _ u hut ((hmem u hu).resolve_left hut)
    simp only [hsame c e d hp] at hu
    exact hlinked i c hi e d u (fun hut => hout c (mem_queued (hut ▸ hu))) hu
  simp only [hring, hclosure]
  by_cases hp : CallAt p c e d
  · obtain ⟨rfl, he, rfl⟩ := hp
    refine ⟨by rw [← closure_sameEnd he, hopen], ?_⟩
    rw [ring_shared (σ.kernel.channel p.channel)
      (iff_of_true he (Eq.refl p.action.direction)), transfer_none hstuck]
    exact Nat.zero_le _
  simp only [hsame c e d hp] at hw
  obtain ⟨hcl, hav⟩ := h.served i c (hold i c hi) e d hw
  exact ⟨hcl, hav.trans (Finset.card_le_card (hsp.subset own hp))⟩

end

lemma eq_opposite {d₀ : Direction} (h : d ≠ d₀) : d = d₀.opposite := by
  cases d <;> cases d₀ <;> simp_all [Direction.opposite]

/-- The tables after the call `p` has come through, with the ring `r`, and a waiter of the peer has
been woken. -/
structure Moved (p : Pending) (r : ChannelRing) (k k' : Kernel) : Prop where
  object : k'.object = k.object
  other : ∀ c ≠ p.channel, k'.channel c = k.channel c
  ring : ∀ e d, ring (k'.channel p.channel) e d =
    if SameEnd p.endpoint e ↔ d = p.action.direction then r else ring (k.channel p.channel) e d
  closure : ∀ e, closure (k'.channel p.channel) e = closure (k.channel p.channel) e
  waiters : ∀ e d, waiters ((k'.channel p.channel).mine e) d =
    if ¬SameEnd p.endpoint e ∧ d = p.action.direction.opposite then
      (waiters ((k.channel p.channel).mine e) d).tail
    else waiters ((k.channel p.channel).mine e) d
  awake : ∀ u, Awake k u → Awake k' u
  head : ∀ e, ¬SameEnd p.endpoint e →
    ∀ u ∈ (Channel.waiters ((k.channel p.channel).mine e) p.action.direction.opposite).head?,
      Awake k' u

lemma moved_of_wakePeer {r : ChannelRing} (hw : wakePeer (k.setChannel p.channel
    (setRing (k.channel p.channel) p.endpoint r p.action.direction)) p.channel p.endpoint
    p.action.direction.opposite = .ok k') : Moved p r k k' := by
  obtain ⟨htouch, hawake, hq, hhead⟩ := (wakePeer_spec ..).of_ok hw
  have hself : (k.setChannel p.channel (setRing (k.channel p.channel) p.endpoint r
      p.action.direction)).channel p.channel =
      setRing (k.channel p.channel) p.endpoint r p.action.direction := update_self _ _ _
  refine ⟨htouch.object, fun c hc => ?_, fun e d => ?_, fun e => ?_, fun e d => ?_, hawake,
    fun e he u hu => hhead u ?_⟩
  · rw [htouch.other c hc]
    exact update_of_ne hc _ _
  · rw [ring_of_rings htouch.rings, hself, ring_setRing_eq]
  · rw [htouch.closure, hself, closure_setRing]
  · rw [hq, hself, waiters_setRing]
  rw [peer_eq_mine he, hself, waiters_setRing]
  exact hu

variable {r : ChannelRing}

lemma Moved.sub (h : Moved p r k k') {u : TSlot}
    (hu : u ∈ Channel.waiters ((k'.channel c).mine e) d) :
    u ∈ Channel.waiters ((k.channel c).mine e) d := by
  by_cases hc : c = p.channel
  · subst hc
    rw [h.waiters] at hu
    split at hu
    · exact List.mem_of_mem_tail hu
    · exact hu
  rw [h.other c hc] at hu
  exact hu

lemma Moved.chanAt (h : Moved p r k k') {i : ObjIdx} (hi : ChanAt k' i c) : ChanAt k i c := by
  unfold ChanAt at hi ⊢
  rw [h.object] at hi
  exact hi

/-- **At the channel of the call**: it uses one of what there was at its endpoint, where it is one of
those on their way; at the other end there is one more for those who wait, and one of them wakes. -/
lemma Moved.served (hm : Moved p r σ.kernel σ'.kernel) (h : Tended σ) (hsp : Spares t σ σ')
    (own : ∀ p', σ.pending t = some p' → p' = p)
    (hasleep : ∀ c e d, ∀ u ∈ Channel.waiters ((σ.kernel.channel c).mine e) d,
      u ≠ t ∧ ¬Awake σ.kernel u) {i : ObjIdx} (hi : ChanAt σ.kernel i p.channel)
    (hmoved : transfer (Channel.ring (σ.kernel.channel p.channel) p.endpoint p.action.direction)
      p.action = some (msg, r))
    (hne : Channel.waiters ((σ'.kernel.channel p.channel).mine e) d ≠ []) :
    avail (Channel.ring (σ'.kernel.channel p.channel) e d) d ≤ (woken σ' p.channel e d).card := by
  obtain ⟨-, hmine, hpeer⟩ := transfer_avail (h.count i _ hi _ _) hmoved
  have hwas : Channel.waiters ((σ.kernel.channel p.channel).mine e) d ≠ [] := by
    obtain ⟨u, hu⟩ := List.exists_mem_of_ne_nil _ hne
    exact List.ne_nil_of_mem (hm.sub hu)
  have hle := (h.served i _ hi e d hwas).2
  have hsucc := hsp.card_le_succ p.channel e d
  rw [hm.ring]
  by_cases he : SameEnd p.endpoint e
  · by_cases hd : d = p.action.direction
    · rw [if_pos (iff_of_true he hd)]
      rw [ring_shared _ (iff_of_true he hd)] at hle
      subst hd
      omega
    rw [if_neg fun h => hd (h.mp he)]
    exact hle.trans (Finset.card_le_card (hsp.subset own fun hp => hd hp.2.2.symm))
  have hsub : woken σ p.channel e d ⊆ woken σ' p.channel e d :=
    hsp.subset own fun hp => he hp.2.1
  by_cases hd : d = p.action.direction
  · rw [if_neg fun h => he (h.mpr hd)]
    exact hle.trans (Finset.card_le_card hsub)
  -- the first of the queue is among the woken now
  rw [if_pos (iff_of_false he hd)]
  rw [ring_shared _ (iff_of_false he hd)] at hle
  obtain rfl := eq_opposite hd
  obtain ⟨u, queue, hq⟩ := List.exists_cons_of_ne_nil hwas
  have hu : u ∈ Channel.waiters ((σ.kernel.channel p.channel).mine e)
    p.action.direction.opposite := by rw [hq]; simp
  obtain ⟨hut, hblocked⟩ := hasleep _ _ _ u hu
  have hnew : u ∈ woken σ' p.channel e p.action.direction.opposite := by
    refine mem_woken.mpr ⟨hm.head e he u (by rw [hq]; simp), ?_⟩
    rw [hsp.pending u hut]
    exact h.linked i _ hi e _ u hu
  have hold : u ∉ woken σ p.channel e p.action.direction.opposite := fun hc =>
    hblocked (mem_woken.mp hc).1
  have hlt := Finset.card_lt_card (Finset.ssubset_iff_of_subset hsub |>.mpr ⟨u, hnew, hold⟩)
  omega

lemma Tended.completed (h : Tended σ) (hm : Moved p r σ.kernel σ'.kernel) (hsp : Spares t σ σ')
    (own : ∀ p', σ.pending t = some p' → p' = p)
    (hasleep : ∀ c e d, ∀ u ∈ waiters ((σ.kernel.channel c).mine e) d, u ≠ t ∧ ¬Awake σ.kernel u)
    (hobj : ∃ i, ChanAt σ.kernel i p.channel)
    (hmoved : transfer (ring (σ.kernel.channel p.channel) p.endpoint p.action.direction) p.action =
      some (msg, r)) : Tended σ' := by
  obtain ⟨i0, hi0⟩ := hobj
  refine ⟨fun i c hi e d => ?_, fun i c hi e d u hu => ?_, fun i c hi e d hne => ?_⟩
  · by_cases hc : c = p.channel
    · subst hc
      rw [hm.ring]
      split
      · exact (transfer_avail (h.count i0 _ hi0 _ _) hmoved).1
      · exact h.count i _ (hm.chanAt hi) e d
    rw [hm.other c hc]
    exact h.count i c (hm.chanAt hi) e d
  · rw [hsp.pending u (hasleep c e d u (hm.sub hu)).1]
    exact h.linked i c (hm.chanAt hi) e d u (hm.sub hu)
  by_cases hc : c = p.channel
  · subst hc
    obtain ⟨u, hu⟩ := List.exists_mem_of_ne_nil _ hne
    refine ⟨?_, hm.served h hsp own hasleep (hm.chanAt hi) hmoved hne⟩
    rw [hm.closure]
    exact (h.served i _ (hm.chanAt hi) e d (List.ne_nil_of_mem (hm.sub hu))).1
  rw [hm.other c hc] at hne ⊢
  obtain ⟨hcl, hle⟩ := h.served i c (hm.chanAt hi) e d hne
  exact ⟨hcl, hle.trans (Finset.card_le_card (hsp.subset own fun hp => hc hp.1.symm))⟩

/-! ### Runs -/

/-- No thread is killed: no process exits. -/
def NoKill (_ : System) : Op → Prop
  | .call _ .exit => False
  | _ => True

/-- **One step** keeps the channels tended. -/
lemma step_tended (ho : Orderly L σ) (h : Tended σ) {op : Op} {d : Option Delivery}
    (hc : NoKill σ op) (hs : Step σ op d σ') : Tended σ' := by
  have hu := unshared_of_kinds ho.good.ledger.kinds
  have hhap := (exec_happens ho hs.enabled).of_ok hs.exec
  generalize hr : (d, σ') = res at hhap
  cases hhap with
  | calm hcalm =>
    cases hr
    exact h.calm hcalm
  | exit => exact hc.elim
  | @round _ t p k r hrun own hobj hch hth ha hround =>
    obtain ⟨-, rfl⟩ := Prod.mk.inj hr
    have hk : Tended { σ with kernel := k } :=
      h.calm (calm_of_steady (.of_alike hch hth ha) hu)
    have huk : Unshared k := fun a b c hca hcb =>
      hu a b c ((chanAt_of_alike ha).mp hca) ((chanAt_of_alike ha).mp hcb)
    have hawake : Awake k t := by
      unfold Awake
      rw [hth]
      exact .inr hrun
    have hasleep : ∀ c, ∀ u ∈ queued (k.channel c), u ≠ t ∧ ¬Awake k u := fun c u hu => by
      rw [hch] at hu
      have hb := (ho.good.ledger.queued.waits c u hu).blocked
      have hnot : ¬Awake k u := by
        unfold Awake
        rw [hth, hb]
        simp
      exact ⟨fun hut => hnot (hut ▸ hawake), hnot⟩
    have hout : ∀ c, t ∉ queued (k.channel c) := fun c hc => (hasleep c t hc).1 rfl
    cases hround with
    | failed hstuck hrel =>
      exact (hk.failed own hout hstuck).calm (calm_of_steady hrel huk)
    | asleep hopen hstuck hslept => exact hk.asleep own hout hopen hstuck hslept
    | @completed msg r k1 k' hmoved hwoke hrel =>
      have hm : Moved p r k k1 := moved_of_wakePeer hwoke
      have hsp : Spares t { σ with kernel := k }
          { kernel := k1, pending := update σ.pending t none } :=
        ⟨fun u _ hu => hm.awake u hu, fun _ hu => update_of_ne hu _ _⟩
      have hdone := hk.completed hm hsp own (fun c e d u hu => hasleep c u (mem_queued hu))
        ⟨_, (chanAt_of_alike ha).mpr hobj⟩ hmoved
      exact hdone.calm (calm_of_steady hrel (unshared_of_object huk hm.object))

lemma tended_of_reach (h : Reach Boot (Next NoKill) σ) : Orderly (fun _ => True) σ ∧ Tended σ := by
  refine Reach.invariant (I := fun σ => Orderly (fun _ => True) σ ∧ Tended σ) (fun σ hb => ?_)
    (fun σ σ' hσ ⟨op, d, hc, hs⟩ => ?_) h
  · have hnone : ∀ i c, ¬ChanAt σ.kernel i c := fun i c hi => by
      unfold ChanAt at hi
      rw [hb.kernel] at hi
      simp [Kernel.boot, KernelObjectSlot.empty] at hi
    exact ⟨orderly_boot hb, fun i c hi => absurd hi (hnone i c),
      fun i c hi => absurd hi (hnone i c), fun i c hi => absurd hi (hnone i c)⟩
  exact ⟨(exec_orderly hσ.1 hs.enabled (.inl fun _ => trivial)).of_ok hs.exec,
    step_tended hσ.1 hσ.2 hc hs⟩

lemma chanAt_of_queued (h : Ledger k) (ht : t ∈ queued (k.channel c)) :
    ChanAt k (k.threadIpc t).objectIndex c := by
  have hw := h.queued.waits c t ht
  exact ⟨h.tallied.occupied_of_ne (refCount_ne_of_pin h.tallied hw.pinned),
    h.kinds.pin t hw.pinned, hw.channel⟩

lemma open_of_closure (h : closure ch e = none) :
    ch.endpoint0.isClosed = false ∧ ch.endpoint1.isClosed = false := by
  unfold Channel.closure Channel.mine Channel.peer at h
  by_cases he : e = 0
  · cases h0 : ch.endpoint0.isClosed <;> cases h1 : ch.endpoint1.isClosed <;> simp_all
  · cases h0 : ch.endpoint0.isClosed <;> cases h1 : ch.endpoint1.isClosed <;> simp_all

/-- **No wake-up is lost.** In every state of a run in which no thread is killed: while a thread waits
for a message at an endpoint, there are no more messages in the ring toward it than woken receivers
of that endpoint that are still to run; while one waits to send, there are no more free cells in the
ring from it than woken senders; and nobody waits on a channel with a closed endpoint. -/
theorem no_lost_wakeup (h : Reach Boot (Next NoKill) σ) (c e : ℕ) (t : TSlot) :
    (t ∈ ((σ.kernel.channel c).mine e).waitersRx →
      (ring (σ.kernel.channel c) e .receive).count ≤ (woken σ c e .receive).card) ∧
    (t ∈ ((σ.kernel.channel c).mine e).waitersTx →
      4 - (ring (σ.kernel.channel c) e .send).count ≤ (woken σ c e .send).card) ∧
    ((σ.kernel.channel c).endpoint0.isClosed = true ∨
      (σ.kernel.channel c).endpoint1.isClosed = true → t ∉ queued (σ.kernel.channel c)) := by
  obtain ⟨ho, ht⟩ := tended_of_reach h
  have hserved : ∀ e d, t ∈ waiters ((σ.kernel.channel c).mine e) d →
      closure (σ.kernel.channel c) e = none ∧
        avail (ring (σ.kernel.channel c) e d) d ≤ (woken σ c e d).card := fun e d hmem =>
    ht.served _ c (chanAt_of_queued ho.good.ledger (mem_queued hmem)) e d (List.ne_nil_of_mem hmem)
  refine ⟨fun hmem => (hserved e .receive hmem).2, fun hmem => (hserved e .send hmem).2,
    fun hclosed hmem => ?_⟩
  have hopen : ∃ e, closure (σ.kernel.channel c) e = none := by
    simp only [queued, List.mem_append] at hmem
    rcases hmem with (hm | hm) | (hm | hm)
    · exact ⟨0, (hserved 0 .receive hm).1⟩
    · exact ⟨0, (hserved 0 .send hm).1⟩
    · exact ⟨1, (hserved 1 .receive hm).1⟩
    · exact ⟨1, (hserved 1 .send hm).1⟩
  obtain ⟨e, he⟩ := hopen
  obtain ⟨h0, h1⟩ := open_of_closure he
  rw [h0, h1] at hclosed
  simp at hclosed

/-- The machine at boot with one more thread of the second process. -/
def threeThreads : System :=
  { twoProcesses with
    kernel := { twoProcesses.kernel with
      thread := update twoProcesses.kernel.thread 3
        { occupied := true, processId := 2, priority := 1, state := .ready } } }

lemma boot_threeThreads : Boot threeThreads := by
  refine ⟨rfl, fun _ => rfl, ?_⟩
  decide

instance (σ : System) (op : Op) : Decidable (NoKill σ op) := by
  apply @Op.casesOn _ op <;> intros <;> unfold NoKill <;> split <;> infer_instance

/-- Two threads wait for a message, and one comes: the other goes on waiting, with a message in the
ring and one thread on its way to it. -/
theorem no_lost_wakeup_waiting : ∃ σ, Reach Boot (Next NoKill) σ ∧
    3 ∈ ((σ.kernel.channel 0).mine 1).waitersRx ∧
    (ring (σ.kernel.channel 0) 1 .receive).count = 1 ∧
    (ring (σ.kernel.channel 0) 1 .receive).count ≤ (woken σ 0 1 .receive).card := by
  obtain ⟨σ, hr, hw, hc⟩ : ∃ σ, Reach Boot (Next NoKill) σ ∧
      3 ∈ ((σ.kernel.channel 0).mine 1).waitersRx ∧
      (ring (σ.kernel.channel 0) 1 .receive).count = 1 :=
    exists_reach boot_threeThreads [.call 1 .channelCreate,
      .delegate (1, 1) 2 (HandleRights.read ||| CapRights.channelReceive),
      .schedule 2, .call 2 (.channelReceive (Handle.new 0 1) true),
      .schedule 3, .call 3 (.channelReceive (Handle.new 0 1) true),
      .call 1 (.channelSend (Handle.new 0 1) .empty true)] (by decide +kernel)
  exact ⟨σ, hr, hw, hc, (no_lost_wakeup hr 0 1 3).1 hw⟩

end ProjectZero.Ipc.Wakeups
