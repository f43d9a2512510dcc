import ProjectZero.Lib.Ring
import ProjectZero.Ipc.Rounds

/-! # Channels deliver in order

Along the life of a channel, the messages accepted in one direction are those received so far,
followed by the contents of the ring. The statement is about every run of the system: senders and
receivers on both endpoints block, wake up, and find a ring emptied or filled by others. -/

namespace ProjectZero.Ipc.Fifo

open Lib.Run Lib.Ring Lib.Update Tables Object Accounts Ipc.Channel Steps Endpoints
open Rings Rounds Task.Accounting

/-! ### Rings -/

/-- The messages in the ring, the oldest first. -/
def contents (r : ChannelRing) : List IpcMessage := window r.buffer r.head r.count

/-- The ring has no more messages than cells, and the tail is behind them. -/
structure Intact (r : ChannelRing) : Prop where
  count : r.count ≤ 4
  tail : r.tail = r.head + Fin.ofNat 4 r.count

lemma intact_empty : Intact .empty := ⟨by simp [ChannelRing.empty], rfl⟩

variable {r r' : ChannelRing}

lemma push_contents {msg : IpcMessage} (h : Intact r)
    (hp : r.push msg = some r') : Intact r' ∧ contents r' = contents r ++ [msg] := by
  unfold ChannelRing.push at hp
  split at hp
  · cases hp
  rename_i hfull
  cases hp
  have hc : r.count < 4 := by
    have hne : r.count ≠ 4 := by simpa [ChannelRing.isFull] using hfull
    have := h.count
    omega
  refine ⟨⟨hc, ?_⟩, ?_⟩
  · rw [h.tail, add_ofNat_succ, add_right_comm]
  rw [h.tail]
  exact window_push r.buffer r.head hc msg

lemma pop_contents {msg : IpcMessage} (h : Intact r)
    (hp : r.pop = some (msg, r')) : Intact r' ∧ contents r = msg :: contents r' := by
  unfold ChannelRing.pop at hp
  split at hp
  · cases hp
  rename_i hempty
  cases hp
  obtain ⟨n, hn⟩ : ∃ n, r.count = n + 1 :=
    Nat.exists_eq_succ_of_ne_zero (by simpa [ChannelRing.isEmpty] using hempty)
  have hcount := h.count
  refine ⟨⟨?_, ?_⟩, ?_⟩
  · show r.count - 1 ≤ 4
    omega
  · rw [h.tail, hn, add_ofNat_succ, Nat.add_sub_cancel]
  unfold contents
  rw [hn, Nat.add_sub_cancel]
  exact window_pop r.buffer r.head n

variable {msg : Option IpcMessage}

lemma transfer_send {m : IpcMessage} (h : Intact r) (ht : transfer r (.send m) = some (msg, r')) :
    Intact r' ∧ contents r' = contents r ++ [m] := by
  obtain ⟨r1, hr, he⟩ := Option.map_eq_some_iff.mp ht
  cases he
  exact push_contents h hr

lemma transfer_receive (h : Intact r) (ht : transfer r .receive = some (msg, r')) :
    Intact r' ∧ ∃ m, msg = some m ∧ contents r = m :: contents r' := by
  obtain ⟨⟨m, r1⟩, hr, he⟩ := Option.map_eq_some_iff.mp ht
  cases he
  obtain ⟨hi, hc⟩ := pop_contents h hr
  exact ⟨hi, m, rfl, hc⟩

/-! ### Accepted and received messages -/

/-- The message that the delivery put into the ring from the endpoint `e` of the object `i`. -/
def acceptedMsg (i : ObjIdx) (e : ℕ) (d : Delivery) : Option IpcMessage :=
  match d.call.action with
  | .send msg => if d.call.object = i ∧ SameEnd d.call.endpoint e then some msg else none
  | .receive => none

/-- The message that the delivery took out of that ring, at the other endpoint. -/
def receivedMsg (i : ObjIdx) (e : ℕ) (d : Delivery) : Option IpcMessage :=
  match d.call.action with
  | .send _ => none
  | .receive => if d.call.object = i ∧ ¬SameEnd d.call.endpoint e then d.msg else none

/-- The messages that successful sends put into the ring, in their order. -/
def accepted (i : ObjIdx) (e : ℕ) (ds : List Delivery) : List IpcMessage :=
  ds.filterMap (acceptedMsg i e)

/-- The messages that successful receives returned, in their order. -/
def received (i : ObjIdx) (e : ℕ) (ds : List Delivery) : List IpcMessage :=
  ds.filterMap (receivedMsg i e)

/-- The ring of the messages sent from the endpoint `e` of the object `i`. -/
def ringFrom (k : Kernel) (i : ObjIdx) (e : ℕ) : ChannelRing :=
  ring (k.channel (k.object i).poolIndex) e .send

/-- The object `i` is a channel. -/
def IsChannel (σ : System) (i : ObjIdx) : Prop :=
  (σ.kernel.object i).occupied ∧ (σ.kernel.object i).objType = .channel
  deriving Decidable

/-- The deliveries of a run from `σ₀` in which the channel `i` lives in every state. -/
inductive Life (i : ObjIdx) (σ₀ : System) : List Delivery → System → Prop
  | born (h : IsChannel σ₀ i) : Life i σ₀ [] σ₀
  | step {ds : List Delivery} {σ σ' : System} {op : Op} {d : Option Delivery}
      (h : Life i σ₀ ds σ) (hs : Step σ op d σ') (hl : IsChannel σ' i) :
      Life i σ₀ (ds ++ d.toList) σ'

/-! ### One step -/

variable {L : ObjIdx → Prop} {k k' k₁ : Kernel} {σ σ' σ₀ σ₁ : System} {i : ObjIdx} {e : ℕ}

lemma wakePeer_rings (k : Kernel) (c endpoint : ℕ) (d : Direction) :
    Ensures (fun k' => k'.object = k.object ∧ ∀ c', rings (k'.channel c') = rings (k.channel c'))
      (wakePeer k c endpoint d) := by
  unfold wakePeer
  simp only
  split
  · exact ⟨rfl, fun _ => rfl⟩
  unfold wakeThreadLocked
  split
  · exact ⟨rfl, update_keep rings (rings_setEndpoints ..)⟩
  · trivial

lemma sleep_rings (k : Kernel) (t : TSlot) (c endpoint : ℕ) (d : Direction) :
    Ensures (fun k' => k'.object = k.object ∧ ∀ c', rings (k'.channel c') = rings (k.channel c'))
      (sleep k t c endpoint d) := by
  unfold sleep prepareBlockLocked
  split
  · rw [ok_bind]
    exact ⟨rfl, update_keep rings (rings_setEndpoints ..)⟩
  · trivial

/-- The rings of the object `i` after a step with the delivery `d`. -/
def Passes (i : ObjIdx) (e : ℕ) (k : Kernel) (d : Option Delivery) (k' : Kernel) : Prop :=
  Intact (ringFrom k i e) → Intact (ringFrom k' i e) ∧
    (d.bind (receivedMsg i e)).toList ++ contents (ringFrom k' i e) =
      contents (ringFrom k i e) ++ (d.bind (acceptedMsg i e)).toList

variable {c : ℕ}

lemma passes_of_rings (h : ChanAt k i c) (h' : ChanAt k' i c)
    (hr : rings (k'.channel c) = rings (k.channel c)) : ringFrom k' i e = ringFrom k i e := by
  unfold ringFrom
  rw [h.2.2, h'.2.2]
  exact ring_of_rings hr e .send

variable {t : TSlot} {p : Pending}

/-- **A transfer** by the call `p`: the object of the call sees it, no other. -/
lemma completed_passes (hu : Unshared k) (hp : ChanAt k p.object p.channel)
    (ht : transfer (ring (k.channel p.channel) p.endpoint p.action.direction) p.action =
      some (msg, r)) (hi : ChanAt k i c) (hi' : ChanAt k' i c)
    (hself : c = p.channel → rings (k'.channel c) =
      rings (setRing (k.channel c) p.endpoint r p.action.direction))
    (hother : c ≠ p.channel → rings (k'.channel c) = rings (k.channel c)) :
    Passes i e k (some { thread := t, call := p, msg := msg }) k' := by
  intro hin
  by_cases hc : c = p.channel
  · subst hc
    have hip : p.object = i := hu _ _ _ hp hi
    have hk : ringFrom k i e = ring (k.channel p.channel) e .send := by
      unfold ringFrom
      rw [hi.2.2]
    have hk' : ringFrom k' i e =
        if SameEnd p.endpoint e ↔ .send = p.action.direction then r else ringFrom k i e := by
      rw [hk]
      unfold ringFrom
      rw [hi'.2.2, ring_of_rings (hself rfl), ring_setRing_eq]
    rw [hk']
    split
    · -- the ring from `e` is the one that changes
      rename_i hdir
      rw [← ring_shared _ hdir, ← hk] at ht
      cases ha : p.action with
      | send m =>
        have hsame : SameEnd p.endpoint e := hdir.mpr (by rw [ha]; rfl)
        rw [ha] at ht
        obtain ⟨hr, hcont⟩ := transfer_send hin ht
        exact ⟨hr, by simp [acceptedMsg, receivedMsg, ha, hip, hsame, hcont]⟩
      | receive =>
        have hsame : ¬SameEnd p.endpoint e := fun h => by
          have := hdir.mp h
          rw [ha] at this
          cases this
        rw [ha] at ht
        obtain ⟨hr, m, rfl, hm⟩ := transfer_receive hin ht
        exact ⟨hr, by simp [acceptedMsg, receivedMsg, ha, hip, hsame, hm]⟩
    rename_i hdir
    refine ⟨hin, ?_⟩
    cases ha : p.action with
    | send m =>
      have hsame : ¬SameEnd p.endpoint e := fun h => hdir (by simp [h, ha, Action.direction])
      simp [acceptedMsg, receivedMsg, ha, hsame]
    | receive =>
      have hsame : SameEnd p.endpoint e := by
        by_contra h
        exact hdir (by simp [h, ha, Action.direction])
      simp [acceptedMsg, receivedMsg, ha, hsame]
  have hne : p.object ≠ i := fun h => hc (by rw [← hi.2.2, ← hp.2.2, h])
  rw [passes_of_rings hi hi' (hother hc)]
  refine ⟨hin, ?_⟩
  cases ha : p.action <;> simp [acceptedMsg, receivedMsg, ha, hne]

lemma quiet_ring (h : Quiet k k') (hocc : (k.object i).occupied)
    (hi' : ChanAt k' i c) : ringFrom k' i e = ringFrom k i e := by
  rcases h.rings i c hi' with ⟨hi, hr⟩ | ⟨hfree, -⟩
  · exact passes_of_rings hi hi' hr
  rw [hocc] at hfree
  cases hfree

lemma Round.object {r : Progress × Kernel} (h : Round k t p r)
    (hi : ChanAt r.2 i c) : ChanAt k i c := by
  cases h with
  | failed _ hrel => exact hrel.object i c hi
  | completed _ hw hrel =>
    have h1 := hrel.object i c hi
    unfold ChanAt at h1 ⊢
    rw [((wakePeer_rings _ _ _ _).of_ok hw).1] at h1
    exact h1
  | asleep _ _ hs =>
    unfold ChanAt at hi ⊢
    rw [((sleep_rings k t _ _ _).of_ok hs).1] at hi
    exact hi

lemma Round.passes {r : Progress × Kernel} (h : Round k t p r)
    (hu : Unshared k) (hp : ChanAt k p.object p.channel) (hi' : ChanAt r.2 i c) :
    Passes i e k (delivery t r) r.2 ∧
      (delivery t r = none → ringFrom r.2 i e = ringFrom k i e) := by
  have hi := Round.object h hi'
  have hnone : ringFrom r.2 i e = ringFrom k i e → Passes i e k none r.2 := fun hr hin => by
    rw [hr]
    exact ⟨hin, by simp⟩
  cases h with
  | failed _ hrel =>
    have hr := passes_of_rings (e := e) hi hi' (Mute.rings_eq hrel.toMute hu hi')
    exact ⟨hnone hr, fun _ => hr⟩
  | asleep _ _ hs =>
    have hr := passes_of_rings (e := e) hi hi' (((sleep_rings k t _ _ _).of_ok hs).2 c)
    exact ⟨hnone hr, fun _ => hr⟩
  | completed ht hw hrel =>
    obtain ⟨ho, hrings⟩ := (wakePeer_rings _ _ _ _).of_ok hw
    have hlast := (Mute.rings_eq hrel.toMute (unshared_of_object hu ho) hi').trans (hrings c)
    refine ⟨completed_passes hu hp ht hi hi' (fun hc => ?_) fun hc => ?_, fun h => by cases h⟩
    · subst hc
      simpa [Kernel.setChannel] using hlast
    · simpa [Kernel.setChannel, hc] using hlast

lemma ringFrom_of_same (hc : k'.channel = k.channel) (ha : Alike k.object k'.object) :
    ringFrom k' i e = ringFrom k i e := by
  unfold ringFrom
  rw [hc, (ha i).2.2.2]

variable {d : Option Delivery} {op : Op}

lemma step_passes (h : Orderly L σ) (hs : Step σ op d σ')
    (hi : IsChannel σ i) (hi' : IsChannel σ' i) :
    Passes i e σ.kernel d σ'.kernel ∧
      (d = none → ringFrom σ'.kernel i e = ringFrom σ.kernel i e) := by
  have hu := unshared_of_kinds h.good.ledger.kinds
  have hc' : ChanAt σ'.kernel i (σ'.kernel.object i).poolIndex := ⟨hi'.1, hi'.2, rfl⟩
  have hquiet : ∀ {k'}, Quiet σ.kernel k' → ChanAt k' i (k'.object i).poolIndex →
      Passes i e σ.kernel none k' ∧
        ((none : Option Delivery) = none → ringFrom k' i e = ringFrom σ.kernel i e) :=
    fun hq hc => by
      have hr := quiet_ring (e := e) hq hi.1 hc
      exact ⟨fun hin => by rw [hr]; exact ⟨hin, by simp⟩, fun _ => hr⟩
  have hhap := (exec_happens h hs.enabled).of_ok hs.exec
  generalize hr : (d, σ') = r at hhap
  cases hhap with
  | calm hcalm =>
    cases hr
    exact hquiet hcalm.toQuiet hc'
  | exit hq =>
    cases hr
    exact hquiet hq hc'
  | @round _ t p k r _ _ hobj hch _ ha hround =>
    obtain ⟨rfl, rfl⟩ := Prod.mk.inj hr
    rw [kernel_after] at hc' ⊢
    have hsame : ringFrom k i e = ringFrom σ.kernel i e := ringFrom_of_same hch ha
    have huk : Unshared k := fun a b c hca hcb =>
      hu a b c ((chanAt_of_alike ha).mp hca) ((chanAt_of_alike ha).mp hcb)
    have hpass := Round.passes (e := e) hround huk ((chanAt_of_alike ha).mpr hobj) hc'
    unfold Passes at hpass ⊢
    rw [hsame] at hpass
    exact hpass

lemma step_born (h : Orderly L σ) (hs : Step σ op d σ')
    (hfree : (σ.kernel.object i).occupied = false) (hi' : IsChannel σ' i) :
    ringFrom σ'.kernel i e = .empty := by
  have hc' : ChanAt σ'.kernel i (σ'.kernel.object i).poolIndex := ⟨hi'.1, hi'.2, rfl⟩
  have hquiet : ∀ {k'}, Quiet σ.kernel k' → ChanAt k' i (k'.object i).poolIndex →
      ringFrom k' i e = .empty := fun hq hc => by
    rcases hq.rings i _ hc with ⟨hold, -⟩ | ⟨-, hr⟩
    · rw [hold.1] at hfree
      cases hfree
    refine (ring_of_rings hr e .send).trans ?_
    simp [ring, Channel.empty]
  have hhap := (exec_happens h hs.enabled).of_ok hs.exec
  generalize hr : (d, σ') = r at hhap
  cases hhap with
  | calm hcalm =>
    cases hr
    exact hquiet hcalm.toQuiet hc'
  | exit hq =>
    cases hr
    exact hquiet hq hc'
  | @round _ t p k r _ _ _ _ _ ha hround =>
    obtain ⟨rfl, rfl⟩ := Prod.mk.inj hr
    rw [kernel_after] at hc'
    have hold := (chanAt_of_alike ha).mp (Round.object hround hc')
    rw [hold.1] at hfree
    cases hfree

/-! ### Whole lives -/

/-- The books of the channel `i` in the direction away from `e`. -/
structure Books (i : ObjIdx) (e : ℕ) (ds : List Delivery) (σ : System) : Prop where
  orderly : Orderly (fun _ => True) σ
  lives : IsChannel σ i
  intact : Intact (ringFrom σ.kernel i e)
  balance : accepted i e ds = received i e ds ++ contents (ringFrom σ.kernel i e)

lemma filterMap_toList {α β : Type} (f : α → Option β) (a : Option α) :
    a.toList.filterMap f = (a.bind f).toList := by
  cases a with
  | none => rfl
  | some a => cases h : f a <;> simp [h]

variable {ds : List Delivery}

lemma Books.step (h : Books i e ds σ)
    (hs : Step σ op d σ') (hl : IsChannel σ' i) : Books i e (ds ++ d.toList) σ' := by
  have ho := (exec_orderly h.orderly hs.enabled (.inl fun _ => trivial)).of_ok hs.exec
  obtain ⟨hin, hbal⟩ := (step_passes (e := e) h.orderly hs h.lives hl).1 h.intact
  refine ⟨ho, hl, hin, ?_⟩
  have hacc : accepted i e (ds ++ d.toList) =
      accepted i e ds ++ (d.bind (acceptedMsg i e)).toList := by
    unfold accepted
    rw [List.filterMap_append, filterMap_toList]
  have hrec : received i e (ds ++ d.toList) =
      received i e ds ++ (d.bind (receivedMsg i e)).toList := by
    unfold received
    rw [List.filterMap_append, filterMap_toList]
  rw [hacc, hrec, h.balance, List.append_assoc, List.append_assoc, hbal]

lemma books_of_life
    (hr : Reach Boot (Next fun _ _ => True) σ₀) (hfree : (σ₀.kernel.object i).occupied = false)
    (hbirth : Step σ₀ op d σ₁) (hlife : Life i σ₁ ds σ) : Books i e ds σ := by
  have ho := orderly_of_reach (L := fun _ => True) (fun _ _ _ => .inl fun _ => trivial) hr
  induction hlife with
  | born hl =>
    have hring := step_born (e := e) ho hbirth hfree hl
    refine ⟨(exec_orderly ho hbirth.enabled (.inl fun _ => trivial)).of_ok hbirth.exec, hl, ?_, ?_⟩
    · rw [hring]
      exact intact_empty
    rw [hring]
    rfl
  | step _ hs hl ih => exact ih.step hs hl

/-- **Channels are first in, first out.** In any run, from the creation of the channel `i` and as
long as it lives: the messages received from the endpoint `e` are the first of those accepted from it,
the ring holds the others, of which there are never more than its capacity; and a step that delivers
nothing, such as a send or receive with an error, leaves the ring as it is. -/
theorem channel_fifo
    (hr : Reach Boot (Next fun _ _ => True) σ₀) (hfree : (σ₀.kernel.object i).occupied = false)
    (hbirth : Step σ₀ op d σ₁) (hlife : Life i σ₁ ds σ) (e : ℕ) :
    received i e ds <+: accepted i e ds ∧
    accepted i e ds = received i e ds ++ contents (ringFrom σ.kernel i e) ∧
    (ringFrom σ.kernel i e).count = (contents (ringFrom σ.kernel i e)).length ∧
    (ringFrom σ.kernel i e).count ≤ 4 ∧
    ∀ op' σ', Step σ op' none σ' → IsChannel σ' i →
      ringFrom σ'.kernel i e = ringFrom σ.kernel i e := by
  have hb := books_of_life (e := e) hr hfree hbirth hlife
  refine ⟨?_, hb.balance, by simp [contents], hb.intact.count, fun op' σ' hs hl => ?_⟩
  · rw [hb.balance]
    exact List.prefix_append _ _
  · exact (step_passes hb.orderly hs hb.lives hl).2 rfl

/-! ### A life that can be executed -/

/-- One more operation of a life. -/
def liveOn (i : ObjIdx) (r : List Delivery × System) (op : Op) :
    Except Halt (List Delivery × System) :=
  if op.enabled r.2 = true then do
    let (d, σ') ← op.exec r.2
    if IsChannel σ' i then .ok (r.1 ++ d.toList, σ') else .error .panic
  else .error .panic

lemma life_foldlM : ∀ {ops : List Op} {r r' : List Delivery × System}, Life i σ₁ r.1 r.2 →
    ops.foldlM (liveOn i) r = .ok r' → Life i σ₁ r'.1 r'.2
  | [], r, r', hl, h => by
    cases h
    exact hl
  | op :: ops, r, r', hl, h => by
    rw [List.foldlM_cons] at h
    obtain ⟨r1, h1, h2⟩ := bind_eq_ok h
    unfold liveOn at h1
    split at h1
    next hen =>
      obtain ⟨⟨d, σ'⟩, hex, h1⟩ := bind_eq_ok h1
      simp only at h1
      split at h1
      next hc =>
        cases h1
        exact life_foldlM (.step hl ⟨hen, hex⟩ hc) h2
      · cases h1
    · cases h1

/-- Two messages are sent and one of them received; a receive at the wrong end finds nothing. -/
theorem channel_fifo_received : ∃ σ₀ op d σ₁ ds σ, Reach Boot (Next fun _ _ => True) σ₀ ∧
    (σ₀.kernel.object 0).occupied = false ∧ Step σ₀ op d σ₁ ∧ Life 0 σ₁ ds σ ∧
    accepted 0 0 ds = [{ IpcMessage.empty with tag := 1 }, { IpcMessage.empty with tag := 2 }] ∧
    received 0 0 ds = [{ IpcMessage.empty with tag := 1 }] ∧
    received 0 0 ds <+: accepted 0 0 ds := by
  obtain ⟨r, hex, hl, hrun⟩ : ∃ r, (Op.call 1 .channelCreate).exec twoProcesses = .ok r ∧
      IsChannel r.2 0 ∧
      (([.call 1 (.channelSend (Handle.new 0 1) { IpcMessage.empty with tag := 1 } false),
        .call 1 (.channelSend (Handle.new 0 1) { IpcMessage.empty with tag := 2 } true),
        .call 1 (.channelReceive (Handle.new 0 1) false),
        .call 1 (.channelReceive (Handle.new 1 1) true)].foldlM (liveOn 0)
          ([], r.2)).toOption.any fun r' => decide (
        accepted 0 0 r'.1 =
          [{ IpcMessage.empty with tag := 1 }, { IpcMessage.empty with tag := 2 }] ∧
        received 0 0 r'.1 = [{ IpcMessage.empty with tag := 1 }])) = true :=
    exists_ok (by decide +kernel)
  obtain ⟨r', hr', hacc, hrec⟩ := exists_ok hrun
  have hstart : Reach Boot (Next fun _ _ => True) twoProcesses := .start boot_twoProcesses
  have hstep : Step twoProcesses (.call 1 .channelCreate) r.1 r.2 := ⟨rfl, hex⟩
  have hlife := life_foldlM (.born hl) hr'
  exact ⟨_, _, _, _, _, _, hstart, rfl, hstep, hlife, hacc, hrec,
    (channel_fifo hstart rfl hstep hlife 0).1⟩

end ProjectZero.Ipc.Fifo
