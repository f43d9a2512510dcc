import ProjectZero.Net.Delivery
import ProjectZero.Net.Ownership

/-! # Receives that wait

A receive that finds no packet gives the lock back, parks on the wait queue of its slot, and looks at the
same slot again when it is awake. What it knows about its socket is the slot. Beside the tables, the
socket that each receive began on is kept, and for each packet the socket it was queued to. -/

namespace ProjectZero.Net.Receive

open Lib.Layout Lib.Run Lib.Update ProjectZero.Tables Net.Tables
open Socket Filing Effects Net.Delivery Ownership

/-! ### The system -/

/-- A receive that has found no packet: its slot, the socket it began on, and whether it has parked. -/
structure Call where
  slot : SockIdx
  socketId : ℕ
  outLen : ℕ
  parked : Bool
  deriving DecidableEq

/-- The machine, the receives that wait, and for each buffer the socket it was last queued to. -/
structure World where
  host : Host
  call : TSlot → Option Call
  tag : BufIdx → ℕ

inductive Event
  | begin (t : TSlot) (slot : SockIdx) (outLen : ℕ) (nonBlocking : Bool)
  | park (t : TSlot)
  | resume (t : TSlot)
  | other (op : Op)

/-- The receive of the thread after a round. -/
def afterRound (w : World) (t : TSlot) (c : Call) : Answer (List Byte) × Stack → World
  | (.parked, n) => { w with
      host := { w.host with net := n }, call := update w.call t (some c) }
  | (.returned _, n) => { w with
      host := { w.host with net := n }, call := update w.call t none }

/-- A buffer that a send has taken is tagged with the socket it is delivered to. -/
def tagAfter (n n' : Stack) (tag : BufIdx → ℕ) : Op → BufIdx → ℕ
  | .send slot _ _, b =>
    if hs : slot < 16 then
      match localTarget (n.socket ⟨slot, hs⟩) n with
      | some i =>
        if (n.buf b).state = .free ∧ (n'.buf b).state ≠ .free then (n.socket i).socketId else tag b
      | none => tag b
    else tag b
  | _, b => tag b

def Plainly : Op → Prop
  | .enqueue _ _ _ => False
  | .dequeue _ _ => False
  | .recv _ _ _ _ => False
  | _ => True

instance (op : Op) : Decidable (Plainly op) := by
  apply @Op.casesOn _ op <;> intros <;> unfold Plainly <;> infer_instance

/-- The event happens; one that cannot happen changes nothing. A thread waits for one receive at a time,
and goes on when it is awake. -/
def World.step (w : World) : Event → Except Halt World
  | .begin t slot outLen nb =>
    if w.call t = none then do
      let r ← recvRound slot outLen nb w.host.net
      .ok (afterRound w t ⟨slot, (w.host.net.socket slot).socketId, outLen, false⟩ r)
    else .ok w
  | .park t =>
    match w.call t with
    | none => .ok w
    | some c =>
      if c.parked then .ok w
      else .ok { w with
        host := { w.host with net := w.host.net.park c.slot t }
        call := update w.call t (some { c with parked := true }) }
  | .resume t =>
    match w.call t with
    | none => .ok w
    | some c =>
      if c.parked ∧ w.host.net.blocked t = false then do
        let r ← recvRound c.slot c.outLen false w.host.net
        .ok (afterRound w t { c with parked := false } r)
      else .ok w
  | .other op =>
    if Plainly op then do
      let h ← op.run w.host
      .ok { w with host := h, tag := tagAfter w.host.net h.net w.tag op }
    else .ok w

def Start (w : World) : Prop := w.host.net = .boot ∧ w.call = fun _ => none

def Next (w w' : World) : Prop := ∃ e, w.step e = .ok w'

/-- The slot that a new socket would get is not one that a receive waits for. -/
def Careful (w : World) : Event → Prop
  | .other (.alloc _ _ _) => ∀ r, freeSlot w.host.net = some r →
      ∀ t c, w.call t = some c → c.slot ≠ r
  | _ => True

def CarefulNext (w w' : World) : Prop := ∃ e, Careful w e ∧ w.step e = .ok w'

/-! ### The property -/

/-- The bytes are those of a packet that was queued to the socket `id`, or there was no packet. -/
def Own (w : World) (slot : SockIdx) (id outLen : ℕ) (bytes : List Byte) : Prop :=
  (∃ b, (w.host.net.socket slot).rxQueue.head = some b ∧ w.tag b = id ∧
    bytes = (strip (w.host.net.socket slot) (w.host.net.buf b).data).take outLen) ∨
  ((w.host.net.socket slot).rxQueue.count = 0 ∧ bytes = [])

/-- The socket of the call is still in its slot. -/
def Open (w : World) (c : Call) : Prop :=
  (w.host.net.socket c.slot).occupied ∧ (w.host.net.socket c.slot).socketId = c.socketId

/-- The answer is as it should be: own data, and an error if the socket is closed. -/
def Proper (w : World) (c : Call) (a : Answer (List Byte)) : Prop :=
  (∀ bytes, a = .returned (.ok bytes) → Own w c.slot c.socketId c.outLen bytes) ∧
  (¬Open w c → ∃ e, a = .returned (.error e))

/-- Another socket has the slot, and a receive on it is not refused. -/
def Stolen (w : World) (c : Call) : Prop :=
  (w.host.net.socket c.slot).occupied ∧
    (w.host.net.socket c.slot).socketId ≠ c.socketId ∧ (w.host.net.socket c.slot).error = 0 ∧
    ¬((w.host.net.socket c.slot).rxQueue.count = 0 ∧ (w.host.net.socket c.slot).state = .closed)

/-! ### Tags -/

variable {n n' : Stack} {h h' : Host} {nodes : QueueId → List BufIdx} {s : SockIdx} {tag : BufIdx → ℕ}

/-- Every packet is in the queue of the socket it was queued to. -/
def Tagged (n : Stack) (tag : BufIdx → ℕ) : Prop :=
  ∃ nodes, Held n nodes ∧
    ∀ r, ∀ b ∈ nodes (.inl r), tag b = (n.socket r).socketId

lemma tagged_boot (tag : BufIdx → ℕ) : Tagged .boot tag :=
  ⟨fun _ => [], held_boot, fun _ _ hb => by cases hb⟩

lemma Tagged.still (ht : Tagged n tag) (h : Still n n') : Tagged n' tag := by
  obtain ⟨nodes, hh, htag⟩ := ht
  refine ⟨nodes, (hh.still h).1, fun r b hb => ?_⟩
  rw [h.socketId r]
  exact htag r b hb

lemma Tagged.alloc (ht : Tagged h.net tag) {sockType : SocketType} {protocol pid : ℕ}
    {res : Except SyscallError (SockIdx × ℕ)}
    (hrun : allocSocket sockType protocol pid h = .ok (res, h')) : Tagged h'.net tag := by
  obtain ⟨nodes, hh, htag⟩ := ht
  refine ⟨nodes, (hh.alloc hrun).1, fun r b hb => ?_⟩
  obtain ⟨-, ⟨hsock, -⟩ | ⟨s, sock, -, hocc, hsock, -, -⟩⟩ := allocSocket_cases hrun
  · rw [hsock]
    exact htag r b hb
  have hrs : r ≠ s := by
    rintro rfl
    rw [hh.nil hocc] at hb
    cases hb
  rw [hsock, update_of_ne hrs]
  exact htag r b hb

lemma Tagged.release (ht : Tagged h.net tag) (hr : releaseSocket h s = .ok h') :
    Tagged h'.net tag := by
  obtain ⟨nodes, hh, htag⟩ := ht
  have hd := hh.release hr
  refine ⟨_, (hh.drained hd).1, fun r => ?_⟩
  rw [hd.socket, Sum.update_inl_apply_inl]
  refine update_all₂ (P := fun _ l (x : SocketSlot) => ∀ b ∈ l, tag b = x.socketId)
    (fun b hb => ?_) (fun r _ => htag r) r
  cases hb

variable {outLen : ℕ} {nb : Bool} {a : Answer (List Byte)}

lemma Tagged.recvRound (ht : Tagged n tag)
    (hr : recvRound s outLen nb n = .ok (a, n')) : Tagged n' tag := by
  obtain ⟨nodes, hh, htag⟩ := ht
  rcases recvRound_cases hr with ⟨rfl, -⟩ | ⟨b, hrem, hcar, hocc, -⟩
  · exact ⟨nodes, hh, htag⟩
  obtain ⟨l, hnodes, hh', -, -⟩ := hh.removed hrem hcar hocc
  refine ⟨_, hh', fun r => ?_⟩
  rw [hcar.socket r, Sum.update_inl_apply_inl]
  refine update_all (P := fun r l => ∀ c ∈ l, tag c = (n.socket r).socketId) (fun c hc => ?_)
    (fun r _ => htag r) r
  refine htag s c ?_
  rw [hnodes]
  exact List.mem_cons_of_mem b hc

lemma Tagged.send (ht : Tagged n tag) {slot : ℕ} {payload : List Byte}
    {res : Except SyscallError ℕ} (hr : sendSocket slot payload nb n = .ok (res, n')) :
    Tagged n' (tagAfter n n' tag (.send slot payload nb)) := by
  obtain ⟨nodes, hh, htag⟩ := ht
  -- a buffer that was in a queue keeps its tag
  have hkeep : ∀ q, ∀ b ∈ nodes q, tagAfter n n' tag (.send slot payload nb) b = tag b := by
    intro q b hb
    have hlive : (n.buf b).state ≠ .free := hh.live q b hb
    unfold tagAfter
    dsimp only
    split
    · split
      · exact if_neg fun hc => hlive hc.1
      · rfl
    · rfl
  obtain ⟨hcar, hsent⟩ := hh.sent hr
  have hstay : Stays n n' nodes → Tagged n' (tagAfter n n' tag (.send slot payload nb)) := by
    rintro ⟨nodes', hh', hn, -, -⟩
    refine ⟨nodes', hh', fun r b hb => ?_⟩
    rw [hn r] at hb
    rw [hkeep _ b hb, hcar.socket r]
    exact htag r b hb
  rcases hsent with ⟨-, hst⟩ | ⟨hs, -, -, ⟨-, hst⟩ | ⟨i, b, target, hocc, put⟩⟩
  · exact hstay hst
  · exact hstay hst
  refine ⟨_, (hh.put put hcar (by rintro t ⟨⟩; exact hocc)).1, fun r => ?_⟩
  rw [hcar.socket r, Sum.update_inl_apply_inl]
  refine update_all (P := fun r l => ∀ c ∈ l,
    tagAfter n n' tag (.send slot payload nb) c = (n.socket r).socketId) (fun c hc => ?_)
    (fun r _ c hc => (hkeep _ c hc).trans (htag r c hc)) r
  rcases List.mem_append.mp hc with hc | hc
  · exact (hkeep _ c hc).trans (htag i c hc)
  rw [List.mem_singleton] at hc
  subst hc
  unfold tagAfter
  dsimp only
  rw [dif_pos hs, target]
  exact if_pos ⟨not_not.mp put.free, put.live⟩

lemma Tagged.teardown (ht : Tagged h.net tag) {pid : ℕ}
    (hr : cleanupProcessSockets pid h = .ok h') : Tagged h'.net tag := by
  obtain ⟨h1, ht1, hstill, -⟩ := cleanupProcessSockets_rule (P := fun g => Tagged g.net tag)
    (fun hg hrel => hg.release hrel) ht hr
  exact ht1.still hstill

lemma Tagged.run (ht : Tagged h.net tag) {op : Op} (hop : Plainly op) (hr : op.run h = .ok h') :
    Tagged h'.net (tagAfter h.net h'.net tag op) := by
  cases op with
  | alloc sockType protocol pid =>
    obtain ⟨⟨res, h1⟩, halloc, hr⟩ := bind_eq_ok hr
    cases hr
    exact ht.alloc halloc
  | bind slot ip port config => exact ht.still (still_bind hr)
  | listen slot backlog => exact ht.still (still_listen hr)
  | connect t slot ip port nb =>
    rcases connect_run hr with hstill | ⟨i, hocc, -, hcount⟩
    · exact ht.still hstill
    obtain ⟨nodes, hh, htag⟩ := ht
    refine ⟨nodes, (hh.counted hcount hocc).1, fun r b hb => ?_⟩
    rw [hcount.socketId r]
    exact htag r b hb
  | resumeConnect t s => exact ht.still (still_resumeConnect hr)
  | send slot payload nb =>
    obtain ⟨res, hsend⟩ := onNet_ok hr
    exact ht.send hsend
  | recv t slot outLen nb => exact hop.elim
  | close slot =>
    obtain ⟨⟨res, h1⟩, hclose, hr⟩ := bind_eq_ok hr
    cases hr
    rcases freeSocket_cases hclose with rfl | ⟨s, hrel⟩
    · exact ht
    · exact ht.release hrel
  | enqueue | dequeue => exact hop.elim
  | teardown pid => exact ht.teardown hr

variable {w w' : World}

/-- What an event can do: nothing, a round of a receive, a park, or another operation. -/
inductive Happens (w : World) : Event → World → Prop
  | stays (e : Event) : Happens w e w
  | round {e : Event} {t : TSlot} {c : Call} {nb : Bool} {r : Answer (List Byte) × Stack}
      (hround : recvRound c.slot c.outLen nb w.host.net = .ok r)
      (hc : (w.host.net.socket c.slot).socketId = c.socketId ∨
        ∃ p, w.call t = some { c with parked := p }) : Happens w e (afterRound w t c r)
  | park {t : TSlot} {c : Call} (hc : w.call t = some c) : Happens w (.park t) { w with
      host := { w.host with net := w.host.net.park c.slot t }
      call := update w.call t (some { c with parked := true }) }
  | other {op : Op} {h : Host} (hop : Plainly op) (hrun : op.run w.host = .ok h) :
      Happens w (.other op) { w with host := h, tag := tagAfter w.host.net h.net w.tag op }

lemma happens_of_step {e : Event} (hr : w.step e = .ok w') : Happens w e w' := by
  unfold World.step at hr
  split at hr
  · split at hr
    · obtain ⟨r, hround, hr⟩ := bind_eq_ok hr
      cases hr
      exact .round (c := ⟨_, _, _, false⟩) hround (.inl rfl)
    cases hr
    exact .stays _
  · split at hr
    · cases hr
      exact .stays _
    rename_i hc
    split at hr <;> cases hr
    · exact .stays _
    · exact .park hc
  · split at hr
    · cases hr
      exact .stays _
    rename_i c hc
    split at hr
    · obtain ⟨r, hround, hr⟩ := bind_eq_ok hr
      cases hr
      exact .round (c := { c with parked := false }) hround (.inr ⟨_, hc⟩)
    cases hr
    exact .stays _
  · split at hr
    next hop =>
      obtain ⟨h, hrun, hr⟩ := bind_eq_ok hr
      cases hr
      exact .other hop hrun
    cases hr
    exact .stays _

lemma tagged_of_step (ht : Tagged w.host.net w.tag) {e : Event}
    (hr : w.step e = .ok w') : Tagged w'.host.net w'.tag := by
  cases happens_of_step hr with
  | stays => exact ht
  | @round _ t c _ r hround =>
    obtain ⟨a, n⟩ := r
    have hn := ht.recvRound hround
    cases a <;> exact hn
  | @park t => exact ht.still (still_park t)
  | other hop hrun => exact ht.run hop hrun

lemma tagged_of_reach (hr : Reach Start Next w) : Tagged w.host.net w.tag := by
  refine hr.invariant (I := fun w => Tagged w.host.net w.tag) (fun v hv => ?_) ?_
  · rw [hv.1]
    exact tagged_boot v.tag
  rintro v v' hv ⟨e, hstep⟩
  exact tagged_of_step hv hstep

/-! ### Rounds -/

lemma own_of_recvRound (ht : Tagged w.host.net w.tag) {slot : SockIdx} {bytes : List Byte}
    (hr : recvRound slot outLen nb w.host.net = .ok (.returned (.ok bytes), n')) :
    Own w slot (w.host.net.socket slot).socketId outLen bytes := by
  obtain ⟨nodes, hh, htag⟩ := ht
  rcases recvRound_cases hr with ⟨-, hempty⟩ | ⟨b, hrem, hcar, hocc, -, hdata⟩
  · obtain ⟨hbytes, hcount⟩ := hempty bytes rfl
    exact .inr ⟨hcount, hbytes⟩
  obtain ⟨l, hnodes, -, -, -⟩ := hh.removed hrem hcar hocc
  have hmem : b ∈ nodes (.inl slot) := by
    rw [hnodes]
    exact List.mem_cons_self
  have ha := hdata (hh.live _ b hmem)
  refine .inl ⟨b, hrem.head, htag slot b hmem, ?_⟩
  cases ha
  rfl

/-- A blocking round on a socket is refused exactly if the socket has failed, or is closed and has no
packet. -/
lemma recvRound_refused {slot : SockIdx} (hr : recvRound slot outLen false n = .ok (a, n')) :
    (∃ e, a = .returned (.error e)) ↔ ¬((n.socket slot).occupied ∧ (n.socket slot).error = 0 ∧
      ¬((n.socket slot).rxQueue.count = 0 ∧ (n.socket slot).state = .closed)) := by
  obtain ⟨-, hr⟩ := locked_eq_ok hr
  dsimp only at hr
  split at hr
  next hocc =>
    cases hr
    refine ⟨fun _ hc => ?_, fun _ => ⟨_, rfl⟩⟩
    rw [hocc] at hc
    cases hc.1
  split at hr
  next herr =>
    cases hr
    exact ⟨fun _ hc => herr hc.2.1, fun _ => ⟨_, rfl⟩⟩
  rename_i hocc herr
  have hocc' : (n.socket slot).occupied = true := by simpa using hocc
  have herr' : (n.socket slot).error = 0 := not_not.mp herr
  split at hr
  · unfold takePacket at hr
    dsimp only at hr
    split at hr
    · cases hr
    cases hr
    refine ⟨fun ⟨e, he⟩ => ?_, fun hc => absurd ⟨hocc', herr', fun hz => ?_⟩ hc⟩
    · cases he
    · omega
  split at hr
  next hpeer =>
    cases hr
    refine ⟨fun ⟨e, he⟩ => ?_, fun hc => absurd ⟨hocc', herr', fun hz => ?_⟩ hc⟩
    · cases he
    rw [hpeer] at hz
    cases hz.2
  split at hr
  next hclosed =>
    cases hr
    exact ⟨fun _ hc => hc.2.2 ⟨by omega, hclosed⟩, fun _ => ⟨_, rfl⟩⟩
  rename_i hclosed
  cases hr
  refine ⟨fun ⟨e, he⟩ => ?_, fun hc => absurd ⟨hocc', herr', fun hz => hclosed hz.2⟩ hc⟩
  cases he

/-- **The answer to a receive that goes on** is as it should be exactly if the slot is not stolen. -/
lemma proper_iff (ht : Tagged w.host.net w.tag) {c : Call}
    (hr : recvRound c.slot c.outLen false w.host.net = .ok (a, n')) :
    Proper w c a ↔ ¬Stolen w c := by
  have hrefused := recvRound_refused hr
  have hown : ∀ bytes, a = .returned (.ok bytes) →
      Own w c.slot (w.host.net.socket c.slot).socketId c.outLen bytes := by
    intro bytes ha
    subst ha
    exact own_of_recvRound ht hr
  constructor
  · rintro ⟨-, hclosed⟩ ⟨hocc, hid, herr, hbusy⟩
    exact hrefused.mp (hclosed fun ho => hid ho.2) ⟨hocc, herr, hbusy⟩
  intro hst
  by_cases hopen : Open w c
  · refine ⟨fun bytes ha => ?_, fun hc => absurd hopen hc⟩
    rw [← hopen.2]
    exact hown bytes ha
  have herror : ∃ e, a = .returned (.error e) := by
    refine hrefused.mpr fun hc => ?_
    refine hst ⟨hc.1, fun hid => hopen ⟨hc.1, hid⟩, hc.2⟩
  obtain ⟨e, rfl⟩ := herror
  exact ⟨nofun, fun _ => ⟨e, rfl⟩⟩

/-! ### Careful runs -/

lemma keeps_of_run (ht : Tagged h.net tag) {op : Op} (hop : Plainly op) (hr : op.run h = .ok h')
    (halloc : ∀ sockType protocol pid, op ≠ .alloc sockType protocol pid) : Keeps h.net h'.net := by
  cases op with
  | alloc sockType protocol pid => exact absurd rfl (halloc sockType protocol pid)
  | bind slot ip port config => exact .of_still (still_bind hr)
  | listen slot backlog => exact .of_still (still_listen hr)
  | connect t slot ip port nb =>
    rcases connect_run hr with hstill | ⟨i, -, -, hcount⟩
    · exact .of_still hstill
    · exact .of_same hcount.occupied hcount.socketId
  | resumeConnect t s => exact .of_still (still_resumeConnect hr)
  | send slot payload nb =>
    obtain ⟨res, hsend⟩ := onNet_ok hr
    rcases sendSocket_cases hsend with ⟨hn, -, -⟩ | ⟨-, -, -, -, hcar, -⟩
    · rw [hn]
      exact .refl _
    · exact .of_carried hcar
  | recv t slot outLen nb => exact hop.elim
  | close slot =>
    obtain ⟨⟨res, h1⟩, hclose, hr⟩ := bind_eq_ok hr
    cases hr
    rcases freeSocket_cases hclose with rfl | ⟨s, hrel⟩
    · exact .refl _
    obtain ⟨nodes, hh, -⟩ := ht
    exact .of_drained (hh.release hrel)
  | enqueue | dequeue => exact hop.elim
  | teardown pid =>
    have hstep : ∀ {g g' s}, Tagged g.net tag ∧ Keeps h.net g.net → releaseSocket g s = .ok g' →
        Tagged g'.net tag ∧ Keeps h.net g'.net := by
      rintro g g' s ⟨hg, hk⟩ hrel
      obtain ⟨nodes, hh, -⟩ := id hg
      exact ⟨hg.release hrel, hk.trans (.of_drained (hh.release hrel))⟩
    obtain ⟨h1, ⟨-, hk⟩, hstill, -⟩ := cleanupProcessSockets_rule hstep ⟨ht, .refl _⟩ hr
    exact hk.trans (.of_still hstill)

/-- No socket but the one a receive began on is in its slot. -/
def Undisturbed (w : World) : Prop :=
  ∀ t c, w.call t = some c → (w.host.net.socket c.slot).occupied →
    (w.host.net.socket c.slot).socketId = c.socketId

lemma undisturbed_of_keeps (hk : Keeps w.host.net w'.host.net)
    (hcall : ∀ t c, w'.call t = some c → (w.host.net.socket c.slot).occupied →
      (w.host.net.socket c.slot).socketId = c.socketId) : Undisturbed w' := by
  intro t c hc hocc
  obtain ⟨hocc0, hid⟩ := hk c.slot hocc
  rw [hid]
  exact hcall t c hc hocc0

lemma Undisturbed.afterRound (hu : Undisturbed w) {t : TSlot} {c : Call}
    {r : Answer (List Byte) × Stack} (hr : recvRound c.slot c.outLen nb w.host.net = .ok r)
    (hc : (w.host.net.socket c.slot).occupied → (w.host.net.socket c.slot).socketId = c.socketId) :
    Undisturbed (afterRound w t c r) := by
  obtain ⟨a, n⟩ := r
  have hk : Keeps w.host.net n := by
    rcases recvRound_cases hr with ⟨hn, -⟩ | ⟨b, -, hcar, -, -⟩
    · rw [hn]
      exact .refl _
    · exact .of_carried hcar
  have hcall : ∀ {o : Option Call}, (∀ c', o = some c' → c' = c) →
      ∀ t' c', update w.call t o t' = some c' → (w.host.net.socket c'.slot).occupied →
        (w.host.net.socket c'.slot).socketId = c'.socketId := by
    intro o ho t' c' hc' hocc
    by_cases ht : t' = t
    · subst ht
      rw [update_self] at hc'
      rw [ho c' hc'] at hocc ⊢
      exact hc hocc
    rw [update_of_ne ht] at hc'
    exact hu t' c' hc' hocc
  cases a with
  | parked => exact undisturbed_of_keeps hk (hcall fun c' he => (Option.some.inj he).symm)
  | returned r => exact undisturbed_of_keeps hk (hcall nofun)

lemma undisturbed_of_step (ht : Tagged w.host.net w.tag) (hu : Undisturbed w)
    {e : Event} (hcare : Careful w e) (hr : w.step e = .ok w') : Undisturbed w' := by
  cases happens_of_step hr with
  | stays => exact hu
  | @round _ t c _ r hround hc =>
    refine hu.afterRound hround fun hocc => ?_
    rcases hc with hid | ⟨p, hc⟩
    · exact hid
    · exact hu t { c with parked := p } hc hocc
  | @park t c hc =>
    refine undisturbed_of_keeps (.of_still (still_park t)) fun t' c' hc' hocc => ?_
    dsimp only at hc'
    by_cases htt : t' = t
    · subst htt
      rw [update_self] at hc'
      cases hc'
      exact hu t' c hc hocc
    rw [update_of_ne htt] at hc'
    exact hu t' c' hc' hocc
  | @other op h' hop hrun =>
    by_cases halloc : ∃ sockType protocol pid, op = .alloc sockType protocol pid
    · obtain ⟨sockType, protocol, pid, rfl⟩ := halloc
      obtain ⟨⟨res, h1⟩, halloc, hrun⟩ := bind_eq_ok hrun
      cases hrun
      obtain ⟨-, ⟨hsock, -⟩ | ⟨s, sock, hfree, -, hsock, -⟩⟩ := allocSocket_cases halloc
      · intro t c hc hocc
        rw [hsock] at hocc ⊢
        exact hu t c hc hocc
      intro t c hc hocc
      rw [hsock, update_of_ne (hcare s hfree t c hc)] at hocc ⊢
      exact hu t c hc hocc
    refine undisturbed_of_keeps (keeps_of_run ht hop hrun fun sockType protocol pid he => ?_) hu
    exact halloc ⟨sockType, protocol, pid, he⟩

lemma undisturbed_of_reach (hr : Reach Start CarefulNext w) :
    Tagged w.host.net w.tag ∧ Undisturbed w := by
  refine hr.invariant (I := fun w => Tagged w.host.net w.tag ∧ Undisturbed w) (fun v hv => ?_) ?_
  · refine ⟨?_, fun t c hc => ?_⟩
    · rw [hv.1]
      exact tagged_boot v.tag
    rw [hv.2] at hc
    cases hc
  rintro v v' ⟨hv, hu⟩ ⟨e, hcare, hstep⟩
  exact ⟨tagged_of_step hv hstep, undisturbed_of_step hv hu hcare hstep⟩

/-- **Receives get their own data.** In every run, a receive that returns at once gets a packet of its
socket, and the answer to one that has waited is as it should be exactly if its slot is not stolen; no
slot is stolen in a run in which no new socket gets a slot that a receive waits for. -/
theorem receive_own_data (hr : Reach Start Next w) :
    (∀ slot outLen nb bytes n',
      recvRound slot outLen nb w.host.net = .ok (.returned (.ok bytes), n') →
      Own w slot (w.host.net.socket slot).socketId outLen bytes) ∧
    (∀ t c a n', w.call t = some c → recvRound c.slot c.outLen false w.host.net = .ok (a, n') →
      (Proper w c a ↔ ¬Stolen w c)) ∧
    (Reach Start CarefulNext w → ∀ t c, w.call t = some c → ¬Stolen w c) := by
  have ht := tagged_of_reach hr
  refine ⟨fun _ _ _ _ _ h => own_of_recvRound ht h, fun _ _ _ _ _ h => proper_iff ht h, ?_⟩
  intro hcare t c hc hst
  exact hst.2.1 ((undisturbed_of_reach hcare).2 t c hc hst.1)

/-! ### A stolen slot -/

def quietWorld : World := { host := twoHosts, call := fun _ => none, tag := fun _ => 0 }

lemma reach_events {es : List Event}
    (h : es.foldlM World.step quietWorld = .ok w) : Reach Start Next w :=
  Reach.foldlM (fun _ e _ he => ⟨e, he⟩) (.start ⟨rfl, rfl⟩) h

/-- A receive of the first process waits on the slot 0. -/
def waiting : List Event :=
  [.other (.alloc .udp 17 1), .other (.bind 0 0 5000 false), .begin 1 0 64 false, .park 1]

/-- Its socket is closed, the second process gets the slot, and a byte is sent to its socket. -/
def stealing : List Event :=
  [.other (.close 0), .other (.alloc .udp 17 2), .other (.bind 0 0 5001 false),
    .other (.alloc .udp 17 2), .other (.connect 2 1 loopbackIp 5001 false), .other (.send 1 [7] false)]

theorem receive_own_data_waiting :
    ∃ w, Reach Start Next w ∧ w.call 1 = some ⟨0, 1, 64, true⟩ ∧
      ∀ a n', recvRound 0 64 false w.host.net = .ok (a, n') →
        (Proper w ⟨0, 1, 64, true⟩ a ↔ ¬Stolen w ⟨0, 1, 64, true⟩) := by
  obtain ⟨w, hrun, hcall⟩ : ∃ w : World, waiting.foldlM World.step quietWorld = .ok w ∧
      w.call 1 = some ⟨0, 1, 64, true⟩ := exists_ok (by decide +kernel)
  have hr := reach_events hrun
  exact ⟨w, hr, hcall, fun a n' h => (receive_own_data hr).2.1 1 _ a n' hcall h⟩

/-- The bytes of a receive that has returned `Ok`. -/
def bytesOf : Round (List Byte) → Option (List Byte)
  | .ok (.returned (.ok bytes), _) => some bytes
  | _ => none

lemma bytesOf_eq_some {x : Round (List Byte)} {bytes : List Byte} (h : bytesOf x = some bytes) :
    ∃ n', x = .ok (.returned (.ok bytes), n') := by
  unfold bytesOf at h
  split at h
  next n' =>
    cases h
    exact ⟨n', rfl⟩
  · cases h

/-- **A stolen slot.** The receive that waited for the socket 1 returns the byte that was sent to the
socket 2. -/
theorem receive_stolen :
    ∃ w c b n', Reach Start Next w ∧ w.call 1 = some c ∧ c.socketId = 1 ∧ c.parked = true ∧
      w.host.net.blocked 1 = false ∧
      recvRound c.slot c.outLen false w.host.net = .ok (.returned (.ok [7]), n') ∧
      (w.host.net.socket c.slot).rxQueue.head = some b ∧ w.tag b = 2 := by
  obtain ⟨w, hrun, hcall, hawake, hbytes, hhead, htag⟩ : ∃ w : World,
      (waiting ++ stealing).foldlM World.step quietWorld = .ok w ∧
      w.call 1 = some ⟨0, 1, 64, true⟩ ∧ w.host.net.blocked 1 = false ∧
      bytesOf (recvRound 0 64 false w.host.net) = some [7] ∧
      (w.host.net.socket 0).rxQueue.head = some 0 ∧ w.tag 0 = 2 := exists_ok (by decide +kernel)
  obtain ⟨n', hrecv⟩ := bytesOf_eq_some hbytes
  exact ⟨w, _, 0, n', reach_events hrun, hcall, rfl, rfl, hawake, hrecv, hhead, htag⟩

end ProjectZero.Net.Receive
