import ProjectZero.Net.Receive

/-! # Wake-ups

A receive that finds nothing gives the lock back, and joins the wait queue of its slot after that. What
happens in between wakes nobody: the thread then waits for what is already there. -/

namespace ProjectZero.Net.Wakeups

open Lib.Layout Lib.Run ProjectZero.Tables Net.Tables Socket Effects Ownership Receive

/-! ### Faults -/

/-- A fault of the interface at one slot. -/
def faultSlot (interfaceId : ℕ) (n : Stack) (s : SockIdx) : Stack :=
  let sock := n.socket s
  if sock.occupied ∧ (sock.boundInterface = interfaceId ∨ interfaceId = 0) then
    (n.setSocket s { sock with state := .faulted, error := -19 }).wakeAll s
  else n

def wakeAllSocketsOnFault (interfaceId : ℕ) (n : Stack) : Except Halt Stack :=
  locked n (.ok ((List.finRange 16).foldl (faultSlot interfaceId) n))

/-! ### The system -/

/-- What the threads do: receives with their parking, sends, closes and faults. -/
inductive Turn
  | recv (e : Event)
  | send (slot : ℕ) (payload : List Byte) (nonBlocking : Bool)
  | free (slot : ℕ)
  | fault (interfaceId : ℕ)

def Turn.run (w : World) : Turn → Except Halt World
  | .recv (.other _) => .ok w
  | .recv e => w.step e
  | .send slot payload nb => w.step (.other (.send slot payload nb))
  | .free slot => w.step (.other (.close slot))
  | .fault interfaceId => do
    let n ← wakeAllSocketsOnFault interfaceId w.host.net
    .ok { w with host := { w.host with net := n } }

/-- The socket has nothing to say. -/
def Idle (sock : SocketSlot) : Prop := sock.occupied ∧ sock.error = 0 ∧ sock.rxQueue.count = 0
  deriving Decidable

/-- Nobody waits for a socket that is closed, has failed or has a packet. -/
def Attended (n : Stack) : Prop := ∀ s, n.waiters s ≠ [] → Idle (n.socket s)

/-- The thread joins the wait queue of a socket that is no longer idle. -/
def Late (w : World) : Turn → Prop
  | .recv (.park t) => ∃ c, w.call t = some c ∧ c.parked = false ∧ ¬Idle (w.host.net.socket c.slot)
  | _ => False

def Start (w : World) : Prop := (∀ s, w.host.net.waiters s = []) ∧ w.call = fun _ => none

def Prompt (w w' : World) : Prop := ∃ e : Turn, ¬Late w e ∧ e.run w = .ok w'

/-! ### One turn -/

variable {n n' : Stack} {w w' : World} {s : SockIdx}

lemma attended_carried (h : Attended n) (hc : Carried n n') : Attended n' := by
  intro t ht
  rcases hc.waiters t with hw | ⟨hw, hcount⟩
  · exact absurd hw ht
  rw [hw] at ht
  obtain ⟨hocc, herr, hz⟩ := h t ht
  refine ⟨(hc.occupied t).trans hocc, ?_, hcount hz⟩
  rw [hc.socket t]
  exact herr

lemma attended_update {sock : SocketSlot} (h : Attended n)
    (hs : n'.socket = update n.socket s sock) (hw : n'.waiters = update n.waiters s []) :
    Attended n' := by
  intro t ht
  rw [hw] at ht
  by_cases hts : t = s
  · rw [hts] at ht
    exact absurd (update_self ..) ht
  rw [update_of_ne hts] at ht
  rw [hs, update_of_ne hts]
  exact h t ht

lemma attended_fault (i : ℕ) (l : List SockIdx) (h : Attended n) :
    Attended (l.foldl (faultSlot i) n) := by
  induction l generalizing n with
  | nil => exact h
  | cons s l ih =>
    refine ih ?_
    unfold faultSlot
    dsimp only
    split
    · exact attended_update h rfl rfl
    · exact h

lemma attended_park (h : Attended n) (t : TSlot) : Attended (n.park s t) ↔ Idle (n.socket s) := by
  refine ⟨fun hp => hp s (by simp [Stack.park]), fun hi r hr => ?_⟩
  by_cases hrs : r = s
  · rw [hrs]
    exact hi
  have hw : (n.park s t).waiters r = n.waiters r := update_of_ne hrs ..
  rw [hw] at hr
  exact h r hr

lemma attended_round {t : TSlot} {c : Call} {k : ℕ} {nb : Bool} {r : Answer (List Byte) × Stack}
    (h : Attended w.host.net) (hr : recvRound s k nb w.host.net = .ok r) :
    Attended (afterRound w t c r).host.net := by
  obtain ⟨a, m⟩ := r
  have hm : Attended m := by
    rcases recvRound_cases hr with ⟨rfl, -⟩ | ⟨-, -, hcar, -, -⟩
    · exact h
    · exact attended_carried h hcar
  cases a <;> exact hm

/-- **A turn** leaves nobody waiting beside what he waits for, exactly if it is not late. -/
lemma attended_turn (h : Attended w.host.net) {e : Turn} (hr : e.run w = .ok w') :
    Attended w'.host.net ↔ ¬Late w e := by
  cases e with
  | recv e =>
    cases e with
    | begin t slot outLen nb =>
      refine iff_of_true ?_ id
      cases happens_of_step (e := .begin t slot outLen nb) hr with
      | stays => exact h
      | round hround => exact attended_round h hround
    | park t =>
      unfold Turn.run World.step at hr
      dsimp only at hr
      split at hr
      next hnone =>
        cases hr
        exact iff_of_true h fun ⟨c, hc, _⟩ => by rw [hnone] at hc; cases hc
      rename_i c hc
      split at hr
      next hparked =>
        cases hr
        refine iff_of_true h fun ⟨c', hc', hp, _⟩ => ?_
        rw [hc] at hc'
        cases hc'
        rw [hparked] at hp
        cases hp
      rename_i hparked
      cases hr
      refine (attended_park h t).trans ⟨fun hi ⟨c', hc', _, hlate⟩ => ?_, fun hl => ?_⟩
      · rw [hc] at hc'
        cases hc'
        exact hlate hi
      by_contra hidle
      exact hl ⟨c, hc, by simpa using hparked, hidle⟩
    | resume t =>
      refine iff_of_true ?_ id
      cases happens_of_step (e := .resume t) hr with
      | stays => exact h
      | round hround => exact attended_round h hround
    | other op =>
      cases hr
      exact iff_of_true h id
  | send slot payload nb =>
    refine iff_of_true ?_ id
    obtain ⟨h', hrun, hr⟩ := bind_eq_ok hr
    cases hr
    obtain ⟨r, hsend⟩ := onNet_ok hrun
    rcases sendSocket_cases hsend with ⟨hn, -⟩ | ⟨-, -, -, -, hcar, -⟩
    · rw [hn]
      exact h
    · exact attended_carried h hcar
  | free slot =>
    refine iff_of_true ?_ id
    obtain ⟨h', hrun, hr⟩ := bind_eq_ok hr
    cases hr
    obtain ⟨⟨r, h1⟩, hclose, hrun⟩ := bind_eq_ok hrun
    cases hrun
    rcases freeSocket_cases hclose with rfl | ⟨s, hrel⟩
    · exact h
    obtain ⟨k, buf, -, rfl, -⟩ := releaseSocket_eq hrel
    exact attended_update h rfl rfl
  | fault interfaceId =>
    refine iff_of_true ?_ id
    obtain ⟨m, hfault, hr⟩ := bind_eq_ok hr
    cases hr
    cases (locked_eq_ok hfault).2
    exact attended_fault interfaceId _ h

/-! ### Runs -/

/-- **No lost wake-up.** As long as no thread joins a wait queue late, nobody waits for a socket that
is closed, has failed or has a packet; and the first thread that is late does. -/
theorem wakeups_kept_iff (hw : Reach Start Prompt w) :
    Attended w.host.net ∧
      ∀ e w', Turn.run w e = .ok w' → (Attended w'.host.net ↔ ¬Late w e) := by
  have h : Attended w.host.net := by
    refine hw.invariant (I := fun w => Attended w.host.net) (fun v hv s hs => ?_) ?_
    · exact absurd (hv.1 s) hs
    rintro v v' hv ⟨e, hprompt, hrun⟩
    exact (attended_turn hv hrun).mpr hprompt
  exact ⟨h, fun e w' hr => attended_turn h hr⟩

/-- A socket on port 5000, and one that is connected to it. -/
def connected : List Event :=
  [.other (.alloc .udp 17 1), .other (.bind 0 0 5000 false), .other (.alloc .udp 17 2),
    .other (.connect 2 1 loopbackIp 5000 false)]

/-- A receive waits in time, and the byte that comes then wakes its thread. -/
theorem wakeups_kept_delivered : ∃ w w', Reach Start Prompt w ∧ w.host.net.waiters 0 = [1] ∧
    Turn.run w (.send 1 [7] false) = .ok w' ∧ w'.host.net.waiters 0 = [] ∧
    (w'.host.net.socket 0).rxQueue.count = 1 ∧ Attended w.host.net ∧ Attended w'.host.net := by
  obtain ⟨w, hw, hwait, hcall, hrest⟩ : ∃ w : World,
      connected.foldlM World.step quietWorld = .ok w ∧ (∀ s, w.host.net.waiters s = []) ∧
      (∀ t, w.call t = none) ∧
      ((Turn.run w (.recv (.begin 1 0 64 false))).toOption.any fun w₁ =>
        ((w₁.call 1).all fun c => decide (Idle (w₁.host.net.socket c.slot))) ∧
        (Turn.run w₁ (.recv (.park 1))).toOption.any fun w₂ =>
          decide (w₂.host.net.waiters 0 = [1]) ∧
          (Turn.run w₂ (.send 1 [7] false)).toOption.any fun w₃ =>
            decide (w₃.host.net.waiters 0 = [] ∧ (w₃.host.net.socket 0).rxQueue.count = 1)) :=
    exists_ok (by decide +kernel)
  obtain ⟨w₁, h₁, hidle, hrest⟩ := exists_ok hrest
  obtain ⟨w₂, h₂, hparked, hrest⟩ := exists_ok hrest
  obtain ⟨w₃, h₃, hwoken⟩ := exists_ok hrest
  have hprompt : ¬Late w₁ (.recv (.park 1)) := by
    rintro ⟨c, hc, -, hlate⟩
    rw [hc] at hidle
    exact hlate (by simpa using hidle)
  have hreach : Reach Start Prompt w₂ :=
    .next (.next (.start ⟨hwait, funext hcall⟩) ⟨_, id, h₁⟩) ⟨_, hprompt, h₂⟩
  obtain ⟨hatt, hnext⟩ := wakeups_kept_iff hreach
  exact ⟨w₂, w₃, hreach, by simpa using hparked, h₃, hwoken.1, hwoken.2, hatt, (hnext _ _ h₃).mpr id⟩

/-- **A lost wake-up.** The byte arrives after the receive has found nothing and before its thread
waits: the thread is blocked in the queue of a socket with a packet. -/
theorem wakeup_lost :
    ∃ w w', Start w ∧
      [Turn.recv (.begin 1 0 64 false), .send 1 [7] false, .recv (.park 1)].foldlM Turn.run w =
        .ok w' ∧
      w'.host.net.waiters 0 = [1] ∧ w'.host.net.blocked 1 ∧
      (w'.host.net.socket 0).rxQueue.count = 1 := by
  obtain ⟨w, hw, hwait, hcall, hlost⟩ : ∃ w : World,
      connected.foldlM World.step quietWorld = .ok w ∧ (∀ s, w.host.net.waiters s = []) ∧
      (∀ t, w.call t = none) ∧
      (([Turn.recv (.begin 1 0 64 false), .send 1 [7] false, .recv (.park 1)].foldlM
        Turn.run w).toOption.any fun w' => decide (w'.host.net.waiters 0 = [1] ∧
          w'.host.net.blocked 1 ∧ (w'.host.net.socket 0).rxQueue.count = 1)) :=
    exists_ok (by decide +kernel)
  obtain ⟨w', hrun, hend⟩ := exists_ok hlost
  exact ⟨w, w', ⟨hwait, funext hcall⟩, hrun, hend⟩

end ProjectZero.Net.Wakeups
