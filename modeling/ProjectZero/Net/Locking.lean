import ProjectZero.Net.Ownership

/-! # The lock of the sockets

A call on a socket takes the lock and gives it back before it returns. An error that leaves the call by
`?` keeps it: the port was refused, there was none left, or the segment did not fit into its buffer.
Nobody gets the lock after that; until then every call gets it. -/

namespace ProjectZero.Net.Locking

open Lib.Run Lib.Layout ProjectZero.Tables Net.Tables Packets Ports Bindings Socket
open Effects Ownership

variable {n n' : Stack} {h h' : Host} {s : SockIdx} {slot : ℕ} {ip : Ip} {p : Port} {nb config : Bool}

/-- An error leaves the call by `?`. -/
def Escapes (n : Stack) : Op → Prop
  | .bind slot ip port config => ∃ hs : slot < 16, (n.socket ⟨slot, hs⟩).occupied ∧
      ∃ proto ∈ protocolOf (n.socket ⟨slot, hs⟩).sockType, Refused n proto ip port config
  | .listen slot _ => ∃ hs : slot < 16, (n.socket ⟨slot, hs⟩).occupied ∧
      (n.socket ⟨slot, hs⟩).sockType = .tcp ∧ (n.socket ⟨slot, hs⟩).localPort = 0 ∧ Full n
  | .connect _ slot ip port _ => ∃ hs : slot < 16, ip ≠ 0 ∧ port ≠ 0 ∧
      (n.socket ⟨slot, hs⟩).occupied ∧ (n.socket ⟨slot, hs⟩).localPort = 0 ∧ Full n
  | .send slot payload _ => ∃ hs : slot < 16, Takes n ⟨slot, hs⟩ payload ∧
      ¬Fits (n.socket ⟨slot, hs⟩).sockType payload
  | _ => False

/-! ### Ports -/

lemma bindPort_lock {protocol socketId pid : ℕ} {r : Except SyscallError Port}
    (h : bindPort protocol ip p socketId pid config n = (r, n')) :
    n'.socketLock = n.socketLock := by
  obtain ⟨next, ⟨rfl, -⟩ | ⟨i, q, -, -, -, rfl, -⟩⟩ := bindPort_cases h <;> rfl

lemma autoBind_lock {protocol : ℕ} {r : Except SyscallError Unit}
    (h : autoBind protocol ip s n = (r, n')) : n'.socketLock = n.socketLock := by
  obtain rfl | ⟨q, m, hb, rfl | ⟨p, rfl⟩⟩ := autoBind_cases h
  · rfl
  · exact bindPort_lock hb
  · exact (bindPort_lock hb :)

/-! ### Calls -/

lemma releaseSocket_lock (hl : h.net.socketLock = false) :
    Ensures (fun g : Host => g.net.socketLock = false) (releaseSocket h s) := by
  cases hrel : releaseSocket h s with
  | error e => trivial
  | ok g =>
    obtain ⟨k, buf, -, rfl, -⟩ := releaseSocket_eq hrel
    exact hl

section

variable (hl : n.socketLock = false)

include hl

lemma bindSocket_lock {r : Except SyscallError Port}
    (h : bindSocket slot ip p config n = .ok (r, n')) :
    n'.socketLock = false ↔ ¬Escapes n (.bind slot ip p config) := by
  unfold bindSocket at h
  split at h
  next hs =>
    obtain ⟨-, h⟩ := locked_eq_ok h
    split at h
    next hocc =>
      cases h
      exact iff_of_true hl (by simp [Escapes, hocc])
    rename_i hocc
    split at h
    next hproto =>
      cases h
      exact iff_of_true hl (by simp [Escapes, hproto])
    rename_i proto hproto
    split at h
    next e m hb =>
      cases h
      have hno := bindPort_error_iff.mp ⟨e, congrArg Prod.fst hb⟩
      exact iff_of_false nofun (not_not.mpr ⟨hs, by simpa using hocc, proto, hproto, hno⟩)
    rename_i hb
    cases h
    refine iff_of_true ((bindPort_lock hb).trans hl) ?_
    rintro ⟨hs', -, proto', hproto', hno⟩
    rw [Option.mem_def, hproto] at hproto'
    cases hproto'
    obtain ⟨e, he⟩ := bindPort_error_iff.mpr hno
    rw [hb] at he
    cases he
  rename_i hs
  cases h
  exact iff_of_true hl fun ⟨hs', _⟩ => hs hs'

lemma listenSocket_lock {backlog : ℕ} {r : Except SyscallError Unit}
    (h : listenSocket slot backlog n = .ok (r, n')) :
    n'.socketLock = false ↔ ¬Escapes n (.listen slot backlog) := by
  unfold listenSocket at h
  split at h
  next hs =>
    obtain ⟨-, h⟩ := locked_eq_ok h
    split at h
    next hbad =>
      cases h
      refine iff_of_true hl fun ⟨_, hocc, htcp, _⟩ => ?_
      rcases hbad with hc | hc
      · simp [hc] at hocc
      · exact hc htcp
    rename_i hgood
    rw [not_or, not_not] at hgood
    split at h
    next e m hb =>
      cases h
      have hfull := autoBind_error_iff.mp ⟨e, congrArg Prod.fst hb⟩
      exact iff_of_false nofun (not_not.mpr ⟨hs, by simpa using hgood.1, hgood.2, hfull⟩)
    rename_i hb
    cases h
    refine iff_of_true ((autoBind_lock hb).trans hl) fun ⟨_, _, _, hfull⟩ => ?_
    obtain ⟨e, he⟩ := autoBind_error_iff.mpr hfull
    rw [hb] at he
    cases he
  rename_i hs
  cases h
  exact iff_of_true hl fun ⟨hs', _⟩ => hs hs'

lemma connectSocket_lock (t : TSlot) {a : Answer Unit}
    (h : connectSocket slot ip p nb n = .ok (a, n')) :
    n'.socketLock = false ↔ ¬Escapes n (.connect t slot ip p nb) := by
  unfold connectSocket at h
  split at h
  next hs =>
    obtain ⟨-, h⟩ := locked_eq_ok h
    split at h
    next hocc =>
      cases h
      exact iff_of_true hl (by simp [Escapes, hocc])
    rename_i hocc
    split at h
    next e m hb =>
      cases h
      have hfull := autoBind_error_iff.mp ⟨e, congrArg Prod.fst hb⟩
      exact iff_of_false nofun
        (not_not.mpr ⟨hs.1, hs.2.1, hs.2.2, by simpa using hocc, hfull⟩)
    rename_i hb
    have hm := (autoBind_lock hb).trans hl
    refine iff_of_true ?_ fun ⟨_, _, _, _, hfull⟩ => by
      obtain ⟨e, he⟩ := autoBind_error_iff.mpr hfull
      rw [hb] at he
      cases he
    dsimp only at h
    split at h
    · cases h
      exact hm
    · exact (connectTcp_keeps h).2.2.trans hm
    cases h
    exact hm
  rename_i hs
  cases h
  exact iff_of_true hl fun ⟨hs', hip, hport, _⟩ => hs ⟨hs', hip, hport⟩

lemma sendSocket_lock {payload : List Byte} {r : Except SyscallError ℕ}
    (h : sendSocket slot payload nb n = .ok (r, n')) :
    n'.socketLock = false ↔ ¬Escapes n (.send slot payload nb) := by
  rcases sendSocket_cases h with ⟨rfl, -, hno⟩ | ⟨hs, b, htakes, -, -, hcases⟩
  · exact iff_of_true hl fun ⟨hs, htakes, _⟩ => hno hs htakes
  rcases hcases with ⟨hfit, -, hlock, -⟩ | ⟨hfit, -, hlock, -⟩
  · exact iff_of_false (by rw [hlock]; exact nofun) (not_not.mpr ⟨hs, htakes, hfit⟩)
  · exact iff_of_true (hlock.trans hl) fun ⟨_, _, hn⟩ => hn hfit

end

/-- **The lock is free after a call** exactly if no error leaves the call by `?`. -/
lemma run_lock_iff {op : Op} (hl : h.net.socketLock = false) (hr : op.run h = .ok h') :
    h'.net.socketLock = false ↔ ¬Escapes h.net op := by
  cases op with
  | bind slot ip port config =>
    obtain ⟨r, hbind⟩ := onNet_ok hr
    exact bindSocket_lock hl hbind
  | listen slot backlog =>
    obtain ⟨r, hlisten⟩ := onNet_ok hr
    exact listenSocket_lock hl hlisten
  | connect t slot ip port nb =>
    obtain ⟨a, hpark⟩ := onNet_ok hr
    obtain ⟨m, hconn, -, hlock⟩ := parking_ok hpark
    rw [hlock]
    exact connectSocket_lock hl t hconn
  | resumeConnect t s =>
    obtain ⟨a, hpark⟩ := onNet_ok hr
    obtain ⟨m, hround, -, hlock⟩ := parking_ok hpark
    rw [connectRound_eq (locked_eq_ok hround).2] at hlock
    exact iff_of_true (hlock.trans hl) id
  | send slot payload nb =>
    obtain ⟨r, hsend⟩ := onNet_ok hr
    exact sendSocket_lock hl hsend
  | recv t slot outLen nb =>
    obtain ⟨a, hpark⟩ := onNet_ok hr
    obtain ⟨m, hrecv, -, hlock⟩ := parking_ok hpark
    refine iff_of_true (hlock.trans ?_) id
    unfold recvSocket at hrecv
    split at hrecv
    · rcases recvRound_cases hrecv with ⟨rfl, -⟩ | ⟨b, -, -, -, hm, -⟩
      · exact hl
      · exact hm.trans hl
    cases hrecv
    exact hl
  | close slot =>
    obtain ⟨⟨r, h1⟩, hclose, hr⟩ := bind_eq_ok hr
    cases hr
    refine iff_of_true ?_ id
    rcases freeSocket_cases hclose with rfl | ⟨s, hrel⟩
    · exact hl
    obtain ⟨k, buf, -, rfl, -⟩ := releaseSocket_eq hrel
    exact hl
  | alloc sockType protocol pid =>
    obtain ⟨⟨r, h1⟩, halloc, hr⟩ := bind_eq_ok hr
    cases hr
    refine iff_of_true ?_ id
    unfold allocSocket at halloc
    split at halloc
    · cases halloc
      exact hl
    obtain ⟨-, halloc⟩ := locked_eq_ok halloc
    split at halloc
    · cases halloc
      exact hl
    dsimp only at halloc
    split at halloc <;> cases halloc <;> exact hl
  | enqueue d ifIdx bufIdx =>
    obtain ⟨r, henq⟩ := onNet_ok hr
    obtain ⟨⟨buf, iface, hn, -⟩, -⟩ := enqueuePacket_cases henq
    refine iff_of_true ?_ id
    rw [hn]
    exact hl
  | dequeue d ifIdx =>
    cases hr
    refine iff_of_true ?_ id
    dsimp only
    unfold dequeuePacket
    split
    · dsimp only
      split <;> exact hl
    · exact hl
  | teardown pid =>
    obtain ⟨-, hr⟩ := locked_eq_ok hr
    obtain ⟨h1, hloop, hr⟩ := bind_eq_ok hr
    cases hr
    have hslot : ∀ (g : Host) (t : SockIdx), g.net.socketLock = false →
        Ensures (fun g : Host => g.net.socketLock = false) (cleanupSlot pid g t) := fun g t hg => by
      unfold cleanupSlot
      split
      · exact releaseSocket_lock hg
      · exact hg
    exact iff_of_true ((holds_foldlM hslot (List.finRange 16) hl).of_ok hloop :) id

/-! ### Calls that end -/

section

variable {α : Type} {Q : α → Prop}

lemma ends_locked {body : Except Halt α} (hl : n.socketLock = false) (hb : Ends Q body) :
    Ends Q (locked n body) := by
  unfold locked
  rw [hl]
  exact hb

lemma ends_onNet {x : Except Halt (α × Stack)} (hx : Ends (fun _ => True) x) :
    Ends (fun _ => True) (onNet h x) := Holds.bind hx fun _ _ => trivial

lemma ends_parking {t : TSlot} {x : Round α} (hx : Ends (fun _ => True) x) :
    Ends (fun _ => True) (parking t slot x) := by
  unfold parking
  split
  · trivial
  · exact hx

end

lemma ends_releaseSocket (h : Host) (s : SockIdx) : Ends (fun _ => True) (releaseSocket h s) := by
  unfold releaseSocket
  dsimp only
  split
  · trivial
  unfold Ipc.Object.freeObjectSlotLocked
  split
  · trivial
  · exact rfl

lemma ends_link (b : BufIdx) (q : Lib.Queues.Queue BufIdx) (n : Stack) :
    Ends (fun _ => True) (link b q n) := by
  unfold link
  dsimp only
  split
  · trivial
  · exact rfl
  · trivial

lemma ends_enqueuePacket (d : Direction) (ifIdx bufIdx : ℕ) (n : Stack) :
    Ends (fun _ => True) (enqueuePacket d ifIdx bufIdx n) := by
  unfold enqueuePacket
  split
  swap
  · trivial
  dsimp only
  iterate 2
    split
    · trivial
  refine Holds.bind (ends_link ..) fun r _ => ?_
  split
  · exact rfl
  · trivial

lemma ends_dispatchPacket (s : SockIdx) (b : BufIdx) (n : Stack) :
    Ends (fun _ => True) (dispatchPacket s b n) := by
  unfold dispatchPacket
  split
  · exact Holds.bind (ends_link ..) fun _ _ => trivial
  · exact Holds.bind (ends_enqueuePacket ..) fun _ _ => trivial

lemma ends_recvRound (s : SockIdx) (outLen : ℕ) (nb : Bool) (hl : n.socketLock = false) :
    Ends (fun _ => True) (recvRound s outLen nb n) := by
  refine ends_locked hl ?_
  dsimp only
  iterate 2
    split
    · trivial
  split
  · unfold takePacket
    dsimp only
    split
    · exact rfl
    · trivial
  repeat' split
  all_goals trivial

/-- **A call that finds the lock free ends.** -/
lemma ends_run (hl : h.net.socketLock = false) (op : Op) : Ends (fun _ => True) (op.run h) := by
  cases op with
  | alloc sockType protocol pid =>
    refine Holds.bind (P := fun _ => True) ?_ fun _ _ => trivial
    unfold allocSocket
    split
    · trivial
    refine ends_locked hl ?_
    split
    · trivial
    dsimp only
    split <;> trivial
  | bind slot ip port config =>
    refine ends_onNet ?_
    unfold bindSocket
    split
    swap
    · trivial
    refine ends_locked hl ?_
    repeat' split
    all_goals trivial
  | listen slot backlog =>
    refine ends_onNet ?_
    unfold listenSocket
    split
    swap
    · trivial
    refine ends_locked hl ?_
    repeat' split
    all_goals trivial
  | connect t slot ip port nb =>
    refine ends_onNet (ends_parking ?_)
    unfold connectSocket
    split
    swap
    · trivial
    refine ends_locked hl ?_
    unfold connectTcp connectLoopback refuse connectRound
    dsimp only
    repeat' split
    all_goals trivial
  | resumeConnect t s =>
    refine ends_onNet (ends_parking (ends_locked hl ?_))
    unfold connectRound
    dsimp only
    repeat' split
    all_goals trivial
  | send slot payload nb =>
    refine ends_onNet ?_
    unfold sendSocket
    dsimp only
    split
    swap
    · trivial
    split
    · trivial
    refine ends_locked hl ?_
    iterate 4
      split
      · trivial
    split
    · trivial
    split
    · trivial
    · exact Holds.bind (ends_dispatchPacket ..) fun _ _ => trivial
  | recv t slot outLen nb =>
    refine ends_onNet (ends_parking ?_)
    unfold recvSocket
    split
    · exact ends_recvRound _ outLen nb hl
    · trivial
  | close slot =>
    refine Holds.bind (P := fun _ => True) ?_ fun _ _ => trivial
    unfold freeSocket
    split
    swap
    · trivial
    refine ends_locked hl ?_
    split
    · trivial
    · exact Holds.bind (ends_releaseSocket ..) fun _ _ => trivial
  | enqueue d ifIdx bufIdx => exact ends_onNet (ends_enqueuePacket ..)
  | dequeue d ifIdx => trivial
  | teardown pid =>
    refine ends_locked hl (Holds.bind (P := fun _ => True) ?_ fun _ _ => trivial)
    refine holds_foldlM (fun g t _ => ?_) _ trivial
    unfold cleanupSlot
    split
    · exact ends_releaseSocket ..
    · trivial

/-! ### Runs -/

def Unlocked (h : Host) : Prop := h.net.socketLock = false

def Next (h h' : Host) : Prop := ∃ op : Op, ¬Escapes h.net op ∧ op.run h = .ok h'

/-- **The lock is free after a call** exactly if no error leaves the call by `?`. After every sequence
of such calls, from any tables, the next call does not wait for the lock in vain. -/
theorem lock_released_iff (hr : Reach Unlocked Next h) (op : Op) :
    op.run h ≠ .error .hang ∧
      ∀ h', op.run h = .ok h' → (h'.net.socketLock = false ↔ ¬Escapes h.net op) := by
  have hl : h.net.socketLock = false := by
    refine hr.invariant (I := Unlocked) (fun _ hg => hg) ?_
    rintro g g' hg ⟨op, hno, hrun⟩
    exact (run_lock_iff hg hrun).mpr hno
  refine ⟨fun he => ?_, fun h' hrun => run_lock_iff hl hrun⟩
  cases (ends_run hl op).of_error he

instance (n : Stack) : DecidablePred (Escapes n) := fun op => by
  apply @Op.casesOn _ op <;> intros <;> unfold Escapes <;> infer_instance

/-- Two ports, and then no other bind of one of them. -/
def ownPorts : List Op :=
  [.alloc .udp 17 1, .alloc .udp 17 2, .bind 0 0 5000 false, .bind 1 0 5001 false]

theorem lock_released_bound :
    ∃ h, ownPorts.foldlM (fun h op => op.runIf (fun h op => ¬Escapes h.net op) h) twoHosts = .ok h ∧
      ∀ op : Op, op.run h ≠ .error .hang ∧
        ∀ h', op.run h = .ok h' → (h'.net.socketLock = false ↔ ¬Escapes h.net op) := by
  obtain ⟨h, hrun, -⟩ := exists_ok (Q := fun h : Host => (h.net.port 1).port = 5001)
    (x := ownPorts.foldlM (fun h op => op.runIf (fun h op => ¬Escapes h.net op) h) twoHosts)
    (by decide +kernel)
  exact ⟨h, hrun, lock_released_iff
    (Reach.foldlM (fun h op h' => Op.runIf_ok h op h')
      (.start (show twoHosts.net.socketLock = false from rfl)) hrun)⟩

/-- A port that is in use. -/
def sharedPort : List Op :=
  [.alloc .udp 17 1, .alloc .udp 17 2, .bind 0 0 5000 false, .bind 1 0 5000 false]

/-- **The lock is kept.** The second bind of a port fails, and no later call gets the lock. -/
theorem lock_kept :
    ∃ h', sharedPort.foldlM Op.run twoHosts = .ok h' ∧ h'.net.socketLock ∧
      ∀ slot < 16, freeSocket slot h' = .error .hang := by
  obtain ⟨h', hrun, hlock⟩ : ∃ h', sharedPort.foldlM Op.run twoHosts = .ok h' ∧
      h'.net.socketLock := exists_ok (by decide +kernel)
  refine ⟨h', hrun, hlock, fun slot hs => ?_⟩
  unfold freeSocket locked
  rw [dif_pos hs, if_pos hlock]

end ProjectZero.Net.Locking
