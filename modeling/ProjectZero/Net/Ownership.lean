import ProjectZero.Ipc.Steps
import ProjectZero.Net.Bindings
import ProjectZero.Net.Effects

/-! # Ownership of packet buffers

A packet buffer in use belongs to exactly one queue, and the record of a queue tells its length. The
calls keep this as long as no call is harmful: a TCP connection to a listener counts a packet that does
not exist, a packet whose header does not fit or whose interface does not exist is lost, an enqueued
buffer may be in a queue already, and a dequeued one is in no queue afterwards. -/

namespace ProjectZero.Net.Ownership

open Lib.Layout Lib.Linked Lib.Queues Lib.Run Lib.Update ProjectZero.Tables Net.Tables Packets
open Ports Bindings Socket Filing Effects

/-! ### The system -/

/-- The calls; a thread `t` that has to wait parks, and goes on with another receive or another round of
its connection. -/
inductive Op
  | alloc (sockType : SocketType) (protocol pid : ℕ)
  | bind (slot : ℕ) (ip : Ip) (port : Port) (hasNetConfig : Bool)
  | listen (slot backlog : ℕ)
  | connect (t : TSlot) (slot : ℕ) (ip : Ip) (port : Port) (nonBlocking : Bool)
  | resumeConnect (t : TSlot) (s : SockIdx)
  | send (slot : ℕ) (payload : List Byte) (nonBlocking : Bool)
  | recv (t : TSlot) (slot outLen : ℕ) (nonBlocking : Bool)
  | close (slot : ℕ)
  | enqueue (d : Direction) (ifIdx bufIdx : ℕ)
  | dequeue (d : Direction) (ifIdx : ℕ)
  | teardown (pid : ℕ)

def onNet {α : Type} (h : Host) (x : Except Halt (α × Stack)) : Except Halt Host := do
  let (_, n) ← x
  .ok { h with net := n }

/-- The thread parks if the call asks for it. -/
def parking {α : Type} (t : TSlot) (slot : ℕ) : Round α → Round α
  | .ok (.parked, n) => .ok (.parked, if hs : slot < 16 then n.park ⟨slot, hs⟩ t else n)
  | r => r

def Op.run (h : Host) : Op → Except Halt Host
  | .alloc sockType protocol pid => do
    let (_, h) ← allocSocket sockType protocol pid h
    .ok h
  | .bind slot ip port config => onNet h (bindSocket slot ip port config h.net)
  | .listen slot backlog => onNet h (listenSocket slot backlog h.net)
  | .connect t slot ip port nb => onNet h (parking t slot (connectSocket slot ip port nb h.net))
  | .resumeConnect t s => onNet h (parking t s (locked h.net (connectRound s h.net)))
  | .send slot payload nb => onNet h (sendSocket slot payload nb h.net)
  | .recv t slot outLen nb => onNet h (parking t slot (recvSocket slot outLen nb h.net))
  | .close slot => do
    let (_, h) ← freeSocket slot h
    .ok h
  | .enqueue d ifIdx bufIdx => onNet h (enqueuePacket d ifIdx bufIdx h.net)
  | .dequeue d ifIdx => .ok { h with net := (dequeuePacket d ifIdx h.net).2 }
  | .teardown pid => cleanupProcessSockets pid h

/-- A connection of the socket `s` to the address gets to a listener: `s` has a port or there is one
left for it, there is a route, and the port is bound to another socket that listens. -/
def Meets (n : Stack) (s : SockIdx) (ip : Ip) (p : Port) : Prop :=
  p ≠ 0 ∧ isLoopback ip ∧ (n.socket s).occupied ∧ ((n.socket s).localPort = 0 → ¬Full n) ∧
    (lookupRoute n ip).isSome ∧ ∃ j i, Bound (n.port j) 6 ip p ∧ i ≠ s ∧ (n.socket i).occupied ∧
      (n.socket i).socketId = (n.port j).socketId ∧ (n.socket i).state = .listen
  deriving Decidable

/-- The calls that do what they should to the buffers. -/
def Op.Harmless (h : Host) : Op → Prop
  | .connect _ slot ip port _ => ∀ hs : slot < 16, (h.net.socket ⟨slot, hs⟩).sockType = .tcp →
      ¬Meets h.net ⟨slot, hs⟩ ip port
  | .send slot payload _ => ∀ hs : slot < 16, Takes h.net ⟨slot, hs⟩ payload →
      Fits (h.net.socket ⟨slot, hs⟩).sockType payload ∧
        ((localTarget (h.net.socket ⟨slot, hs⟩) h.net).isSome ∨ outInterface h.net ⟨slot, hs⟩ < 4)
  | .enqueue _ ifIdx bufIdx => ifIdx < 4 → ∀ hb : bufIdx < 32, (h.net.buf ⟨bufIdx, hb⟩).state = .free
  | .dequeue d ifIdx => ∀ hi : ifIdx < 4, ((h.net.iface ⟨ifIdx, hi⟩).queue d).head = none
  | _ => True

/-! ### The invariant -/

/-- Every buffer in use is linked in exactly one queue, every free one in none, and the record of a
queue tells its length. -/
def Exclusive (n : Stack) : Prop :=
  ∃ nodes, Chained (Live n) (links n) (fun q => (queues n q).head) nodes ∧
    ∀ q, (queues n q).count = (nodes q).length ∧
      ((queues n q).head = none ↔ (queues n q).count = 0) ∧
      ((queues n q).tail = none ↔ (queues n q).count = 0)

variable {n n' : Stack} {h h' : Host} {s : SockIdx} {b : BufIdx}

/-- The ids of the sockets are distinct, no two bindings collide, and a UDP socket is not a listener. -/
structure Registered (n : Stack) : Prop where
  distinct : ∀ s t, (n.socket s).occupied → (n.socket t).occupied →
    (n.socket s).socketId = (n.socket t).socketId → s = t
  fresh : ∀ s, (n.socket s).occupied → (n.socket s).socketId < n.nextSocketId
  separate : Separate n.port
  plain : ∀ s, Plain (n.socket s)

section

variable (hr : Registered n)

include hr

lemma Registered.keep (hkeep : Keeps n n')
    (hk : n.nextSocketId ≤ n'.nextSocketId) (hsep : Separate n'.port)
    (hp : ∀ t, Plain (n'.socket t)) : Registered n' := by
  refine ⟨fun s t hs ht he => ?_, fun s hs => ?_, hsep, hp⟩
  · rw [(hkeep s hs).2, (hkeep t ht).2] at he
    exact hr.distinct s t (hkeep s hs).1 (hkeep t ht).1 he
  rw [(hkeep s hs).2]
  exact (hr.fresh s (hkeep s hs).1).trans_le hk

lemma Registered.still (h : Still n n') : Registered n' :=
  hr.keep (.of_still h) h.nextSocketId (h.separate hr.separate) (h.plain hr.plain)

lemma Registered.counted {i : SockIdx} (h : Counted n n' i) : Registered n' :=
  hr.keep (.of_same h.occupied h.socketId) h.nextSocketId (h.separate hr.separate) (h.plain hr.plain)

lemma Registered.carried (h : Carried n n') : Registered n' := by
  refine hr.keep (.of_carried h) h.nextSocketId.ge ?_ fun t => ?_
  · rw [h.port]
    exact hr.separate
  rw [h.socket t]
  exact hr.plain t

end

lemma Registered.drained {l : List BufIdx} (hr : Registered n) (h : Drained n n' s l) :
    Registered n' := by
  refine hr.keep (.of_drained h) h.nextSocketId.ge (h.separate hr.separate) ?_
  rw [h.socket]
  exact update_all (P := fun _ x => Plain x) nofun fun t _ => hr.plain t

lemma Registered.alloc {sockType : SocketType} {protocol pid : ℕ}
    {res : Except SyscallError (SockIdx × ℕ)} (hr : Registered h.net)
    (hrun : allocSocket sockType protocol pid h = .ok (res, h')) : Registered h'.net := by
  obtain ⟨⟨-, -, hport, hnext⟩, hcases⟩ := allocSocket_cases hrun
  have hsep : Separate h'.net.port := by
    rw [hport]
    exact hr.separate
  rcases hcases with ⟨hsock, -⟩ | ⟨s, sock, -, hocc, hsock, -, hplain, hnew⟩
  · refine hr.keep (.of_same (fun t => ?_) fun t => ?_) hnext hsep fun t => ?_ <;> rw [hsock]
    exact hr.plain t
  -- the new socket has an id that no other socket has
  have hid : ∀ t ≠ s, (h.net.socket t).occupied → sock.occupied →
      (h.net.socket t).socketId ≠ sock.socketId := by
    intro t _ ht hs he
    rcases hnew with ⟨rfl, -⟩ | ⟨-, hsid, -, -⟩
    · cases hs
    have := hr.fresh t ht
    omega
  refine ⟨fun a c ha hc he => ?_, fun a ha => ?_, hsep, fun t => ?_⟩
  · rw [hsock] at ha hc he
    by_cases has : a = s <;> by_cases hcs : c = s
    · exact has.trans hcs.symm
    · subst has
      rw [update_self] at ha he
      rw [update_of_ne hcs] at hc he
      exact absurd he.symm (hid c hcs hc ha)
    · subst hcs
      rw [update_self] at hc he
      rw [update_of_ne has] at ha he
      exact absurd he (hid a has ha hc)
    rw [update_of_ne has] at ha he
    rw [update_of_ne hcs] at hc he
    exact hr.distinct a c ha hc he
  · rw [hsock] at ha ⊢
    revert a
    refine update_all (P := fun _ (x : SocketSlot) => x.occupied → x.socketId < h'.net.nextSocketId)
      (fun ha => ?_) fun a _ ha => (hr.fresh a ha).trans_le hnext
    rcases hnew with ⟨rfl, -⟩ | ⟨-, hsid, hn, -⟩
    · cases ha
    · omega
  rw [hsock]
  exact update_all (P := fun _ x => Plain x) hplain (fun t _ => hr.plain t) t

lemma registered_boot : Registered .boot := by
  refine ⟨fun s t hs => ?_, fun s hs => ?_, fun i j _ hi => ?_, fun s => nofun⟩
  · cases hs
  · cases hs
  · cases hi

/-- Ownership with the tails at the ends of their queues; a slot without a socket has no packets, and
the tables of sockets and ports are in order. -/
structure Sound (n : Stack) : Prop where
  owned : ∃ nodes, Owned (Live n) (links n) (queues n) nodes
  vacant : ∀ s, (n.socket s).occupied = false → (n.socket s).rxQueue = .empty
  registered : Registered n

lemma Sound.exclusive (hs : Sound n) : Exclusive n := by
  obtain ⟨nodes, ho⟩ := hs.owned
  refine ⟨nodes, ho.chained, fun q => ⟨ho.count q, ?_, ?_⟩⟩
  · rw [(ho.listed q).head_eq_none, ho.count q, List.length_eq_zero_iff]
  · rw [(ho.listed q).tail_eq_none, ho.count q, List.length_eq_zero_iff]

lemma sound_boot : Sound .boot := by
  refine ⟨⟨fun _ => [], ⟨⟨fun q => ?_, nofun, fun b => ?_⟩, fun q => ?_⟩⟩, fun _ _ => rfl,
    registered_boot⟩
  · rw [queues_boot q]
    exact lists_empty
  · exact ⟨fun hb => absurd rfl hb, nofun⟩
  rw [queues_boot q]
  rfl

lemma Sound.still (hs : Sound n) (h : Still n n') : Sound n' := by
  obtain ⟨nodes, ho⟩ := hs.owned
  exact ⟨⟨nodes, h.unmoved.owned ho⟩, Vacant.same hs.vacant h.occupied h.queues_eq,
    hs.registered.still h⟩

/-! ### Connections -/

section

variable {ip : Ip} {p : Port} {proto : ℕ}

/-- **A port of its own** is denied to a socket that has none when the table is full. -/
lemma autoBind_error_iff : (∃ e, (autoBind proto ip s n).1 = .error e) ↔
    (n.socket s).localPort = 0 ∧ Full n := by
  have hiff : (∃ e, (bindPort proto ip 0 (n.socket s).socketId (n.socket s).ownerPid false n).1 =
      .error e) ↔ Refused n proto ip 0 false := bindPort_error_iff
  have hfull : Refused n proto ip 0 false ↔ Full n := or_iff_left fun hc => hc.1 rfl
  unfold autoBind
  dsimp only
  by_cases hp : (n.socket s).localPort = 0
  · rw [if_pos hp, and_iff_right hp, ← hfull, ← hiff]
    generalize bindPort proto ip 0 (n.socket s).socketId (n.socket s).ownerPid false n = x
    obtain ⟨r, m⟩ := x
    cases r <;> exact ⟨fun ⟨e, he⟩ => ⟨e, by cases he <;> rfl⟩, fun ⟨e, he⟩ => ⟨e, by cases he <;> rfl⟩⟩
  · rw [if_neg hp]
    exact iff_of_false (fun ⟨e, he⟩ => by cases he) fun hc => hp hc.1

/-- A socket that gets a port has one more binding, in a slot that was free. -/
lemma autoBind_port {r : Except SyscallError Unit} (h : autoBind proto ip s n = (r, n')) :
    n'.route = n.route ∧ ∀ j, n'.port j = n.port j ∨
      (n.port j).occupied = false ∧ (n'.port j).socketId = (n.socket s).socketId := by
  have hbind : ∀ {q m}, bindPort proto ip 0 (n.socket s).socketId (n.socket s).ownerPid false n =
      (q, m) → m.route = n.route ∧ ∀ j, m.port j = n.port j ∨
        (n.port j).occupied = false ∧ (m.port j).socketId = (n.socket s).socketId := by
    intro q m hb
    obtain ⟨next, ⟨rfl, -⟩ | ⟨i, q, hi, -, -, rfl, -⟩⟩ := bindPort_cases hb
    · exact ⟨rfl, fun _ => .inl rfl⟩
    refine ⟨rfl, fun j => ?_⟩
    by_cases hj : j = i
    · rw [hj]
      exact .inr ⟨hi, by dsimp only; rw [update_self]⟩
    · exact .inl (update_of_ne hj _ _)
  obtain rfl | ⟨q, m, hb, rfl | ⟨p, rfl⟩⟩ := autoBind_cases h
  · exact ⟨rfl, fun _ => .inl rfl⟩
  · exact hbind hb
  · exact (hbind hb :)

lemma connectLoopback_ok_iff (hsep : Separate n.port) {a : Answer Unit}
    (h : connectLoopback s ip p n = .ok (a, n')) : a = .returned (.ok ()) ↔
      ∃ j i, Bound (n.port j) 6 ip p ∧ (n.socket i).occupied ∧
        (n.socket i).socketId = (n.port j).socketId ∧ (n.socket i).state = .listen := by
  unfold connectLoopback at h
  split at h
  next hnone =>
    cases h
    refine iff_of_false nofun fun ⟨j, _, hj, _⟩ => ?_
    rw [hsep.lookupSocket_eq hj] at hnone
    cases hnone
  rename_i target htarget
  obtain ⟨j, hj, hid⟩ := lookupSocket_some htarget
  split at h
  next hnone =>
    cases h
    refine iff_of_false nofun fun ⟨k, i, hk, hocc, hi, hl⟩ => ?_
    rw [hsep.bound_unique hk hj, hid] at hi
    simpa [hocc, hi, hl] using List.find?_eq_none.mp hnone i (List.mem_finRange i)
  rename_i i hfind
  cases h
  have hi := List.find?_some hfind
  simp only [Bool.and_eq_true, decide_eq_true_eq] at hi
  exact iff_of_true rfl ⟨j, i, hj, hi.1.1, hi.1.2.trans hid.symm, hi.2⟩

lemma isLoopback_ne_zero (h : isLoopback ip) : ip ≠ 0 := by
  rintro rfl
  cases h

variable {nb : Bool} {slot : ℕ} {a : Answer Unit}

lemma connectTcp_ok_iff (hsep : Separate n.port) (h : connectTcp s ip p nb n = .ok (a, n')) :
    a = .returned (.ok ()) ↔ isLoopback ip ∧ (lookupRoute n ip).isSome ∧
      ∃ j i, Bound (n.port j) 6 ip p ∧ i ≠ s ∧ (n.socket i).occupied ∧
        (n.socket i).socketId = (n.port j).socketId ∧ (n.socket i).state = .listen := by
  unfold connectTcp at h
  split at h
  next hnone =>
    cases h
    exact iff_of_false (by simp) fun hc => by simpa [hnone] using hc.2.1
  rename_i hsome
  dsimp only at h
  generalize hm : Stack.setTcp _ _ _ = m at h
  have hsock : ∀ t ≠ s, m.socket t = n.socket t := fun t ht => by
    rw [← hm]
    simp [Stack.setSocket, Stack.setTcp, update_of_ne ht]
  have hstate : (m.socket s).state = .synSent := by
    rw [← hm]
    simp [Stack.setSocket, Stack.setTcp]
  have hport : m.port = n.port := by
    rw [← hm]
    rfl
  split at h
  next hloop =>
    rw [connectLoopback_ok_iff (hport ▸ hsep) h, hport, and_iff_right hloop,
      and_iff_right (by rw [hsome]; rfl)]
    -- the socket itself is connecting, so it is not the listener
    refine exists₂_congr fun j i => and_congr_right fun _ => ?_
    by_cases his : i = s
    · simp [his, hstate]
    · simp [his, hsock i his]
  rename_i hloop
  refine iff_of_false ?_ fun hc => hloop hc.1
  split at h
  · cases h
    simp
  · exact connectRound_ne_ok (by rw [hstate]; decide) h

/-- **A TCP connection comes about** exactly if it gets to a listener. -/
lemma connectSocket_ok_iff (hr : Registered n) (hs : slot < 16)
    (htcp : (n.socket ⟨slot, hs⟩).sockType = .tcp) (h : connectSocket slot ip p nb n = .ok (a, n')) :
    a = .returned (.ok ()) ↔ Meets n ⟨slot, hs⟩ ip p := by
  unfold connectSocket at h
  split at h
  swap
  · rename_i hbad
    cases h
    exact iff_of_false (by simp) fun hm => hbad ⟨hs, isLoopback_ne_zero hm.2.1, hm.1⟩
  rename_i hgood
  obtain ⟨-, h⟩ := locked_eq_ok h
  split at h
  next hocc =>
    cases h
    exact iff_of_false (by simp) fun hm => by simp [hm.2.2.1] at hocc
  rename_i hocc
  split at h
  next e m hb =>
    cases h
    obtain ⟨hport, hfull⟩ := autoBind_error_iff.mp ⟨e, congrArg Prod.fst hb⟩
    exact iff_of_false (by simp) fun hm => hm.2.2.2.1 hport hfull
  rename_i m hb
  have hroom : (n.socket ⟨slot, hs⟩).localPort = 0 → ¬Full n := fun hport hfull => by
    obtain ⟨e, he⟩ := autoBind_error_iff.mpr ⟨hport, hfull⟩
    rw [hb] at he
    cases he
  obtain ⟨hstill, hother⟩ := autoBind_still hb
  obtain ⟨hroute, hports⟩ := autoBind_port hb
  have hocc' : (n.socket ⟨slot, hs⟩).occupied := by simpa using hocc
  have htcp' : (m.socket ⟨slot, hs⟩).sockType = .tcp := (hstill.sockType _).trans htcp
  dsimp only at h
  generalize hm1 : Stack.setSocket _ _ _ = m1 at h
  have hsock : ∀ t ≠ ⟨slot, hs⟩, m1.socket t = n.socket t := fun t ht => by
    rw [← hm1, ← hother t ht]
    simp [Stack.setSocket, update_of_ne ht]
  have hport : m1.port = m.port := by
    rw [← hm1]
    rfl
  have hlook : lookupRoute m1 ip = lookupRoute n ip := by
    rw [← hm1]
    unfold lookupRoute
    exact congrArg (fun f => ((List.finRange 8).foldl (fun best i => betterRoute ip best (f i))
      { route := none, prefixLen := -1, metric := 2 ^ 32 - 1 }).route) hroute
  rw [show (m1.socket ⟨slot, hs⟩).sockType = .tcp by
    rw [← hm1]; simp [Stack.setSocket, htcp']] at h
  rw [connectTcp_ok_iff (hport ▸ hstill.separate hr.separate) h, hlook, hport]
  constructor
  · rintro ⟨hloop, hsome, j, i, hj, his, hi, hid, hl⟩
    rw [hsock i his] at hi hid hl
    refine ⟨hgood.2.2, hloop, hocc', hroom, hsome, j, i, ?_⟩
    -- the new binding is one of the socket itself, which has an id of its own
    rcases hports j with hsame | ⟨-, hnew⟩
    · rw [hsame] at hj hid
      exact ⟨hj, his, hi, hid, hl⟩
    · exact absurd (hr.distinct i _ hi hocc' (hid.trans hnew)) his
  rintro ⟨-, hloop, -, -, hsome, j, i, hj, his, hi, hid, hl⟩
  have hsame : m.port j = n.port j := (hports j).resolve_right fun hc => by
    rw [hj.1] at hc
    cases hc.1
  refine ⟨hloop, hsome, j, i, ?_⟩
  rw [hsame, hsock i his]
  exact ⟨hj, his, hi, hid, hl⟩

end

/-! ### Calls on sockets -/

lemma Sound.alloc (hs : Sound h.net) {sockType : SocketType} {protocol pid : ℕ}
    {r : Except SyscallError (SockIdx × ℕ)}
    (hr : allocSocket sockType protocol pid h = .ok (r, h')) : Sound h'.net := by
  obtain ⟨nodes, ho⟩ := hs.owned
  obtain ⟨hu, hv⟩ := allocSocket_unmoved hs.vacant hr
  exact ⟨⟨nodes, hu.owned ho⟩, hv, hs.registered.alloc hr⟩

lemma Sound.release (hs : Sound h.net) (hr : releaseSocket h s = .ok h') : Sound h'.net := by
  obtain ⟨nodes, ho⟩ := hs.owned
  have hd := releaseSocket_drained hr (ho.listed (.inl s)).chain
  exact ⟨⟨_, hd.owned ho⟩, hd.vacant hs.vacant, hs.registered.drained hd⟩

lemma Sound.teardown (hs : Sound h.net) {pid : ℕ} (hr : cleanupProcessSockets pid h = .ok h') :
    Sound h'.net := by
  obtain ⟨h1, hs1, hstill, -⟩ := cleanupProcessSockets_rule (P := fun g => Sound g.net)
    (fun hg hrel => hg.release hrel) hs hr
  exact hs1.still hstill

variable {nb : Bool}

lemma Sound.recvRound (hs : Sound n) {outLen : ℕ} {a : Answer (List Byte)}
    (h : recvRound s outLen nb n = .ok (a, n')) : Sound n' := by
  rcases recvRound_cases h with ⟨rfl, -⟩ | ⟨b, hrem, hcar, hocc, -⟩
  · exact hs
  obtain ⟨nodes, ho⟩ := hs.owned
  obtain ⟨l, hl⟩ := hrem.nodes_eq ho.toFiled
  refine ⟨⟨_, hrem.owned hl ho⟩, Vacant.update hs.vacant hcar.occupied hrem.queue_eq ?_,
    hs.registered.carried hcar⟩
  rintro t ⟨⟩
  exact hocc

/-- **The count without a packet** is the only thing wrong after a TCP connection. -/
lemma not_exclusive_of_counted {i : SockIdx} (hs : Sound n) (h : Counted n n' i) :
    ¬Exclusive n' := by
  rintro ⟨nodes', hch, hrec⟩
  obtain ⟨nodes, ho⟩ := hs.owned
  have hhead : (fun q => (queues n' q).head) = fun q => (queues n q).head := by
    funext q
    rw [h.queue_eq]
    exact update_keep Queue.head (by rfl) q
  have hlinks : links n' = links n := by
    unfold links
    rw [h.buf]
  rw [hhead, hlinks] at hch
  have hnodes := (ho.chained.unique hch).1
  have hcount := (hrec (.inl i)).1
  rw [h.queue_eq, update_self, ← hnodes, ← ho.count (.inl i)] at hcount
  have hlen := chain_length_le (ho.listed (.inl i)).chain
  rw [Fintype.card_fin, ← ho.count (.inl i)] at hlen
  dsimp only at hcount
  omega

lemma Sound.dispatched (hs : Sound n) {bytes : List Byte} (hc : Carried n n')
    (h : Dispatched n n' s b bytes)
    (hroute : (localTarget (n.socket s) n).isSome ∨ outInterface n s < 4) : Sound n' := by
  obtain ⟨nodes, ho⟩ := hs.owned
  have hreg := hs.registered.carried hc
  cases h with
  | delivered i target put =>
    refine ⟨⟨_, put.owned ho⟩, Vacant.update hs.vacant hc.occupied put.queue_eq ?_, hreg⟩
    rintro t ⟨⟩
    exact (localTarget_some target).2.1
  | queued j target out put =>
    exact ⟨⟨_, put.owned ho⟩, Vacant.update hs.vacant hc.occupied put.queue_eq nofun, hreg⟩
  | dropped target out unmoved =>
    exact ⟨⟨_, unmoved.owned ho⟩, Vacant.same hs.vacant hc.occupied unmoved.queue_eq, hreg⟩
  | stranded target out lost =>
    rw [target] at hroute
    rcases hroute with hr | hr
    · cases hr
    · exact absurd hr out

variable {slot : ℕ}

lemma Sound.send (hs : Sound h.net) {payload : List Byte}
    {r : Except SyscallError ℕ} (hr : sendSocket slot payload nb h.net = .ok (r, n')) :
    (Op.Harmless h (.send slot payload nb) ∧ Sound n') ∨
    (¬Op.Harmless h (.send slot payload nb) ∧ ¬Exclusive n') := by
  obtain ⟨nodes, ho⟩ := hs.owned
  rcases sendSocket_cases hr with ⟨rfl, -, hno⟩ | ⟨hs16, b, htakes, hb, hcar, hcases⟩
  · exact .inl ⟨fun hs16 ht => absurd ht (hno hs16), hs⟩
  rcases hcases with ⟨hfit, -, -, hlost⟩ | ⟨hfit, -, -, hdisp⟩
  · refine .inr ⟨fun hh => hfit (hh hs16 htakes).1, ?_⟩
    rintro ⟨nodes', hch, -⟩
    exact hlost.not_chained ho.toFiled hch
  by_cases hroute : (localTarget (h.net.socket ⟨slot, hs16⟩) h.net).isSome ∨
      outInterface h.net ⟨slot, hs16⟩ < 4
  · exact .inl ⟨fun _ _ => ⟨hfit, hroute⟩, hs.dispatched hcar hdisp hroute⟩
  refine .inr ⟨fun hh => hroute (hh hs16 htakes).2, ?_⟩
  rintro ⟨nodes', hch, -⟩
  cases hdisp with
  | delivered i target put => exact hroute (.inl (by rw [target]; rfl))
  | queued j target out put => exact hroute (.inr (by rw [out]; exact j.isLt))
  | dropped target out unmoved => exact hroute (.inr out)
  | stranded target out lost => exact lost.not_chained ho.toFiled hch

/-! ### Calls on interfaces -/

lemma Sound.enqueue (hs : Sound h.net) {d : Direction} {i k : ℕ} {r : Bool}
    (hr : enqueuePacket d i k h.net = .ok (r, n')) : (Op.Harmless h (.enqueue d i k) ∧ Sound n') ∨
    (¬Op.Harmless h (.enqueue d i k) ∧ ¬Exclusive n') := by
  obtain ⟨nodes, ho⟩ := hs.owned
  obtain ⟨⟨buf, iface, hn, haddr⟩, hcases⟩ := enqueuePacket_cases hr
  have hcar : Carried h.net n' := by
    rw [hn]
    exact carried_of_socket rfl rfl rfl rfl haddr
  rcases hcases with ⟨hrange, rfl⟩ | ⟨hi, hk, hcases⟩
  · exact .inl ⟨fun hi hk => absurd ⟨hi, hk⟩ hrange, hs⟩
  by_cases hfree : (h.net.buf ⟨k, hk⟩).state = .free
  · refine .inl ⟨fun _ _ => hfree, ?_⟩
    have hnot : ¬Live h.net ⟨k, hk⟩ := not_not.mpr hfree
    rcases hcases with ⟨hbuf, hq⟩ | hpush
    · have hun : Unmoved h.net n' := .of_freed hnot hbuf (fun _ _ => rfl) hq
      exact ⟨⟨_, hun.owned ho⟩, Vacant.same hs.vacant hcar.occupied hq, hs.registered.carried hcar⟩
    have hput := hpush.put hnot (fun _ _ => rfl) rfl
    exact ⟨⟨_, hput.owned ho⟩, Vacant.update hs.vacant hcar.occupied hput.queue_eq nofun,
      hs.registered.carried hcar⟩
  refine .inr ⟨fun hh => hfree (hh hi hk), ?_⟩
  rintro ⟨nodes', hch, -⟩
  rcases hcases with ⟨hbuf, hq⟩ | hpush
  · rw [hq] at hch
    have hlive : Live h.net ⟨k, hk⟩ := hfree
    refine ho.chained.not_chained_free hlive (fun c hc => ?_) ?_ hch
    · unfold links
      rw [hbuf, freePacketBuffer_other _ hc]
    unfold Live
    rw [hbuf]
    exact freePacketBuffer_free _ _
  rw [hpush.link_eq, hpush.queue_eq] at hch
  refine ho.toFiled.not_chained_push hfree (fun c hc => ?_) hch
  by_cases hcb : c = ⟨k, hk⟩
  · subst hcb
    exact hpush.live
  unfold Live
  rw [hpush.other c hcb]
  exact hc

lemma Sound.dequeue (hs : Sound h.net) (d : Direction) (i : ℕ) :
    (Op.Harmless h (.dequeue d i) ∧ Sound (dequeuePacket d i h.net).2) ∨
    (¬Op.Harmless h (.dequeue d i) ∧ ¬Exclusive (dequeuePacket d i h.net).2) := by
  obtain ⟨nodes, ho⟩ := hs.owned
  unfold dequeuePacket
  split
  next hi =>
    dsimp only
    split
    next hhead =>
      exact .inl ⟨fun _ => hhead, hs⟩
    rename_i b hhead
    refine .inr ⟨fun hh => ?_, ?_⟩
    · rw [hh hi] at hhead
      cases hhead
    rintro ⟨nodes', hch, -⟩
    have hfiled := ho.toFiled
    obtain ⟨l, hl⟩ := List.head?_eq_some_iff.mp
      ((ho.listed (.inr (⟨i, hi⟩, d))).head.symm.trans hhead)
    have hpop := hfiled.pop hl (fun c => (Iff.rfl : (Live h.net c ∧ c ≠ b) ↔ _)) fun c hc =>
      (update_of_ne hc _ _ : update (links h.net) b none c = _)
    rw [links_setBuf, queues_setBuf, queues_setIface (d := d) rfl] at hch
    have hlive := ((hpop.chained.unique hch).2 b).mpr ?_
    · exact hlive.2 rfl
    have hb : Live h.net b := (hfiled.in_use b).mpr ⟨_, by rw [hl]; exact List.mem_cons_self⟩
    unfold Live at hb ⊢
    simpa [Stack.setBuf] using hb
  rename_i hi
  exact .inl ⟨fun hi' => absurd hi' hi, hs⟩

/-! ### All calls -/

lemma onNet_ok {α : Type} {x : Except Halt (α × Stack)} (hr : onNet h x = .ok h') :
    ∃ a, x = .ok (a, h'.net) := by
  obtain ⟨⟨a, n⟩, hx, hr⟩ := bind_eq_ok hr
  cases hr
  exact ⟨a, hx⟩

variable {t : TSlot}

lemma parking_ok {α : Type} {x : Round α} {a : Answer α}
    (h : parking t slot x = .ok (a, n')) : ∃ n, x = .ok (a, n) ∧ Still n n' ∧
      n'.socketLock = n.socketLock := by
  unfold parking at h
  split at h
  next n =>
    cases h
    refine ⟨n, rfl, ?_⟩
    split
    · exact ⟨still_park t, rfl⟩
    · exact ⟨.refl n, rfl⟩
  · exact ⟨n', h, Still.refl n', rfl⟩

lemma still_bind {ip : Ip} {port : Port} {config : Bool}
    (hr : (Op.bind slot ip port config).run h = .ok h') : Still h.net h'.net := by
  obtain ⟨r, hbind⟩ := onNet_ok hr
  exact bindSocket_still hbind

lemma still_listen {backlog : ℕ} (hr : (Op.listen slot backlog).run h = .ok h') :
    Still h.net h'.net := by
  obtain ⟨r, hlisten⟩ := onNet_ok hr
  exact listenSocket_still hlisten

lemma still_resumeConnect (hr : (Op.resumeConnect t s).run h = .ok h') : Still h.net h'.net := by
  obtain ⟨a, hpark⟩ := onNet_ok hr
  obtain ⟨n, hround, hstill, -⟩ := parking_ok hpark
  obtain ⟨-, hround⟩ := locked_eq_ok hround
  have hn := connectRound_eq hround
  subst hn
  exact hstill

lemma connect_run {ip : Ip} {port : Port} (hr : (Op.connect t slot ip port nb).run h = .ok h') :
    Still h.net h'.net ∨ Accepts h.net h'.net := by
  obtain ⟨a, hpark⟩ := onNet_ok hr
  obtain ⟨n, hconn, hstill, -⟩ := parking_ok hpark
  rcases connectSocket_cases hconn with ⟨hn, -⟩ | ⟨-, -, -, i, hocc, hlisten, hcount⟩
  · exact .inl (hn.trans hstill)
  · exact .inr ⟨i, hocc, hlisten, .between (.refl _) hcount hstill⟩

/-- **Every call** keeps the invariant, or it is harmful and breaks the ownership. -/
lemma Sound.run (hs : Sound h.net) {op : Op} (hr : op.run h = .ok h') :
    (op.Harmless h ∧ Sound h'.net) ∨ (¬op.Harmless h ∧ ¬Exclusive h'.net) := by
  cases op with
  | alloc sockType protocol pid =>
    obtain ⟨⟨r, h1⟩, halloc, hr⟩ := bind_eq_ok hr
    cases hr
    exact .inl ⟨trivial, hs.alloc halloc⟩
  | bind slot ip port config => exact .inl ⟨trivial, hs.still (still_bind hr)⟩
  | listen slot backlog => exact .inl ⟨trivial, hs.still (still_listen hr)⟩
  | connect t slot ip port nb =>
    obtain ⟨a, hpark⟩ := onNet_ok hr
    obtain ⟨n, hconn, hstill, -⟩ := parking_ok hpark
    rcases connectSocket_cases hconn with ⟨hn, hne⟩ | ⟨hs16, htcp, ha, i, -, -, hcount⟩
    · refine .inl ⟨fun hs16 htcp hm => hne hs16 htcp ?_, hs.still (hn.trans hstill)⟩
      exact (connectSocket_ok_iff hs.registered hs16 htcp hconn).mpr hm
    refine .inr ⟨fun hh => hh hs16 htcp ?_,
      not_exclusive_of_counted hs (.between (.refl _) hcount hstill)⟩
    exact (connectSocket_ok_iff hs.registered hs16 htcp hconn).mp ha
  | resumeConnect t s => exact .inl ⟨trivial, hs.still (still_resumeConnect hr)⟩
  | send slot payload nb =>
    obtain ⟨r, hsend⟩ := onNet_ok hr
    exact hs.send hsend
  | recv t slot outLen nb =>
    obtain ⟨a, hpark⟩ := onNet_ok hr
    obtain ⟨n, hrecv, hstill, -⟩ := parking_ok hpark
    refine .inl ⟨trivial, Sound.still ?_ hstill⟩
    unfold recvSocket at hrecv
    split at hrecv
    · exact hs.recvRound hrecv
    cases hrecv
    exact hs
  | close slot =>
    obtain ⟨⟨r, h1⟩, hclose, hr⟩ := bind_eq_ok hr
    cases hr
    rcases freeSocket_cases hclose with rfl | ⟨s, hrel⟩
    · exact .inl ⟨trivial, hs⟩
    · exact .inl ⟨trivial, hs.release hrel⟩
  | enqueue d ifIdx bufIdx =>
    obtain ⟨r, henq⟩ := onNet_ok hr
    exact hs.enqueue henq
  | dequeue d ifIdx =>
    cases hr
    exact hs.dequeue d ifIdx
  | teardown pid => exact .inl ⟨trivial, hs.teardown hr⟩

/-- A receive does not follow a head that is not there. -/
lemma Exclusive.recv_ne_panic (hx : Exclusive h.net) (t : TSlot) (slot outLen : ℕ) (nb : Bool) :
    (Op.recv t slot outLen nb).run h ≠ .error .panic := by
  have hround : ∀ s, recvRound s outLen nb h.net ≠ .error .panic := by
    intro s he
    obtain ⟨nodes, -, hrec⟩ := hx
    unfold recvRound locked at he
    split at he
    · cases he
    dsimp only at he
    iterate 2
      split at he
      · cases he
    split at he
    · unfold takePacket at he
      dsimp only at he
      split at he
      next hhead =>
        have hzero : (h.net.socket s).rxQueue.count = 0 := (hrec (.inl s)).2.1.mp hhead
        omega
      · cases he
    iterate 2
      split at he
      · cases he
    · split at he <;> cases he
  have hsocket : recvSocket slot outLen nb h.net ≠ .error .panic := by
    unfold recvSocket
    split
    · exact hround _
    · exact nofun
  intro he
  change onNet h (parking t slot (recvSocket slot outLen nb h.net)) = .error .panic at he
  cases hr : recvSocket slot outLen nb h.net with
  | error e =>
    rw [hr] at he
    cases he
    exact hsocket hr
  | ok r =>
    rw [hr] at he
    obtain ⟨a, n⟩ := r
    cases a <;> cases he

def Booted (h : Host) : Prop := h.net = .boot

def Next (h h' : Host) : Prop := ∃ op : Op, op.Harmless h ∧ op.run h = .ok h'

lemma sound_of_reach (hr : Reach Booted Next h) : Sound h.net := by
  refine hr.invariant (I := fun h => Sound h.net) (fun g hg => ?_) ?_
  · rw [hg]
    exact sound_boot
  rintro g g' hg ⟨op, hharm, hrun⟩
  rcases hg.run hrun with ⟨-, hs⟩ | ⟨hn, -⟩
  · exact hs
  · exact absurd hharm hn

/-- **Ownership of the buffers.** As long as the calls are harmless, every buffer in use is in exactly
one queue and no receive fails; the first harmful call ends this. -/
theorem packet_buffers_owned (hr : Reach Booted Next h) :
    Exclusive h.net ∧
    (∀ t slot outLen nb, (Op.recv t slot outLen nb).run h ≠ .error .panic) ∧
    ∀ (op : Op) (h' : Host), op.run h = .ok h' → (Exclusive h'.net ↔ op.Harmless h) := by
  have hs := sound_of_reach hr
  refine ⟨hs.exclusive, hs.exclusive.recv_ne_panic, fun op h' hrun => ?_⟩
  rcases hs.run hrun with ⟨hharm, hs'⟩ | ⟨hharm, hx⟩
  · exact ⟨fun _ => hharm, fun _ => hs'.exclusive⟩
  · exact ⟨fun hx' => absurd hx' hx, fun hh => absurd hh hharm⟩

def twoHosts : Host := { kernel := Ipc.Steps.twoProcesses.kernel, net := .boot }

/-- A call that meets a condition. -/
def Op.runIf (P : Host → Op → Prop) [∀ h, DecidablePred (P h)] (h : Host) (op : Op) :
    Except Halt Host :=
  if P h op then op.run h else .error .panic

lemma Op.runIf_ok {P : Host → Op → Prop} [∀ h, DecidablePred (P h)] (h : Host) (op : Op) (h' : Host)
    (hr : op.runIf P h = .ok h') : ∃ op, P h op ∧ op.run h = .ok h' := by
  unfold Op.runIf at hr
  split at hr
  next hP => exact ⟨op, hP, hr⟩
  · cases hr

instance (n : Stack) : DecidablePred (Live n) :=
  fun b => inferInstanceAs (Decidable ((n.buf b).state ≠ .free))

instance (n : Stack) (s : SockIdx) (payload : List Byte) : Decidable (Takes n s payload) :=
  decidable_of_iff _ (takes_iff n s payload).symm

instance (t : SocketType) (payload : List Byte) : Decidable (Fits t payload) := by
  cases t <;> unfold Fits <;> infer_instance

instance (h : Host) : DecidablePred (Op.Harmless h) := fun op => by
  cases op <;> unfold Op.Harmless <;> infer_instance

/-- A datagram of the second process for a socket of the first one. -/
def delivered : List Op :=
  [.alloc .udp 17 1, .alloc .udp 17 2, .bind 0 0 5000 false, .connect 2 1 loopbackIp 5000 false,
    .send 1 [1, 2, 3] false]

theorem packet_buffers_owned_delivered :
    ∃ h, delivered.foldlM (fun h op => op.runIf (fun h op => op.Harmless h) h) twoHosts = .ok h ∧
      (h.net.socket 0).rxQueue.count = 1 ∧ Exclusive h.net ∧
      (∀ t slot outLen nb, (Op.recv t slot outLen nb).run h ≠ .error .panic) ∧
      ∀ (op : Op) (h' : Host), op.run h = .ok h' → (Exclusive h'.net ↔ op.Harmless h) := by
  obtain ⟨h, hr, hcount⟩ := exists_ok (Q := fun h : Host => (h.net.socket 0).rxQueue.count = 1)
    (x := delivered.foldlM (fun h op => op.runIf (fun h op => op.Harmless h) h) twoHosts)
    (by decide +kernel)
  exact ⟨h, hr, hcount, packet_buffers_owned
    (Reach.foldlM (fun h op h' => Op.runIf_ok h op h')
      (.start (show twoHosts.net = .boot from rfl)) hr)⟩

/-- A listener of the first process and a TCP socket of the second one. -/
def listening : List Op := [.alloc .tcp 0 1, .listen 0 8, .alloc .tcp 0 2]

lemma reach_listening (hr : listening.foldlM Op.run twoHosts = .ok h) : Reach Booted Next h := by
  obtain ⟨h1, hr1, hr⟩ := bind_eq_ok hr
  obtain ⟨h2, hr2, hr⟩ := bind_eq_ok hr
  obtain ⟨h3, hr3, hr⟩ := bind_eq_ok hr
  cases hr
  have hstart : Reach Booted Next twoHosts := .start (show twoHosts.net = .boot from rfl)
  have hn1 : Next twoHosts h1 := ⟨.alloc .tcp 0 1, trivial, hr1⟩
  have hn2 : Next h1 h2 := ⟨.listen 0 8, trivial, hr2⟩
  have hn3 : Next h2 h := ⟨.alloc .tcp 0 2, trivial, hr3⟩
  exact ((hstart.next hn1).next hn2).next hn3

/-- **A connection to the listener** counts a packet in its queue, and the next receive follows the
head that is not there. -/
theorem connect_counts_no_packet :
    ∃ h h', Reach Booted Next h ∧ (Op.connect 2 1 loopbackIp 49152 false).run h = .ok h' ∧
      ¬Exclusive h'.net ∧ (Op.recv 1 0 64 false).run h' = .error .panic := by
  obtain ⟨h', hr, hq, hocc, herr, hlock⟩ : ∃ h' : Host,
      (listening.foldlM Op.run twoHosts >>= fun h =>
        (Op.connect 2 1 loopbackIp 49152 false).run h) = .ok h' ∧
      (h'.net.socket 0).rxQueue = { head := none, tail := none, count := 1 } ∧
      (h'.net.socket 0).occupied = true ∧ (h'.net.socket 0).error = 0 ∧
      h'.net.socketLock = false := exists_ok (by decide +kernel)
  obtain ⟨h, hr, hconn⟩ := bind_eq_ok hr
  have hround : recvRound 0 64 false h'.net = .error .panic := by
    unfold recvRound locked takePacket
    simp [hq, hocc, herr, hlock]
  refine ⟨h, h', reach_listening hr, hconn, ?_, ?_⟩
  swap
  · show onNet h' (parking 1 0 (recvRound 0 64 false h'.net)) = _
    rw [hround]
    rfl
  rintro ⟨nodes, -, hrec⟩
  have hhead := (hrec (.inl 0)).2.1
  rw [show queues h'.net (.inl 0) = (h'.net.socket 0).rxQueue from rfl, hq] at hhead
  exact absurd (hhead.mp rfl) (by decide)

end ProjectZero.Net.Ownership
