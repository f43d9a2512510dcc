import ProjectZero.Net.Filing

/-! # What the calls do to the queues

One lemma for each call on a socket or an interface: which of the changes of the family of queues it
makes, and what else of the sockets it changes. -/

namespace ProjectZero.Net.Effects

open Lib.Layout Lib.Linked Lib.Queues Lib.Run Lib.Update ProjectZero.Tables Ipc.Object Net.Tables
open Packets Ports Transport Socket Filing

variable {n n' n₁ : Stack} {b c : BufIdx} {s : SockIdx}

/-! ### Calls that leave the queues alone -/

/-- A UDP socket is not a listener and has no error. -/
def Plain (sock : SocketSlot) : Prop := sock.sockType = .udp → sock.state ≠ .listen ∧ sock.error = 0

/-- Packets and the identity of the sockets stay, and so do the rules of the tables. -/
structure Steady (n n' : Stack) : Prop where
  buf : n'.buf = n.buf
  iface : n'.iface = n.iface
  occupied : ∀ s, (n'.socket s).occupied = (n.socket s).occupied
  socketId : ∀ s, (n'.socket s).socketId = (n.socket s).socketId
  sockType : ∀ s, (n'.socket s).sockType = (n.socket s).sockType
  nextSocketId : n.nextSocketId ≤ n'.nextSocketId
  plain : (∀ s, Plain (n.socket s)) → ∀ s, Plain (n'.socket s)
  separate : Separate n.port → Separate n'.port

/-- The queues stay as well. -/
structure Still (n n' : Stack) : Prop extends Steady n n' where
  queue : ∀ s, (n'.socket s).rxQueue = (n.socket s).rxQueue

lemma Still.of_socket (hb : n'.buf = n.buf) (hi : n'.iface = n.iface)
    (hs : n'.socket = n.socket) (hk : n.nextSocketId ≤ n'.nextSocketId)
    (hp : Separate n.port → Separate n'.port) : Still n n' :=
  ⟨⟨hb, hi, fun s => by rw [hs], fun s => by rw [hs], fun s => by rw [hs], hk,
    by rw [hs]; exact id, hp⟩, fun s => by rw [hs]⟩

lemma Still.refl (n : Stack) : Still n n := Still.of_socket rfl rfl rfl le_rfl id

lemma Steady.trans (h : Steady n n₁) (h' : Steady n₁ n') : Steady n n' where
  buf := h'.buf.trans h.buf
  iface := h'.iface.trans h.iface
  occupied s := (h'.occupied s).trans (h.occupied s)
  socketId s := (h'.socketId s).trans (h.socketId s)
  sockType s := (h'.sockType s).trans (h.sockType s)
  nextSocketId := h.nextSocketId.trans h'.nextSocketId
  plain hp := h'.plain (h.plain hp)
  separate hp := h'.separate (h.separate hp)

lemma Still.trans (h : Still n n₁) (h' : Still n₁ n') : Still n n' :=
  ⟨h.toSteady.trans h'.toSteady, fun s => (h'.queue s).trans (h.queue s)⟩

lemma Still.queues_eq (h : Still n n') : queues n' = queues n := by
  funext q
  cases q with
  | inl s => exact h.queue s
  | inr p =>
    unfold queues
    rw [h.iface]

lemma Still.unmoved (h : Still n n') : Unmoved n n' := Unmoved.of_buf h.buf h.queues_eq

variable {sock : SocketSlot}

lemma plain_setSocket (h : ∀ t, Plain (n.socket t)) (hs : Plain sock) :
    ∀ t, Plain ((n.setSocket s sock).socket t) :=
  update_all (P := fun _ x => Plain x) hs fun t _ => h t

lemma still_setSocket (hq : sock.rxQueue = (n.socket s).rxQueue)
    (ho : sock.occupied = (n.socket s).occupied) (hi : sock.socketId = (n.socket s).socketId)
    (ht : sock.sockType = (n.socket s).sockType) (hp : Plain (n.socket s) → Plain sock) :
    Still n (n.setSocket s sock) :=
  ⟨⟨rfl, rfl, update_keep SocketSlot.occupied ho, update_keep SocketSlot.socketId hi,
    update_keep SocketSlot.sockType ht, le_rfl, fun h => plain_setSocket h (hp (h s)), id⟩,
    update_keep SocketSlot.rxQueue hq⟩

lemma still_setTcp (cb : TcpControlBlock) : Still n (n.setTcp s cb) :=
  Still.of_socket rfl rfl rfl le_rfl id

lemma still_wakeAll : Still n (n.wakeAll s) := Still.of_socket rfl rfl rfl le_rfl id

lemma still_park (t : TSlot) : Still n (n.park s t) := Still.of_socket rfl rfl rfl le_rfl id

lemma still_locked : Still n { n with socketLock := true } :=
  Still.of_socket rfl rfl rfl le_rfl id

variable {protocol pid slot : ℕ} {ip : Ip} {p : Port}

lemma bindPort_still {socketId : ℕ} {config : Bool} {r : Except SyscallError Port}
    (h : bindPort protocol ip p socketId pid config n = (r, n')) :
    Still n n' ∧ n'.socket = n.socket := by
  obtain ⟨next, ⟨rfl, -⟩ | ⟨i, q, -, -, hfree, rfl, -⟩⟩ := bindPort_cases h
  · exact ⟨Still.of_socket rfl rfl rfl le_rfl id, rfl⟩
  · exact ⟨Still.of_socket rfl rfl rfl le_rfl fun hsep => hsep.enter rfl hfree, rfl⟩

variable {r : Except SyscallError Unit}

lemma autoBind_cases {proto : ℕ} (h : autoBind proto ip s n = (r, n')) :
    n' = n ∨ ∃ q m, bindPort proto ip 0 (n.socket s).socketId (n.socket s).ownerPid false n = (q, m) ∧
      (n' = m ∨ ∃ p, n' = m.setSocket s { n.socket s with localPort := p }) := by
  unfold autoBind at h
  dsimp only at h
  split at h
  · split at h
    next hb =>
      cases h
      exact .inr ⟨_, _, hb, .inl rfl⟩
    rename_i hb
    cases h
    exact .inr ⟨_, _, hb, .inr ⟨_, rfl⟩⟩
  cases h
  exact .inl rfl

lemma autoBind_still {proto : ℕ} (h : autoBind proto ip s n = (r, n')) :
    Still n n' ∧ ∀ t ≠ s, n'.socket t = n.socket t := by
  obtain rfl | ⟨q, m, hb, hn⟩ := autoBind_cases h
  · exact ⟨Still.refl _, fun _ _ => rfl⟩
  obtain ⟨hm, hsock⟩ := bindPort_still hb
  obtain rfl | ⟨p, rfl⟩ := hn
  · exact ⟨hm, fun t _ => congrFun hsock t⟩
  rw [← hsock]
  exact ⟨hm.trans (still_setSocket rfl rfl rfl rfl id), fun t ht => update_of_ne ht _ _⟩

lemma bindSocket_still {config : Bool}
    {r : Except SyscallError Port} (h : bindSocket slot ip p config n = .ok (r, n')) :
    Still n n' := by
  unfold bindSocket at h
  split at h
  · obtain ⟨-, h⟩ := locked_eq_ok h
    iterate 2
      split at h
      · cases h
        exact .refl n
    split at h
    next hb =>
      cases h
      exact (bindPort_still hb).1.trans still_locked
    rename_i hb
    cases h
    refine (bindPort_still hb).1.trans (still_setSocket ?_ ?_ ?_ ?_ fun hp hu => ?_)
    iterate 4 split <;> rfl
    split at hu
    next hudp =>
      rw [if_pos hudp]
      exact ⟨nofun, (hp hudp).2⟩
    rename_i hudp
    exact absurd hu hudp
  cases h
  exact .refl n

lemma listenSocket_still {backlog : ℕ}
    (h : listenSocket slot backlog n = .ok (r, n')) : Still n n' := by
  unfold listenSocket at h
  split at h
  next hs =>
    obtain ⟨-, h⟩ := locked_eq_ok h
    split at h
    · cases h
      exact .refl n
    rename_i hty
    split at h
    next hb =>
      cases h
      exact (autoBind_still hb).1.trans still_locked
    rename_i m hb
    cases h
    refine (autoBind_still hb).1.trans (still_setSocket rfl rfl rfl rfl fun _ hu => ?_)
    have htype := (autoBind_still hb).1.sockType ⟨slot, hs⟩
    rw [show (m.socket ⟨slot, hs⟩).sockType = .udp from hu] at htype
    exact absurd htype.symm fun hu' => hty (.inr (by rw [hu']; exact nofun))
  cases h
  exact .refl n

/-! ### Connection -/

/-- The count of the queue of the socket goes up, without a packet. -/
structure Counted (n n' : Stack) (i : SockIdx) : Prop extends Steady n n' where
  queue_eq : queues n' = update (queues n) (.inl i)
    { queues n (.inl i) with count := min ((queues n (.inl i)).count + 1) 65535 }

variable {i : SockIdx}

lemma Counted.between {n₂ : Stack} (h : Still n n₁) (hc : Counted n₁ n₂ i) (h' : Still n₂ n') :
    Counted n n' i :=
  ⟨(h.toSteady.trans hc.toSteady).trans h'.toSteady, by rw [h'.queues_eq, hc.queue_eq, h.queues_eq]⟩

variable {a : Answer Unit}

lemma connectRound_eq (h : connectRound s n = .ok (a, n')) : n' = n := by
  unfold connectRound at h
  dsimp only at h
  split at h
  · cases h
    rfl
  · split at h <;> · cases h; rfl

lemma connectRound_ne_ok (hs : (n.socket s).state ≠ .established)
    (h : connectRound s n = .ok (a, n')) : a ≠ .returned (.ok ()) := by
  unfold connectRound at h
  rw [if_neg hs] at h
  split at h
  · cases h
    exact nofun
  cases h
  exact nofun

/-- A count that went up for a listener. -/
def Accepts (n n' : Stack) : Prop :=
  ∃ i, (n.socket i).occupied ∧ (n.socket i).state = .listen ∧ Counted n n' i

lemma connectLoopback_cases
    (htcp : (n.socket s).sockType = .tcp) (h : connectLoopback s ip p n = .ok (a, n')) :
    (a ≠ .returned (.ok ()) ∧ Still n n') ∨ (a = .returned (.ok ()) ∧ Accepts n n') := by
  have hplain : ∀ {st : SocketState} {err : ℤ} {q : Queue BufIdx}, Plain (n.socket s) →
      Plain { n.socket s with state := st, error := err, rxQueue := q } := by
    intro st err q _ hu
    rw [show (n.socket s).sockType = .udp from hu] at htcp
    cases htcp
  have hrefuse : ∀ {a : Answer Unit}, refuse s n = .ok (a, n') →
      a ≠ .returned (.ok ()) ∧ Still n n' := by
    intro a hr
    cases hr
    exact ⟨nofun, still_setSocket rfl rfl rfl rfl hplain⟩
  unfold connectLoopback at h
  iterate 2
    split at h
    · exact .inl (hrefuse h)
  rename_i i hi
  have hfound := List.find?_some hi
  simp only [Bool.and_eq_true, decide_eq_true_eq] at hfound
  cases h
  refine .inr ⟨rfl, i, hfound.1.1, hfound.2, ?_⟩
  generalize hq : ({ (n.socket i).rxQueue with
    count := min ((n.socket i).rxQueue.count + 1) 65535 } : Queue BufIdx) = q
  have hcounted : Counted n (n.setSocket i { n.socket i with rxQueue := q }) i := by
    refine ⟨⟨rfl, rfl, update_keep SocketSlot.occupied (by rfl),
      update_keep SocketSlot.socketId (by rfl), update_keep SocketSlot.sockType (by rfl), le_rfl,
      fun hp => plain_setSocket hp (hp i), id⟩, ?_⟩
    rw [← hq]
    exact queues_setSocket _
  refine .between (.refl n) hcounted (Still.trans ?_ (still_setTcp _))
  refine (still_wakeAll (s := i)).trans (still_setSocket rfl rfl rfl rfl fun _ hu => ?_)
  have htype : ((n.setSocket i { n.socket i with rxQueue := q }).socket s).sockType = .udp := hu
  rw [hcounted.sockType s, htcp] at htype
  cases htype

variable {nb : Bool}

lemma connectTcp_keeps (h : connectTcp s ip p nb n = .ok (a, n')) :
    n'.iface = n.iface ∧ n'.port = n.port ∧ n'.socketLock = n.socketLock := by
  unfold connectTcp at h
  split at h
  · cases h
    exact ⟨rfl, rfl, rfl⟩
  dsimp only at h
  split at h
  · unfold connectLoopback at h
    iterate 2
      split at h
      · cases h
        exact ⟨rfl, rfl, rfl⟩
    cases h
    exact ⟨rfl, rfl, rfl⟩
  split at h
  · cases h
    exact ⟨rfl, rfl, rfl⟩
  rw [connectRound_eq h]
  exact ⟨rfl, rfl, rfl⟩

lemma connectTcp_cases
    (hty : (n.socket s).sockType = .tcp) (h : connectTcp s ip p nb n = .ok (a, n')) :
    (a ≠ .returned (.ok ()) ∧ Still n n') ∨
    (a = .returned (.ok ()) ∧ ∃ i, i ≠ s ∧ (n.socket i).occupied ∧
      (n.socket i).state = .listen ∧ Counted n n' i) := by
  unfold connectTcp at h
  split at h
  · cases h
    exact .inl ⟨by simp, Still.refl n⟩
  rename_i ifId g _
  dsimp only at h
  generalize hm : (n.setSocket s { n.socket s with boundInterface := ifId, state := .synSent }).setTcp
    s { n.tcp s with
      sndNxt := initialSequence (n.socket s).socketId + 1,
      sndUna := initialSequence (n.socket s).socketId } = m at h
  have hstill : Still n m := by
    rw [← hm]
    refine .trans ?_ (still_setTcp _)
    refine still_setSocket rfl rfl rfl rfl fun _ hu => ?_
    rw [show (n.socket s).sockType = .udp from hu] at hty
    cases hty
  have hstate : (m.socket s).state = .synSent := by
    rw [← hm]
    simp [Stack.setSocket, Stack.setTcp]
  have hother : ∀ t ≠ s, m.socket t = n.socket t := by
    intro t ht
    rw [← hm]
    exact update_of_ne ht _ _
  split at h
  · rcases connectLoopback_cases ((hstill.sockType s).trans hty) h with
      ⟨ha, h'⟩ | ⟨ha, i, hocc, hlisten, hi⟩
    · exact .inl ⟨ha, hstill.trans h'⟩
    have his : i ≠ s := by
      rintro rfl
      rw [hstate] at hlisten
      cases hlisten
    rw [hother i his] at hocc hlisten
    exact .inr ⟨ha, i, his, hocc, hlisten, .between hstill hi (.refl _)⟩
  split at h
  · cases h
    exact .inl ⟨by simp, hstill⟩
  have hn := connectRound_eq h
  subst hn
  refine .inl ⟨connectRound_ne_ok ?_ h, hstill⟩
  simp [hstate]

/-- **`connect_socket`** leaves the queues alone, unless it connects a TCP socket. -/
lemma connectSocket_cases (h : connectSocket slot ip p nb n = .ok (a, n')) :
    (Still n n' ∧ ∀ hs : slot < 16, (n.socket ⟨slot, hs⟩).sockType = .tcp →
      a ≠ .returned (.ok ())) ∨
    (∃ hs : slot < 16, (n.socket ⟨slot, hs⟩).sockType = .tcp ∧ a = .returned (.ok ()) ∧
      Accepts n n') := by
  unfold connectSocket at h
  split at h
  next hs =>
    obtain ⟨-, h⟩ := locked_eq_ok h
    split at h
    · cases h
      exact .inl ⟨Still.refl n, nofun⟩
    split at h
    next hb =>
      cases h
      exact .inl ⟨(autoBind_still hb).1.trans still_locked, nofun⟩
    rename_i m hb
    obtain ⟨hauto, hother⟩ := autoBind_still hb
    dsimp only at h
    generalize hm1 : m.setSocket ⟨slot, hs.1⟩ { m.socket ⟨slot, hs.1⟩ with
      remoteIp := ip, remotePort := p } = m1 at h
    have hstill : Still n m1 := by
      rw [← hm1]
      exact hauto.trans (still_setSocket rfl rfl rfl rfl id)
    have htype1 := hstill.sockType ⟨slot, hs.1⟩
    split at h
    next hty =>
      cases h
      refine .inl ⟨hstill.trans (still_setSocket rfl rfl rfl rfl fun hp hu => ?_), fun _ ht => ?_⟩
      · exact ⟨nofun, (hp hu).2⟩
      rw [← htype1, hty] at ht
      cases ht
    next hty =>
      rcases connectTcp_cases hty h with ⟨ha, h'⟩ | ⟨ha, i, his, hocc, hlisten, hi⟩
      · exact .inl ⟨hstill.trans h', fun _ _ => ha⟩
      have hi1 : m1.socket i = n.socket i := by
        rw [← hm1]
        exact (update_of_ne his _ _).trans (hother i his)
      rw [hi1] at hocc hlisten
      exact .inr ⟨hs.1, htype1.symm.trans hty, ha, i, hocc, hlisten, .between hstill hi (.refl _)⟩
    rename_i htcp
    cases h
    refine .inl ⟨hstill, fun _ ht => ?_⟩
    exact absurd (htype1.trans ht) htcp
  cases h
  exact .inl ⟨Still.refl n, nofun⟩

/-! ### Allocation and release -/

variable {h h' : Host}

/-- **`alloc_socket`** fills a free slot with a new socket, or leaves the sockets alone. -/
lemma allocSocket_cases {sockType : SocketType} {r : Except SyscallError (SockIdx × ℕ)}
    (hr : allocSocket sockType protocol pid h = .ok (r, h')) :
    (h'.net.buf = h.net.buf ∧ h'.net.iface = h.net.iface ∧ h'.net.port = h.net.port ∧
      h.net.nextSocketId ≤ h'.net.nextSocketId) ∧
    ((h'.net.socket = h.net.socket ∧ ∃ e, r = .error e) ∨
      ∃ s sock, freeSlot h.net = some s ∧ (h.net.socket s).occupied = false ∧
        h'.net.socket = update h.net.socket s sock ∧ sock.rxQueue = .empty ∧ Plain sock ∧
        ((sock = .empty ∧ ∃ e, r = .error e) ∨
          (sock.occupied ∧ sock.socketId = h.net.nextSocketId ∧
            h'.net.nextSocketId = h.net.nextSocketId + 1 ∧ r = .ok (s, h.net.nextSocketId)))) := by
  unfold allocSocket at hr
  split at hr
  · cases hr
    exact ⟨⟨rfl, rfl, rfl, le_rfl⟩, .inl ⟨rfl, _, rfl⟩⟩
  obtain ⟨-, hr⟩ := locked_eq_ok hr
  split at hr
  · cases hr
    exact ⟨⟨rfl, rfl, rfl, Nat.le_succ _⟩, .inl ⟨rfl, _, rfl⟩⟩
  rename_i s hfree
  have hocc : (h.net.socket s).occupied = false := by
    have := List.find?_some hfree
    simpa using this
  have htwice : ∀ x y : SocketSlot, update (update h.net.socket s x) s y =
      update h.net.socket s y := by
    intro x y
    simp
  split at hr
  · cases hr
    exact ⟨⟨rfl, rfl, rfl, Nat.le_succ _⟩,
      .inr ⟨s, .empty, hfree, hocc, htwice _ _, rfl, nofun, .inl ⟨rfl, _, rfl⟩⟩⟩
  cases hr
  refine ⟨⟨rfl, rfl, rfl, Nat.le_succ _⟩,
    .inr ⟨s, _, hfree, hocc, htwice _ _, rfl, fun _ => ⟨?_, rfl⟩, .inr ⟨rfl, rfl, rfl, rfl⟩⟩⟩
  show (if sockType = .tcp then SocketState.closed else SocketState.udpUnbound) ≠ .listen
  split <;> exact nofun

lemma allocSocket_unmoved {sockType : SocketType}
    {r : Except SyscallError (SockIdx × ℕ)} (hv : Vacant h.net)
    (hr : allocSocket sockType protocol pid h = .ok (r, h')) :
    Unmoved h.net h'.net ∧ Vacant h'.net := by
  obtain ⟨⟨hbuf, hif, -, -⟩, ⟨hsock, -⟩ | ⟨s, sock, -, hocc, hsock, hempty, -, -⟩⟩ :=
    allocSocket_cases hr
  · refine ⟨.of_buf hbuf (queues_congr hsock hif), ?_⟩
    rw [Vacant, hsock]
    exact hv
  refine ⟨.of_buf hbuf ?_, ?_⟩
  · refine (queues_congr (n := h.net.setSocket s sock) hsock hif).trans ?_
    exact queues_setSocket_same (hempty.trans (hv s hocc).symm)
  rw [Vacant, hsock]
  exact update_all (P := fun _ (x : SocketSlot) => x.occupied = false → x.rxQueue = .empty)
    (fun _ => hempty) fun t _ => hv t

/-- The buffers `l` are free and the slot `s` is empty. -/
structure Drained (n n' : Stack) (s : SockIdx) (l : List BufIdx) : Prop where
  freed : ∀ c ∈ l, ¬Live n' c
  other : ∀ c ∉ l, n'.buf c = n.buf c
  socket : n'.socket = update n.socket s .empty
  iface : n'.iface = n.iface
  nextSocketId : n'.nextSocketId = n.nextSocketId
  separate : Separate n.port → Separate n'.port
  port : ∀ j, (n'.port j).occupied → n'.port j = n.port j

variable {l : List BufIdx}

lemma releaseSocket_eq (hr : releaseSocket h s = .ok h') : ∃ k buf,
    drainBuffers (maxPacketBuffers + 1) (h.net.socket s).rxQueue.head h.net =
      { h.net with buf := buf } ∧
    h' = { kernel := k, net := (((unbindAllBySocket (h.net.socket s).socketId
      { h.net with buf := buf }).wakeAll s).setSocket s .empty).setTcp s .empty } ∧
    ∀ j, (h'.net.port j).occupied → h'.net.port j = h.net.port j := by
  obtain ⟨buf, hbuf⟩ := drainBuffers_eq (maxPacketBuffers + 1) (h.net.socket s).rxQueue.head h.net
  unfold releaseSocket at hr
  dsimp only at hr
  rw [hbuf] at hr
  have hport : ∀ j, ((unbindAllBySocket (h.net.socket s).socketId
    { h.net with buf := buf }).port j).occupied → _ := fun _ => unbindWhere_port
  split at hr
  · cases hr
    exact ⟨_, buf, hbuf, rfl, hport⟩
  obtain ⟨k, -, hr⟩ := bind_eq_ok hr
  cases hr
  exact ⟨k, buf, hbuf, rfl, hport⟩

lemma releaseSocket_drained (hr : releaseSocket h s = .ok h')
    (hl : Chain (links h.net) (h.net.socket s).rxQueue.head l) : Drained h.net h'.net s l := by
  have hlen := chain_length_le hl
  rw [Fintype.card_fin] at hlen
  obtain ⟨hin, hout⟩ := drainBuffers_chain (k := maxPacketBuffers + 1) hl (Nat.lt_succ_of_le hlen)
  obtain ⟨k, buf, hdrain, rfl, hport⟩ := releaseSocket_eq hr
  rw [hdrain] at hin hout
  exact ⟨hin, hout, rfl, rfl, rfl, fun hsep => hsep.mono hport, hport⟩

variable {nodes : QueueId → List BufIdx}

/-- **`free_socket`** releases a socket or refuses. -/
lemma freeSocket_cases
    (hr : freeSocket slot h = .ok (r, h')) : h' = h ∨ ∃ s, releaseSocket h s = .ok h' := by
  unfold freeSocket at hr
  split at hr
  · obtain ⟨-, hr⟩ := locked_eq_ok hr
    split at hr
    · cases hr
      exact .inl rfl
    obtain ⟨h1, hrel, hr⟩ := bind_eq_ok hr
    cases hr
    exact .inr ⟨_, hrel⟩
  cases hr
  exact .inl rfl

/-- **`cleanup_process_sockets`** keeps what every release keeps. -/
lemma cleanupProcessSockets_rule {P : Host → Prop}
    (hstep : ∀ {g g' s}, P g → releaseSocket g s = .ok g' → P g') (hP : P h)
    (hr : cleanupProcessSockets pid h = .ok h') :
    ∃ h₁, P h₁ ∧ Still h₁.net h'.net ∧ h'.net.socket = h₁.net.socket := by
  obtain ⟨-, hr⟩ := locked_eq_ok hr
  obtain ⟨h₁, hloop, hr⟩ := bind_eq_ok hr
  cases hr
  have hslot : ∀ (g : Host) (t : SockIdx), P g → Ensures P (cleanupSlot pid g t) := by
    intro g t hg
    unfold cleanupSlot
    split
    · cases hrel : releaseSocket g t with
      | error e => trivial
      | ok g' => exact hstep hg hrel
    · exact hg
  exact ⟨h₁, (holds_foldlM hslot (List.finRange 16) hP).of_ok hloop,
    Still.of_socket rfl rfl rfl le_rfl Separate.unbind, rfl⟩

lemma Drained.queues_eq (h : Drained n n' s l) : queues n' = update (queues n) (.inl s) .empty := by
  have hset := queues_setSocket (n := n) (s := s) SocketSlot.empty
  rw [show SocketSlot.empty.rxQueue = .empty from rfl] at hset
  rw [← hset]
  exact queues_congr h.socket h.iface

lemma Drained.vacant (h : Drained n n' s l) (hv : Vacant n) : Vacant n' := by
  rw [Vacant, h.socket]
  exact update_all (P := fun _ (x : SocketSlot) => x.occupied = false → x.rxQueue = .empty)
    (fun _ => rfl) fun t _ => hv t

lemma Drained.live_iff (h : Drained n n' s l) (c : BufIdx) : Live n' c ↔ Live n c ∧ c ∉ l := by
  by_cases hc : c ∈ l
  · exact ⟨fun hl => absurd hl (h.freed c hc), fun hl => absurd hc hl.2⟩
  unfold Live
  rw [h.other c hc]
  simp [hc]

lemma Drained.owned (h : Drained n n' s (nodes (.inl s)))
    (hf : Owned (Live n) (links n) (queues n) nodes) :
    Owned (Live n') (links n') (queues n') (update nodes (.inl s) []) := by
  rw [h.queues_eq]
  exact hf.drain h.live_iff fun c hc => congrArg PacketBuffer.next (h.other c hc)

/-! ### Packets -/

/-- Of the sockets only the queues change, and the ports stay. Who waits for a socket is woken, or its
queue stays empty. -/
structure Carried (n n' : Stack) : Prop where
  socket : ∀ t, n'.socket t = { n.socket t with rxQueue := (n'.socket t).rxQueue }
  port : n'.port = n.port
  nextSocketId : n'.nextSocketId = n.nextSocketId
  ipv4Addr : ∀ i, (n'.iface i).ipv4Addr = (n.iface i).ipv4Addr
  waiters : ∀ t, n'.waiters t = [] ∨ (n'.waiters t = n.waiters t ∧
    ((n.socket t).rxQueue.count = 0 → (n'.socket t).rxQueue.count = 0))

lemma Carried.refl (n : Stack) : Carried n n :=
  ⟨fun _ => rfl, rfl, rfl, fun _ => rfl, fun _ => .inr ⟨rfl, id⟩⟩

lemma Carried.occupied (h : Carried n n') (t : SockIdx) :
    (n'.socket t).occupied = (n.socket t).occupied := by rw [h.socket t]

lemma carried_of_socket (hs : n'.socket = n.socket) (hp : n'.port = n.port)
    (hi : n'.nextSocketId = n.nextSocketId) (hw : n'.waiters = n.waiters)
    (ha : ∀ i, (n'.iface i).ipv4Addr = (n.iface i).ipv4Addr) : Carried n n' :=
  ⟨fun t => by rw [hs], hp, hi, ha, fun t => .inr ⟨by rw [hw], by rw [hs]; exact id⟩⟩

/-- One queue changes, and nobody waits for its socket afterwards, or it was not empty. -/
lemma carried_setSocket {r : Queue BufIdx}
    (hs : n'.socket = update n.socket s { n.socket s with rxQueue := r }) (hp : n'.port = n.port)
    (hi : n'.nextSocketId = n.nextSocketId)
    (ha : ∀ i, (n'.iface i).ipv4Addr = (n.iface i).ipv4Addr)
    (hw : (n'.waiters s = [] ∨ (n'.waiters s = n.waiters s ∧ (n.socket s).rxQueue.count ≠ 0)) ∧
      ∀ t ≠ s, n'.waiters t = n.waiters t) : Carried n n' := by
  refine ⟨fun t => ?_, hp, hi, ha, fun t => ?_⟩
  · rw [hs]
    by_cases ht : t = s
    · subst ht
      simp
    · simp [ht]
  by_cases ht : t = s
  · subst ht
    exact hw.1.imp id fun ⟨hk, hc⟩ => ⟨hk, fun hz => absurd hz hc⟩
  rw [hs, update_of_ne ht]
  exact .inr ⟨hw.2 t ht, id⟩

/-- **A round of `recv_socket`** that changes the tables takes the first packet. -/
lemma recvRound_cases {outLen : ℕ} {a : Answer (List Byte)}
    (h : recvRound s outLen nb n = .ok (a, n')) :
    (n' = n ∧ ∀ bytes, a = .returned (.ok bytes) → bytes = [] ∧ (n.socket s).rxQueue.count = 0) ∨
    ∃ b, Removed n n' (.inl s) b ∧ Carried n n' ∧ (n.socket s).occupied ∧
      n'.socketLock = n.socketLock ∧
      (Live n b → a = .returned (.ok ((strip (n.socket s) (n.buf b).data).take outLen))) := by
  obtain ⟨-, h⟩ := locked_eq_ok h
  dsimp only at h
  split at h
  · cases h
    exact .inl ⟨rfl, nofun⟩
  rename_i hocc
  split at h
  · cases h
    exact .inl ⟨rfl, nofun⟩
  split at h
  next hcount =>
    unfold takePacket at h
    dsimp only at h
    split at h
    · cases h
    rename_i b hb
    cases h
    refine .inr ⟨b, ⟨hb, freePacketBuffer_free b _, fun c hc => ?_, ?_⟩, ?_, ?_, rfl, fun hl => ?_⟩
    · exact freePacketBuffer_other _ hc
    · exact queues_setSocket _
    · exact carried_setSocket rfl rfl rfl (fun _ => rfl)
        ⟨.inr ⟨rfl, Nat.pos_iff_ne_zero.mp hcount⟩, fun _ _ => rfl⟩
    · simpa using hocc
    unfold getPacketData
    rw [if_neg hl]
  split at h
  · cases h
    refine .inl ⟨rfl, fun bytes hb => ?_⟩
    cases hb
    exact ⟨rfl, by omega⟩
  split at h
  · cases h
    exact .inl ⟨rfl, nofun⟩
  split at h <;>
  · cases h
    exact .inl ⟨rfl, nofun⟩

/-- The buffer `b`, which may be in use, is in use and at the end of the queue `q`. -/
structure Pushed (n n' : Stack) (q : QueueId) (b : BufIdx) : Prop where
  live : Live n' b
  data : ∀ c, (n'.buf c).data = (n.buf c).data
  other : ∀ c ≠ b, (n'.buf c).state = (n.buf c).state
  link_eq : links n' = pushNext (links n) (queues n q) b
  queue_eq : queues n' = update (queues n) q (pushQueue (queues n q) b)

lemma Pushed.put {q : QueueId} (h : Pushed n₁ n' q b) (hb : ¬Live n b)
    (hbuf : ∀ c ≠ b, n₁.buf c = n.buf c) (hq : queues n₁ = queues n) :
    Put n n' q b (n₁.buf b).data where
  free := hb
  live := h.live
  data := h.data b
  other c hc := ⟨(h.other c hc).trans (congrArg PacketBuffer.state (hbuf c hc)),
    (h.data c).trans (congrArg PacketBuffer.data (hbuf c hc))⟩
  link_eq := by
    have hlinks : update (links n₁) b none = update (links n) b none := by
      funext c
      by_cases hc : c = b
      · subst hc
        simp
      rw [update_of_ne hc, update_of_ne hc]
      exact congrArg PacketBuffer.next (hbuf c hc)
    rw [h.link_eq, hq]
    unfold pushNext
    rw [hlinks]
  queue_eq := by rw [h.queue_eq, hq]

lemma link_pushed {q : QueueId} {r : Queue BufIdx} {p : PacketBuffer} {m : Stack}
    (hlink : link b (queues n q) (n.setBuf b p) = .ok (r, m)) (hlive : p.state ≠ .free)
    (hdata : p.data = (n.buf b).data) (hnext : p.next = (n.buf b).next) (hbuf : n'.buf = m.buf)
    (hq : queues n' = update (queues n) q r) : Pushed n n' q b := by
  obtain ⟨rfl, hlinks, hsame, -⟩ := link_ok hlink
  have hmarked : links (n.setBuf b p) = links n := by
    rw [links_setBuf, hnext]
    exact update_eq_self _ _
  have hlinks' : links n' = links m := by
    unfold links
    rw [hbuf]
  refine ⟨?_, fun c => ?_, fun c hc => ?_, ?_, hq⟩
  · unfold Live
    rw [hbuf, (hsame b).1]
    simpa [Stack.setBuf] using hlive
  · rw [hbuf, (hsame c).2]
    exact update_keep PacketBuffer.data hdata c
  · rw [hbuf, (hsame c).1]
    exact congrArg PacketBuffer.state (update_of_ne hc _ _)
  · rw [hlinks', hlinks, hmarked]

/-- **`enqueue_packet`** drops the packet or puts it at the end of the queue. -/
lemma enqueuePacket_cases {d : Direction} {i k : ℕ} {r : Bool}
    (h : enqueuePacket d i k n = .ok (r, n')) :
    (∃ buf iface, n' = { n with buf := buf, iface := iface } ∧
      ∀ j, (iface j).ipv4Addr = (n.iface j).ipv4Addr) ∧
    ((¬(i < 4 ∧ k < 32) ∧ n' = n) ∨
      ∃ (hi : i < 4) (hk : k < 32),
        (n'.buf = (freePacketBuffer ⟨k, hk⟩ n).buf ∧ queues n' = queues n) ∨
        Pushed n n' (.inr (⟨i, hi⟩, d)) ⟨k, hk⟩) := by
  unfold enqueuePacket at h
  split at h
  next hik =>
    dsimp only at h
    split at h
    · cases h
      exact ⟨⟨_, _, rfl, fun _ => rfl⟩, .inr ⟨hik.1, hik.2, .inl ⟨rfl, rfl⟩⟩⟩
    split at h
    · cases h
      refine ⟨⟨_, _, rfl, update_keep NetworkInterface.ipv4Addr (by rfl)⟩,
        .inr ⟨hik.1, hik.2, .inl ⟨rfl, ?_⟩⟩⟩
      rw [queues_freePacketBuffer]
      refine (queues_setIface (d := d) (r := (n.iface ⟨i, hik.1⟩).queue d) ?_).trans ?_
      · exact (update_eq_self d _).symm
      · exact update_eq_self (Sum.inr (⟨i, hik.1⟩, d)) (queues n)
    obtain ⟨⟨q, m⟩, hlink, h⟩ := bind_eq_ok h
    obtain ⟨buf, rfl⟩ : ∃ buf, m = { n with buf := buf } := ⟨m.buf, (link_ok hlink).2.2.2⟩
    split at h
    · cases h
    cases h
    refine ⟨⟨_, _, rfl, update_keep NetworkInterface.ipv4Addr (by rfl)⟩,
      .inr ⟨hik.1, hik.2, .inr ?_⟩⟩
    refine link_pushed (q := .inr (⟨i, hik.1⟩, d)) hlink ?_ rfl rfl rfl ?_
    · cases d <;> exact nofun
    · exact queues_setIface (n := { n with buf := buf }) (d := d) (r := q) rfl
  rename_i hik
  cases h
  exact ⟨⟨_, _, rfl, fun _ => rfl⟩, .inl ⟨hik, rfl⟩⟩

/-! ### Sending -/

/-- The header of the packet fits into the buffer of the segment. -/
def Fits : SocketType → List Byte → Prop
  | .udp, payload => udpHeaderLen + payload.length ≤ segmentBufferLen
  | .tcp, payload => tcpHeaderLen + payload.length ≤ segmentBufferLen
  | _, _ => True

/-- The segment of a payload that fits. -/
def segmentOf (n : Stack) (s : SockIdx) (payload : List Byte) : List Byte :=
  match (segment s payload n).1 with
  | .ok bytes => bytes
  | .error _ => []

variable {payload : List Byte}

/-- **A segment** is made exactly if its header fits, and fits into a packet. -/
lemma segment_cases (s : SockIdx) (n : Stack) (hlen : payload.length ≤ maxPayload) :
    (∃ tcp, (segment s payload n).2 = { n with tcp := tcp }) ∧
    ((¬Fits (n.socket s).sockType payload ∧ ∃ e, (segment s payload n).1 = .error e) ∨
      (Fits (n.socket s).sockType payload ∧ (segment s payload n).1 = .ok (segmentOf n s payload) ∧
        (segmentOf n s payload).length ≤ packetBufferSize - packetHeadroom)) := by
  have hmax : maxPayload = 1942 := rfl
  have hroom : packetBufferSize - packetHeadroom = 1984 := rfl
  have hseg : segmentBufferLen = 1500 := rfl
  unfold segmentOf Socket.segment
  dsimp only
  cases hty : (n.socket s).sockType with
  | udp =>
    refine ⟨⟨n.tcp, rfl⟩, ?_⟩
    dsimp only
    unfold writeUdpHeader
    split
    next hlt =>
      refine .inl ⟨fun hf => ?_, _, rfl⟩
      exact absurd hf (not_le.mpr hlt)
    rename_i hle
    refine .inr ⟨not_lt.mp hle, rfl, ?_⟩
    have hu := udpSegment_length (n.socket s).localIp (n.socket s).remoteIp
      (n.socket s).localPort (n.socket s).remotePort payload
    show (udpSegment _ _ _ _ _).length ≤ _
    omega
  | tcp =>
    dsimp only
    unfold writeTcpHeader
    split
    next e he =>
      refine ⟨⟨n.tcp, rfl⟩, ?_⟩
      split at he
      next hlt =>
        refine .inl ⟨fun hf => ?_, e, rfl⟩
        exact absurd hf (not_le.mpr hlt)
      · cases he
    rename_i he
    refine ⟨⟨_, rfl⟩, ?_⟩
    split at he
    · cases he
    rename_i hle
    cases he
    refine .inr ⟨not_lt.mp hle, rfl, ?_⟩
    rw [List.length_append, tcpHeader_length]
    omega
  | unset | raw => exact ⟨⟨n.tcp, rfl⟩, .inr ⟨trivial, rfl, by dsimp only; omega⟩⟩

lemma segmentOf_congr (hs : n₁.socket = n.socket) (ht : n₁.tcp = n.tcp) :
    segmentOf n₁ s payload = segmentOf n s payload := by
  unfold segmentOf Socket.segment
  rw [hs, ht]
  dsimp only
  cases (n.socket s).sockType with
  | udp => rfl
  | tcp =>
    generalize writeTcpHeader _ _ _ _ _ _ _ _ payload = w
    cases w <;> rfl
  | unset => rfl
  | raw => rfl

lemma localTarget_congr (hs : n₁.socket = n.socket) (hp : n₁.port = n.port) :
    localTarget sock n₁ = localTarget sock n := by
  unfold localTarget lookupSocket
  rw [hs, hp]

lemma localTarget_some (h : localTarget sock n = some i) :
    isLoopback sock.remoteIp ∧ (n.socket i).occupied ∧
      (n.socket i).rxQueue.count < (n.socket i).rxQueueLimit ∧
      lookupSocket n (if sock.sockType = .tcp then 6 else 17) sock.remoteIp sock.remotePort =
        some (n.socket i).socketId := by
  unfold localTarget at h
  split at h
  next hloop =>
    split at h
    · cases h
    rename_i htarget
    have hfound := List.find?_some h
    simp only [Bool.and_eq_true, decide_eq_true_eq] at hfound
    obtain ⟨⟨hocc, hid⟩, hroom⟩ := hfound
    exact ⟨hloop, hocc, hroom, htarget.trans (congrArg some hid.symm)⟩
  · cases h

/-- The interface, counted from zero, over which a packet of the socket leaves the machine. -/
def outInterface (n : Stack) (s : SockIdx) : ℕ :=
  (match lookupRoute n (n.socket s).remoteIp with
    | some (ifId, _) => ifId
    | none => 1) - 1

/-- The call gets as far as taking a buffer for the payload. -/
@[mk_iff] structure Takes (n : Stack) (s : SockIdx) (payload : List Byte) : Prop where
  short : payload.length ≤ maxPayload
  occupied : (n.socket s).occupied
  no_error : (n.socket s).error = 0
  connected : (n.socket s).sockType = .tcp → (n.socket s).state = .established
  addressed : (n.socket s).sockType = .udp →
    (n.socket s).remoteIp ≠ 0 ∧ (n.socket s).remotePort ≠ 0
  room : ∃ b, ¬Live n b

/-- Where a packet went. -/
inductive Dispatched (n n' : Stack) (s : SockIdx) (b : BufIdx) (bytes : List Byte) : Prop
  | delivered (i : SockIdx) (target : localTarget (n.socket s) n = some i)
      (put : Put n n' (.inl i) b bytes)
  | queued (j : IfIdx) (target : localTarget (n.socket s) n = none) (out : outInterface n s = j)
      (put : Put n n' (.inr (j, .tx)) b bytes)
  | dropped (target : localTarget (n.socket s) n = none) (out : outInterface n s < 4)
      (unmoved : Unmoved n n')
  | stranded (target : localTarget (n.socket s) n = none) (out : ¬outInterface n s < 4)
      (lost : Lost n n' b)

lemma deliver_pushed (h : deliver b i n = .ok n') :
    Pushed n n' (.inl i) b ∧ Carried n n' ∧ n'.socketLock = n.socketLock := by
  obtain ⟨⟨q, m⟩, hlink, h⟩ := bind_eq_ok h
  obtain ⟨buf, rfl⟩ : ∃ buf, m = { n with buf := buf } := ⟨m.buf, (link_ok hlink).2.2.2⟩
  cases h
  refine ⟨link_pushed (q := .inl i) hlink nofun rfl rfl rfl
    (queues_setSocket (n := { n with buf := buf }) _), ?_⟩
  exact ⟨carried_setSocket rfl rfl rfl (fun _ => rfl)
    ⟨.inl (update_self ..), fun _ ht => update_of_ne ht ..⟩, rfl⟩

/-- A buffer with the bytes is dispatched; `n` are the tables before it was taken. -/
lemma dispatchPacket_cases {tcp : SockIdx → TcpControlBlock} {buf : BufIdx → PacketBuffer}
    (h : dispatchPacket s b { n with tcp := tcp, buf := buf } = .ok n') (hb : ¬Live n b)
    (hlive : (buf b).state ≠ .free) (hbuf : ∀ c ≠ b, buf c = n.buf c) :
    Dispatched n n' s b (buf b).data ∧ Carried n n' ∧ n'.socketLock = n.socketLock := by
  have hlocal : localTarget (n.socket s) { n with tcp := tcp, buf := buf } =
    localTarget (n.socket s) n := localTarget_congr rfl rfl
  unfold dispatchPacket at h
  dsimp only at h
  rw [hlocal] at h
  split at h
  next i htarget =>
    obtain ⟨hpush, hcar, hlock⟩ := deliver_pushed h
    exact ⟨.delivered i htarget (hpush.put hb hbuf rfl),
      ⟨hcar.socket, hcar.port, hcar.nextSocketId, hcar.ipv4Addr, hcar.waiters⟩, hlock⟩
  rename_i htarget
  obtain ⟨⟨r, m⟩, henq, h⟩ := bind_eq_ok h
  cases h
  obtain ⟨⟨buf, iface, hm, haddr⟩, hcases⟩ := enqueuePacket_cases henq
  refine ⟨?_, by rw [hm]; exact ⟨carried_of_socket rfl rfl rfl rfl haddr, rfl⟩⟩
  rcases hcases with ⟨hrange, rfl⟩ | ⟨hi4, hb32, ⟨hfreed, hqm⟩ | hpush⟩
  · have hnot : ¬outInterface n s < 4 := fun hlt => hrange ⟨hlt, b.isLt⟩
    exact .stranded htarget hnot ⟨hb, hlive, hbuf, rfl⟩
  · exact .dropped htarget hi4 (.of_freed hb hfreed hbuf hqm)
  · exact .queued ⟨outInterface n s, hi4⟩ htarget rfl (hpush.put hb hbuf rfl)

/-- The rest of `send_socket` after it has taken the buffer `b`. -/
lemma sendPacket_cases {r : Except SyscallError ℕ} (hb : ¬Live n b)
    (hlen : payload.length ≤ maxPayload)
    (h : (match segment s payload (n.setBuf b { n.buf b with
        state := .socketTxQueued, data := [], next := none }) with
      | (.error e, n) => failLocked e n
      | (.ok bytes, n) => do
        let n ← dispatchPacket s b (setPacketPayload b bytes n)
        done payload.length n : Except Halt (Except SyscallError ℕ × Stack)) = .ok (r, n')) :
    Carried n n' ∧
    ((¬Fits (n.socket s).sockType payload ∧ (∃ e, r = .error e) ∧ n'.socketLock ∧ Lost n n' b) ∨
      (Fits (n.socket s).sockType payload ∧ r = .ok payload.length ∧
        n'.socketLock = n.socketLock ∧ Dispatched n n' s b (segmentOf n s payload))) := by
  have htaken : PacketBufferState.socketTxQueued ≠ .free := nofun
  generalize hp : ({ n.buf b with state := .socketTxQueued, data := [], next := none } :
    PacketBuffer) = p at h
  have hlive : (update n.buf b p b).state ≠ .free := by rwa [update_self, ← hp]
  obtain ⟨⟨tcp, htcp⟩, hcases⟩ := segment_cases s (n.setBuf b p) hlen
  rw [segmentOf_congr (n := n) (rfl : (n.setBuf b p).socket = _) rfl] at hcases
  generalize segment s payload (n.setBuf b p) = seg at h htcp hcases
  obtain ⟨res, n2⟩ := seg
  obtain rfl : n2 = { n.setBuf b p with tcp := tcp } := htcp
  rcases hcases with ⟨hfit, e, he⟩ | ⟨hfit, hok, hroom⟩
  · obtain rfl : res = .error e := he
    cases h
    exact ⟨carried_of_socket rfl rfl rfl rfl fun _ => rfl,
      .inl ⟨hfit, ⟨e, rfl⟩, rfl, hb, hlive, fun c hc => update_of_ne hc .., rfl⟩⟩
  obtain rfl : res = .ok (segmentOf n s payload) := hok
  obtain ⟨n3, hdispatch, h⟩ := bind_eq_ok h
  cases h
  rw [setPacketPayload, if_neg (not_lt.mpr hroom)] at hdispatch
  have hdone := dispatchPacket_cases (n := n) hdispatch hb ?_ fun c hc => ?_
  · rw [update_self] at hdone
    exact ⟨hdone.2.1, .inr ⟨hfit, rfl, hdone.2.2, hdone.1⟩⟩
  · rw [update_self]
    exact hlive
  · exact (update_of_ne hc _ _).trans (update_of_ne hc _ _)

/-- **`send_socket`** fails before it takes a buffer, loses the buffer when the header does not fit,
or dispatches the packet. -/
lemma sendSocket_cases {r : Except SyscallError ℕ}
    (h : sendSocket slot payload nb n = .ok (r, n')) :
    (n' = n ∧ (∃ e, r = .error e) ∧ ∀ hs : slot < 16, ¬Takes n ⟨slot, hs⟩ payload) ∨
    ∃ (hs : slot < 16) (b : BufIdx), Takes n ⟨slot, hs⟩ payload ∧ ¬Live n b ∧ Carried n n' ∧
      ((¬Fits (n.socket ⟨slot, hs⟩).sockType payload ∧ (∃ e, r = .error e) ∧ n'.socketLock ∧
          Lost n n' b) ∨
        (Fits (n.socket ⟨slot, hs⟩).sockType payload ∧ r = .ok payload.length ∧
          n'.socketLock = n.socketLock ∧
          Dispatched n n' ⟨slot, hs⟩ b (segmentOf n ⟨slot, hs⟩ payload))) := by
  unfold sendSocket at h
  split at h
  next hs =>
    dsimp only at h
    split at h
    next hlen =>
      cases h
      exact .inl ⟨rfl, ⟨_, rfl⟩, fun _ ht => absurd ht.short (not_le.mpr hlen)⟩
    rename_i hlen
    obtain ⟨-, h⟩ := locked_eq_ok h
    split at h
    next hocc =>
      cases h
      refine .inl ⟨rfl, ⟨_, rfl⟩, fun _ ht => ?_⟩
      rw [ht.occupied] at hocc
      cases hocc
    rename_i hocc
    split at h
    next herr =>
      cases h
      exact .inl ⟨rfl, ⟨_, rfl⟩, fun _ ht => herr ht.no_error⟩
    rename_i herr
    split at h
    next htcp =>
      cases h
      exact .inl ⟨rfl, ⟨_, rfl⟩, fun _ ht => htcp.2 (ht.connected htcp.1)⟩
    rename_i htcp
    split at h
    next hudp =>
      cases h
      refine .inl ⟨rfl, ⟨_, rfl⟩, fun _ ht => ?_⟩
      obtain ⟨hip, hport⟩ := ht.addressed hudp.1
      rcases hudp.2 with he | he
      · exact hip he
      · exact hport he
    rename_i hudp
    rcases allocPacketBuffer_cases .socketTxQueued n with ⟨halloc, hall⟩ | ⟨b, hb, halloc⟩
    · rw [halloc] at h
      cases h
      refine .inl ⟨rfl, ⟨_, rfl⟩, fun _ ht => ?_⟩
      obtain ⟨b, hb⟩ := ht.room
      exact hb (hall b)
    have htakes : Takes n ⟨slot, hs⟩ payload := by
      refine ⟨not_lt.mp hlen, by simpa using hocc, not_not.mp herr, fun ht => ?_,
        fun hu => ?_, b, hb⟩
      · by_contra hne
        exact htcp ⟨ht, hne⟩
      · exact not_or.mp fun hor => hudp ⟨hu, hor⟩
    refine .inr ⟨hs, b, htakes, hb, ?_⟩
    rw [halloc] at h
    exact sendPacket_cases hb htakes.short h
  rename_i hs
  cases h
  exact .inl ⟨rfl, ⟨_, rfl⟩, fun hs' => absurd hs' hs⟩

/-! ### Sockets that stay -/

/-- The sockets that are there were there before. -/
def Keeps (n n' : Stack) : Prop :=
  ∀ r, (n'.socket r).occupied →
    (n.socket r).occupied ∧ (n'.socket r).socketId = (n.socket r).socketId

lemma Keeps.refl (n : Stack) : Keeps n n := fun _ hr => ⟨hr, rfl⟩

lemma Keeps.trans (h : Keeps n n₁) (h' : Keeps n₁ n') : Keeps n n' := fun r hr =>
  have h1 := h' r hr
  have h0 := h r h1.1
  ⟨h0.1, h1.2.trans h0.2⟩

lemma Keeps.of_same (ho : ∀ t, (n'.socket t).occupied = (n.socket t).occupied)
    (hi : ∀ t, (n'.socket t).socketId = (n.socket t).socketId) : Keeps n n' := fun r hr =>
  ⟨(ho r).symm.trans hr, hi r⟩

lemma Keeps.of_still (h : Still n n') : Keeps n n' := .of_same h.occupied h.socketId

lemma Keeps.of_carried (h : Carried n n') : Keeps n n' :=
  .of_same h.occupied fun t => by rw [h.socket t]

lemma Keeps.of_drained (h : Drained n n' s l) : Keeps n n' := by
  rw [Keeps, h.socket]
  exact update_all (P := fun r (x : SocketSlot) => x.occupied = true →
    (n.socket r).occupied ∧ x.socketId = (n.socket r).socketId) nofun fun _ _ hr => ⟨hr, rfl⟩

end ProjectZero.Net.Effects
