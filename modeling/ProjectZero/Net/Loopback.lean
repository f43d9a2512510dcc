import ProjectZero.Net.Delivery
import ProjectZero.Net.Ownership

/-! # UDP over the loopback addresses

Beside the tables, the letters that each socket has still to receive are kept in the order in which they
were sent. A letter goes to the socket that is bound at the address of its sender, exactly or by the
wildcard. The packets in the queue of a socket are these letters (`Posted`), and a receive hands over the
first of them, unless the receiver has a local and a remote address: then the checksum is checked, never
accepted, and the header is handed over with the payload. -/

namespace ProjectZero.Net.Loopback

open Lib.Layout Lib.Queues Lib.Run Lib.Update ProjectZero.Tables Net.Tables Packets Ports
open Transport Socket Filing Effects Net.Delivery Ownership

/-! ### Letters -/

/-- The payload of a packet of a UDP socket; a packet of another socket is `none`. -/
abbrev Letter := Option (List Byte)

def letterOf (sock : SocketSlot) (payload : List Byte) : Letter :=
  if sock.sockType = .udp then some payload else none

/-- What the packet of a letter looks like. -/
def Matches : Letter → List Byte → Prop
  | some payload, data => udpHeaderLen + payload.length ≤ segmentBufferLen ∧
      ∃ src dst srcPort dstPort, data = udpSegment src dst srcPort dstPort payload
  | none, _ => True

/-- The socket `r` has room and is bound at the address that the socket `s` is connected to. -/
def Addressed (n : Stack) (s r : SockIdx) : Prop :=
  isLoopback (n.socket s).remoteIp ∧ (n.socket r).occupied ∧
    (n.socket r).rxQueue.count < (n.socket r).rxQueueLimit ∧
    ∃ i, Bound (n.port i) (if (n.socket s).sockType = .tcp then 6 else 17) (n.socket s).remoteIp
      (n.socket s).remotePort ∧ (n.port i).socketId = (n.socket r).socketId
  deriving Decidable

def addressee (n : Stack) (s : SockIdx) : Option SockIdx :=
  (List.finRange 16).find? fun r => Addressed n s r

/-- The machine and the letters that are on their way. -/
structure Post where
  host : Host
  pending : SockIdx → List Letter

/-- Letters to a socket that is gone are gone. -/
def cleared (n : Stack) (pending : SockIdx → List Letter) (r : SockIdx) : List Letter :=
  if (n.socket r).occupied then pending r else []

/-- A send has returned `Ok`. -/
def sendOk : Outcome ℕ → Bool
  | .ok (.ok _, _) => true
  | _ => false

/-- A receive has returned `Ok`. -/
def recvOk : Round (List Byte) → Bool
  | .ok (.returned (.ok _), _) => true
  | _ => false

/-- The letter is the last one for its addressee. -/
def posted (pending : SockIdx → List Letter) (letter : Letter) :
    Option SockIdx → SockIdx → List Letter
  | some r => update pending r (pending r ++ [letter])
  | none => pending

/-- The letters after the call: one more if a send succeeds, and one less if a receive does. -/
def lettersAfter (h h' : Host) (pending : SockIdx → List Letter) : Op → SockIdx → List Letter
  | .send slot payload nb =>
    if hs : slot < 16 then
      if sendOk (sendSocket slot payload nb h.net) then
        posted pending (letterOf (h.net.socket ⟨slot, hs⟩) payload) (addressee h.net ⟨slot, hs⟩)
      else pending
    else pending
  | .recv _ slot outLen nb =>
    if hs : slot < 16 then
      if recvOk (recvSocket slot outLen nb h.net) then
        update pending ⟨slot, hs⟩ (pending ⟨slot, hs⟩).tail
      else pending
    else pending
  | _ => cleared h'.net pending

def Post.step (p : Post) (op : Op) : Except Halt Post := do
  let h ← op.run p.host
  .ok { host := h, pending := lettersAfter p.host h p.pending op }

def OnSockets : Op → Prop
  | .enqueue _ _ _ => False
  | .dequeue _ _ => False
  | _ => True

def Start (p : Post) : Prop := p.host.net = .boot ∧ p.pending = fun _ => []

def Next (p p' : Post) : Prop := ∃ op, OnSockets op ∧ p.step op = .ok p'

/-! ### The rules of the tables -/

variable {n n' : Stack} {h h' : Host} {nodes : QueueId → List BufIdx} {s r i : SockIdx} {b : BufIdx}
  {pending : SockIdx → List Letter}

variable {l : List BufIdx}

variable {pid slot : ℕ}

variable {sockType : SocketType} {protocol : ℕ} {res : Except SyscallError (SockIdx × ℕ)}

/-- **The letter goes where the code sends it.** -/
lemma addressee_eq (hr : Registered n) (s : SockIdx) :
    addressee n s = localTarget (n.socket s) n := by
  have hspec : ∀ r, Addressed n s r → localTarget (n.socket s) n = some r := by
    rintro r ⟨hloop, hocc, hroom, i, hbound, hid⟩
    have hlook := hr.separate.lookupSocket_eq hbound
    unfold localTarget
    rw [if_pos hloop, hlook]
    dsimp only
    cases hfind : (List.finRange 16).find? fun t => (n.socket t).occupied &&
        (n.socket t).socketId = (n.port i).socketId &&
        (n.socket t).rxQueue.count < (n.socket t).rxQueueLimit with
    | none =>
      have hno := List.find?_eq_none.mp hfind r (List.mem_finRange r)
      simp [hocc, hid, hroom] at hno
    | some t =>
      have ht := List.find?_some hfind
      simp only [Bool.and_eq_true, decide_eq_true_eq] at ht
      rw [hr.distinct t r ht.1.1 hocc (ht.1.2.trans hid)]
  have hcode : ∀ r, localTarget (n.socket s) n = some r → Addressed n s r := by
    intro r ht
    obtain ⟨hloop, hocc, hroom, hlook⟩ := localTarget_some ht
    obtain ⟨i, hbound, hid⟩ := lookupSocket_some hlook
    exact ⟨hloop, hocc, hroom, i, hbound, hid⟩
  unfold addressee
  cases hfind : (List.finRange 16).find? fun r => Addressed n s r with
  | some r =>
    have hadd := List.find?_some hfind
    exact (hspec r (by simpa using hadd)).symm
  | none =>
    cases ht : localTarget (n.socket s) n with
    | none => rfl
    | some r =>
      have hno := List.find?_eq_none.mp hfind r (List.mem_finRange r)
      simp [hcode r ht] at hno

/-! ### Counts -/

/-- A queue counts its packets; the queue of a listener may count more. -/
def Counts (n : Stack) (nodes : QueueId → List BufIdx) : Prop :=
  ∀ s, (nodes (.inl s)).length ≤ (n.socket s).rxQueue.count ∧
    ((n.socket s).sockType = .udp → (n.socket s).rxQueue.count = (nodes (.inl s)).length)

lemma Counts.keep (hc : Counts n nodes) (hq : ∀ t, (n'.socket t).rxQueue = (n.socket t).rxQueue)
    (ht : ∀ t, (n'.socket t).sockType = (n.socket t).sockType) : Counts n' nodes := by
  intro t
  rw [hq t, ht t]
  exact hc t

lemma Counts.updated (hc : Counts n nodes) {q : Queue BufIdx}
    (hq : queues n' = update (queues n) (.inl s) q)
    (ht : ∀ t ≠ s, (n'.socket t).sockType = (n.socket t).sockType)
    (hs : l.length ≤ q.count ∧ ((n'.socket s).sockType = .udp → q.count = l.length)) :
    Counts n' (update nodes (.inl s) l) := by
  intro t
  have hqt : (n'.socket t).rxQueue = update (queues n) (.inl s) q (.inl t) :=
    congrFun hq (.inl t)
  rw [hqt, Sum.update_inl_apply_inl, Sum.update_inl_apply_inl]
  refine update_all₂ (P := fun t (l : List BufIdx) (q : Queue BufIdx) => l.length ≤ q.count ∧
    ((n'.socket t).sockType = .udp → q.count = l.length)) hs (fun t hts => ?_) t
  rw [ht t hts]
  exact hc t

lemma Counts.counted (hc : Counts n nodes) (hh : Held n nodes) (h : Counted n n' i)
    (hi : (n.socket i).sockType ≠ .udp) : Counts n' nodes := by
  have hlen := Lib.Linked.chain_length_le (hh.filed.listed (.inl i)).chain
  rw [Fintype.card_fin] at hlen
  have hold := (hc i).1
  have hnodes : update nodes (.inl i) (nodes (.inl i)) = nodes :=
    update_eq_self _ _
  rw [← hnodes]
  refine hc.updated h.queue_eq (fun t _ => h.sockType t) ⟨?_, fun hu => ?_⟩
  · show (nodes (.inl i)).length ≤ min ((n.socket i).rxQueue.count + 1) 65535
    omega
  rw [h.sockType i] at hu
  exact absurd hu hi

/-! ### Letters and packets -/

/-- The packets in the queues are the letters on their way. -/
structure Posted (p : Post) : Prop where
  registered : Registered p.host.net
  linked : ∃ nodes, Held p.host.net nodes ∧ Counts p.host.net nodes ∧
    ∀ r, List.Forall₂ Matches (p.pending r) (contents p.host.net nodes r)

lemma letters_cleared (hh : Held n nodes)
    (hl : ∀ r, (n.socket r).occupied → List.Forall₂ Matches (pending r) (contents n nodes r))
    (r : SockIdx) : List.Forall₂ Matches (cleared n pending r) (contents n nodes r) := by
  unfold cleared
  split
  next hocc =>
    exact hl r hocc
  rename_i hocc
  have hnil : contents n nodes r = [] := by
    unfold contents
    rw [hh.nil (by simpa using hocc)]
    rfl
  rw [hnil]
  exact .nil

lemma Posted.quiet (hreg : Registered n) (hh : Held n nodes) (hc : Counts n nodes)
    (hl : ∀ r, List.Forall₂ Matches (pending r) (contents n nodes r)) (k : Kernel) :
    Posted { host := { kernel := k, net := n }, pending := cleared n pending } :=
  ⟨hreg, nodes, hh, hc, letters_cleared hh fun r _ => hl r⟩

variable {p : Post}

lemma Posted.still (hp : Posted p) (h : Still p.host.net n) (k : Kernel) :
    Posted { host := { kernel := k, net := n }, pending := cleared n p.pending } := by
  obtain ⟨nodes, hh, hc, hl⟩ := hp.linked
  obtain ⟨hh', hcon⟩ := hh.still h
  refine .quiet (hp.registered.still h) hh' (hc.keep h.queue h.sockType) (fun r => ?_) k
  rw [hcon]
  exact hl r

lemma Posted.alloc (hp : Posted p)
    (hrun : allocSocket sockType protocol pid p.host = .ok (res, h')) :
    Posted { host := h', pending := cleared h'.net p.pending } := by
  obtain ⟨nodes, hh, hc, hl⟩ := hp.linked
  obtain ⟨hh', hcon⟩ := hh.alloc hrun
  refine .quiet (hp.registered.alloc hrun) hh' ?_ (fun r => ?_) h'.kernel
  · obtain ⟨-, hcases⟩ := allocSocket_cases hrun
    rcases hcases with ⟨hsock, -⟩ | ⟨s, sock, -, hocc, hsock, hempty, -, -⟩
    · exact hc.keep (fun t => by rw [hsock]) fun t => by rw [hsock]
    rw [Counts, hsock]
    refine update_all (P := fun t (x : SocketSlot) => (nodes (.inl t)).length ≤ x.rxQueue.count ∧
      (x.sockType = .udp → x.rxQueue.count = (nodes (.inl t)).length)) ?_ fun t _ => hc t
    rw [hempty, hh.nil hocc]
    exact ⟨le_rfl, fun _ => rfl⟩
  rw [hcon]
  exact hl r

/-- What the release of sockets keeps while the letters stay. -/
structure Releasing (pending : SockIdx → List Letter) (n : Stack) : Prop where
  registered : Registered n
  linked : ∃ nodes, Held n nodes ∧ Counts n nodes ∧
    ∀ r, (n.socket r).occupied → List.Forall₂ Matches (pending r) (contents n nodes r)

lemma Releasing.release (hp : Releasing pending h.net) (hr : releaseSocket h s = .ok h') :
    Releasing pending h'.net := by
  obtain ⟨nodes, hh, hc, hl⟩ := hp.linked
  have hd := hh.release hr
  obtain ⟨hh', hcon⟩ := hh.drained hd
  refine ⟨hp.registered.drained hd, _, hh', ?_, fun r hocc => ?_⟩
  · refine hc.updated hd.queues_eq (fun t hts => ?_) ⟨le_rfl, fun _ => rfl⟩
    rw [hd.socket, update_of_ne hts]
  rw [hcon]
  have hrs : r ≠ s := by
    rintro rfl
    rw [hd.socket, update_self] at hocc
    cases hocc
  rw [hd.socket, update_of_ne hrs] at hocc
  rw [update_of_ne hrs]
  exact hl r hocc

lemma Releasing.posted (hp : Releasing pending n) (k : Kernel) :
    Posted { host := { kernel := k, net := n }, pending := cleared n pending } := by
  obtain ⟨nodes, hh, hc, hl⟩ := hp.linked
  exact ⟨hp.registered, nodes, hh, hc, letters_cleared hh hl⟩

lemma Posted.releasing (hp : Posted p) : Releasing p.pending p.host.net := by
  obtain ⟨nodes, hh, hc, hl⟩ := hp.linked
  exact ⟨hp.registered, nodes, hh, hc, fun r _ => hl r⟩

lemma Posted.close (hp : Posted p) {res : Except SyscallError Unit}
    (hr : freeSocket slot p.host = .ok (res, h')) :
    Posted { host := h', pending := cleared h'.net p.pending } := by
  rcases freeSocket_cases hr with rfl | ⟨s, hrel⟩
  · exact hp.releasing.posted _
  · exact (hp.releasing.release hrel).posted _

lemma Posted.teardown (hp : Posted p) (hr : cleanupProcessSockets pid p.host = .ok h') :
    Posted { host := h', pending := cleared h'.net p.pending } := by
  obtain ⟨h1, ⟨hreg, nodes, hh, hc, hl⟩, hstill, hsock⟩ := cleanupProcessSockets_rule
    (P := fun g => Releasing p.pending g.net) (fun hg hrel => hg.release hrel) hp.releasing hr
  obtain ⟨hh', hcon⟩ := hh.still hstill
  refine Releasing.posted ⟨hreg.still hstill, nodes, hh', hc.keep hstill.queue hstill.sockType,
    fun r hocc => ?_⟩ _
  rw [hsock] at hocc
  rw [hcon]
  exact hl r hocc

variable {payload : List Byte}

lemma matches_segmentOf (hfit : Fits (n.socket s).sockType payload) :
    Matches (letterOf (n.socket s) payload) (segmentOf n s payload) := by
  unfold letterOf
  split
  next hudp =>
    rw [hudp] at hfit
    refine ⟨hfit, (n.socket s).localIp, (n.socket s).remoteIp, (n.socket s).localPort,
      (n.socket s).remotePort, ?_⟩
    unfold segmentOf Socket.segment
    dsimp only
    rw [hudp]
    unfold writeUdpHeader
    rw [if_neg (not_lt.mpr hfit)]
  · trivial

variable {nb : Bool}

lemma Posted.send (hp : Posted p)
    {res : Except SyscallError ℕ} (hr : sendSocket slot payload nb p.host.net = .ok (res, n))
    (k : Kernel) :
    Posted { host := { kernel := k, net := n },
             pending := lettersAfter p.host { kernel := k, net := n } p.pending
               (.send slot payload nb) } := by
  obtain ⟨nodes, hh, hc, hl⟩ := hp.linked
  obtain ⟨hcar, hsent⟩ := hh.sent hr
  have hreg := hp.registered.carried hcar
  have hstay : Stays p.host.net n nodes →
      lettersAfter p.host { kernel := k, net := n } p.pending (.send slot payload nb) = p.pending →
      Posted { host := { kernel := k, net := n },
               pending := lettersAfter p.host { kernel := k, net := n } p.pending
                 (.send slot payload nb) } := by
    rintro ⟨nodes', hh', hn, hq, hcon⟩ hlet
    refine ⟨hreg, nodes', hh', fun t => ?_, fun r => ?_⟩
    · rw [hq t, hn t, hcar.socket t]
      exact hc t
    rw [hlet, hcon]
    exact hl r
  rcases hsent with ⟨⟨e, rfl⟩, hst⟩ | ⟨hs, rfl, hfit, hcases⟩
  · refine hstay hst ?_
    unfold lettersAfter
    dsimp only
    rw [hr]
    split <;> rfl
  have hafter : lettersAfter p.host { kernel := k, net := n } p.pending (.send slot payload nb) =
      posted p.pending (letterOf (p.host.net.socket ⟨slot, hs⟩) payload)
        (localTarget (p.host.net.socket ⟨slot, hs⟩) p.host.net) := by
    unfold lettersAfter
    dsimp only
    rw [dif_pos hs, hr, addressee_eq hp.registered ⟨slot, hs⟩]
    rfl
  rcases hcases with ⟨target, hst⟩ | ⟨i, b, target, hocc, put⟩
  · rw [target] at hafter
    exact hstay hst hafter
  obtain ⟨hh', hcon⟩ := hh.put put hcar (by rintro t ⟨⟩; exact hocc)
  rw [target] at hafter
  refine ⟨hreg, _, hh', ?_, fun r => ?_⟩
  · refine hc.updated put.queue_eq (fun t _ => ?_) ⟨?_, fun hu => ?_⟩
    · rw [hcar.socket t]
    · rw [List.length_append]
      exact Nat.succ_le_succ (hc i).1
    rw [hcar.socket i] at hu
    rw [List.length_append, ← (hc i).2 hu]
    rfl
  rw [hcon]
  rw [hafter]
  exact update_all₂ (P := fun _ => List.Forall₂ Matches)
    (List.rel_append (hl i) (.cons (matches_segmentOf hfit) .nil)) (fun r _ => hl r) r

lemma Posted.recv (hp : Posted p) {t : TSlot} {outLen : ℕ}
    {a : Answer (List Byte)} (hr : recvSocket slot outLen nb p.host.net = .ok (a, n))
    (hstill : Still n n') (k : Kernel) :
    Posted { host := { kernel := k, net := n' },
             pending := lettersAfter p.host { kernel := k, net := n' } p.pending
               (.recv t slot outLen nb) } := by
  obtain ⟨nodes, hh, hc, hl⟩ := hp.linked
  -- parking afterwards moves no packets
  have hpark : ∀ {nodes' : QueueId → List BufIdx} {pending : SockIdx → List Letter},
      Registered n → Held n nodes' → Counts n nodes' →
      (∀ r, List.Forall₂ Matches (pending r) (contents n nodes' r)) →
      Posted { host := { kernel := k, net := n' }, pending := pending } := by
    intro nodes' pending hreg hh' hc' hl'
    obtain ⟨hh'', hcon⟩ := hh'.still hstill
    refine ⟨hreg.still hstill, nodes', hh'', hc'.keep hstill.queue hstill.sockType, fun r => ?_⟩
    rw [hcon]
    exact hl' r
  unfold lettersAfter
  dsimp only
  rw [hr]
  unfold recvSocket at hr
  split at hr
  next hs =>
    rw [dif_pos hs]
    rcases recvRound_cases hr with ⟨rfl, hempty⟩ | ⟨b, hrem, hcar, hocc, -, hdata⟩
    · refine hpark hp.registered hh hc fun r => ?_
      split
      next hok =>
        obtain ⟨bytes, rfl⟩ : ∃ bytes, a = .returned (.ok bytes) := by
          unfold recvOk at hok
          split at hok
          next bytes _ he =>
            cases he
            exact ⟨bytes, rfl⟩
          · cases hok
        have hzero := (hempty bytes rfl).2
        have hnil : p.pending ⟨slot, hs⟩ = [] := by
          have hlen := (hc ⟨slot, hs⟩).1
          rw [hzero, Nat.le_zero, List.length_eq_zero_iff] at hlen
          have hrel := hl ⟨slot, hs⟩
          unfold contents at hrel
          rw [hlen] at hrel
          exact List.forall₂_nil_right_iff.mp hrel
        rw [hnil, List.tail_nil, ← hnil, update_eq_self]
        exact hl r
      · exact hl r
    obtain ⟨l, hnodes, hh', hcon, hcon'⟩ := hh.removed hrem hcar hocc
    have ha := hdata (hh.live (.inl ⟨slot, hs⟩) b (by rw [hnodes]; exact List.mem_cons_self))
    subst ha
    refine hpark (hp.registered.carried hcar) hh' ?_ fun r => ?_
    · refine hc.updated hrem.queue_eq (fun t _ => by rw [hcar.socket t]) ?_
      have hcount := hc ⟨slot, hs⟩
      rw [hnodes, List.length_cons] at hcount
      refine ⟨?_, fun hu => ?_⟩
      · show l.length ≤ (p.host.net.socket ⟨slot, hs⟩).rxQueue.count - 1
        omega
      rw [hcar.socket] at hu
      have heq := hcount.2 hu
      show (p.host.net.socket ⟨slot, hs⟩).rxQueue.count - 1 = l.length
      omega
    rw [if_pos (show recvOk (.ok (.returned (.ok _), n)) = true from rfl), hcon']
    refine update_all₂ (P := fun _ => List.Forall₂ Matches) ?_ (fun r _ => hl r) r
    have hrel := hl ⟨slot, hs⟩
    rw [hcon] at hrel ⊢
    obtain ⟨letter, rest, -, htail, hpend⟩ := List.forall₂_cons_right_iff.mp hrel
    rw [hpend]
    exact htail
  rename_i hs
  cases hr
  rw [dif_neg hs]
  exact hpark hp.registered hh hc hl

/-- **Every call on sockets** keeps the letters and the packets together. -/
lemma Posted.step {p' : Post} (hp : Posted p) {op : Op} (hop : OnSockets op)
    (hr : p.step op = .ok p') : Posted p' := by
  obtain ⟨h', hrun, hr⟩ := bind_eq_ok hr
  cases hr
  cases op with
  | alloc sockType protocol pid =>
    obtain ⟨⟨res, h1⟩, halloc, hrun⟩ := bind_eq_ok hrun
    cases hrun
    exact hp.alloc halloc
  | bind slot ip port config => exact hp.still (still_bind hrun) _
  | listen slot backlog => exact hp.still (still_listen hrun) _
  | connect t slot ip port nb =>
    rcases connect_run hrun with hstill | ⟨i, hocc, hlisten, hcount⟩
    · exact hp.still hstill _
    obtain ⟨nodes, hh, hc, hl⟩ := hp.linked
    obtain ⟨hh', hcon⟩ := hh.counted hcount hocc
    have hudp : (p.host.net.socket i).sockType ≠ .udp := fun hu =>
      (hp.registered.plain i hu).1 hlisten
    refine .quiet (hp.registered.counted hcount) hh' (hc.counted hh hcount hudp) (fun r => ?_) _
    rw [hcon]
    exact hl r
  | resumeConnect t s => exact hp.still (still_resumeConnect hrun) _
  | send slot payload nb =>
    obtain ⟨res, hsend⟩ := onNet_ok hrun
    exact hp.send hsend h'.kernel
  | recv t slot outLen nb =>
    obtain ⟨a, hpark⟩ := onNet_ok hrun
    obtain ⟨n, hrecv, hstill, -⟩ := parking_ok hpark
    exact hp.recv hrecv hstill h'.kernel
  | close slot =>
    obtain ⟨⟨res, h1⟩, hclose, hrun⟩ := bind_eq_ok hrun
    cases hrun
    exact hp.close hclose
  | enqueue | dequeue => exact hop.elim
  | teardown pid => exact hp.teardown hrun

lemma posted_of_reach (hr : Reach Start Next p) : Posted p := by
  refine hr.invariant (I := Posted) (fun q ⟨hnet, hpending⟩ => ?_) fun q q' hq ⟨op, hop, hrun⟩ => ?_
  · refine ⟨?_, fun _ => [], ?_, ?_, ?_⟩
    · rw [hnet]
      exact registered_boot
    · rw [hnet]
      exact held_boot
    · rw [hnet]
      exact fun _ => ⟨le_rfl, fun _ => rfl⟩
    rw [hpending]
    exact fun _ => .nil
  · exact hq.step hop hrun

instance (op : Op) : Decidable (OnSockets op) := by
  apply @Op.casesOn _ op <;> intros <;> unfold OnSockets <;> infer_instance

/-- Calls on sockets, one after the other. -/
def runPost (p : Post) (ops : List Op) : Except Halt Post :=
  ops.foldlM (fun p op => if OnSockets op then p.step op else .error .panic) p

def quietPost : Post := { host := twoHosts, pending := fun _ => [] }

lemma reach_runPost {ops : List Op} (h : runPost quietPost ops = .ok p) : Reach Start Next p := by
  refine .foldlM (fun q op q' hstep => ?_) (.start ⟨rfl, rfl⟩) h
  split at hstep
  next hop =>
    exact ⟨op, hop, hstep⟩
  · cases hstep

/-- Three bytes from a UDP socket of the second process to one of the first, which is bound to the
address and has made the calls `more`. -/
def threeBytes (ip : Ip) (more : List Op) : List Op :=
  [.alloc .udp 17 1, .bind 0 ip 5000 false, .alloc .udp 17 2, .connect 2 1 loopbackIp 5000 false] ++
    more ++ [.send 1 [1, 2, 3] false]

/-- **Socket ids stay distinct and bindings apart**, in every run of calls on sockets. The ids are those
of the code, which counts modulo `2 ^ 64`, as long as it has not come round. -/
theorem registered_of_run (hr : Reach Start Next p) (hids : p.host.net.nextSocketId ≤ 2 ^ 64) :
    Registered p.host.net ∧ ∀ s t, (p.host.net.socket s).occupied → (p.host.net.socket t).occupied →
      (p.host.net.socket s).socketId % 2 ^ 64 = (p.host.net.socket t).socketId % 2 ^ 64 → s = t := by
  have hreg := (posted_of_reach hr).registered
  refine ⟨hreg, fun s t hs ht he => hreg.distinct s t hs ht ?_⟩
  rwa [Nat.mod_eq_of_lt ((hreg.fresh s hs).trans_le hids),
    Nat.mod_eq_of_lt ((hreg.fresh t ht).trans_le hids)] at he

theorem registered_of_run_threeBytes :
    ∃ p, runPost quietPost (threeBytes 0 []) = .ok p ∧ Registered p.host.net ∧
      ∀ s t, (p.host.net.socket s).occupied → (p.host.net.socket t).occupied →
        (p.host.net.socket s).socketId % 2 ^ 64 = (p.host.net.socket t).socketId % 2 ^ 64 → s = t := by
  obtain ⟨p, hrun, hids⟩ : ∃ p : Post, runPost quietPost (threeBytes 0 []) = .ok p ∧
      p.host.net.nextSocketId ≤ 2 ^ 64 := exists_ok (by decide +kernel)
  exact ⟨p, hrun, registered_of_run (reach_runPost hrun) hids⟩

/-- **The count of a UDP socket** is the number of letters on their way to it. -/
theorem count_of_run (hr : Reach Start Next p) (r : SockIdx)
    (hudp : (p.host.net.socket r).sockType = .udp) :
    (p.host.net.socket r).rxQueue.count = (p.pending r).length := by
  obtain ⟨nodes, -, hc, hl⟩ := (posted_of_reach hr).linked
  rw [(hc r).2 hudp, (hl r).length_eq, contents, List.length_map]

theorem count_of_run_threeBytes :
    ∃ p, runPost quietPost (threeBytes 0 []) = .ok p ∧ p.pending 0 = [some [1, 2, 3]] ∧
      (p.host.net.socket 0).rxQueue.count = (p.pending 0).length := by
  obtain ⟨p, hrun, hpend, hudp⟩ : ∃ p : Post, runPost quietPost (threeBytes 0 []) = .ok p ∧
      p.pending 0 = [some [1, 2, 3]] ∧ (p.host.net.socket 0).sockType = .udp :=
    exists_ok (by decide +kernel)
  exact ⟨p, hrun, hpend, count_of_run (reach_runPost hrun) 0 hudp⟩

/-! ### What is received -/

variable {rest : List Letter}

lemma Posted.recvSocket_eq (hp : Posted p)
    (hudp : (p.host.net.socket r).sockType = .udp) (hpend : p.pending r = some payload :: rest)
    (hlock : p.host.net.socketLock = false) (outLen : ℕ) (nb : Bool) :
    ∃ data n', Matches (some payload) data ∧ recvSocket r outLen nb p.host.net =
      .ok (.returned (.ok ((strip (p.host.net.socket r) data).take outLen)), n') := by
  obtain ⟨nodes, hh, hc, hl⟩ := hp.linked
  have hrel := hl r
  rw [hpend] at hrel
  unfold contents at hrel
  cases hnodes : nodes (.inl r) with
  | nil =>
    rw [hnodes] at hrel
    cases hrel
  | cons b l =>
    rw [hnodes] at hrel
    have hmatch := (List.forall₂_cons.mp hrel).1
    have hlive : Live p.host.net b := hh.live (.inl r) b (by rw [hnodes]; exact List.mem_cons_self)
    have hocc : (p.host.net.socket r).occupied := by
      by_contra hno
      have hnil := hh.nil (s := r) (by simpa using hno)
      rw [hnodes] at hnil
      cases hnil
    have hcount : (p.host.net.socket r).rxQueue.count > 0 := by
      have heq := (hc r).2 hudp
      rw [hnodes, List.length_cons] at heq
      omega
    have hhead : (p.host.net.socket r).rxQueue.head = some b := by
      have hfirst := (hh.filed.listed (.inl r)).head
      rw [hnodes] at hfirst
      exact hfirst
    have hdata : getPacketData p.host.net b = some (p.host.net.buf b).data := if_neg hlive
    have hround : recvSocket r outLen nb p.host.net = takePacket r outLen p.host.net := by
      unfold recvSocket
      rw [dif_pos r.isLt]
      unfold recvRound locked
      dsimp only
      rw [hlock, hocc, if_neg (by simp), if_neg (by simp),
        if_neg (not_not.mpr (hp.registered.plain r hudp).2), if_pos hcount]
    rw [hround]
    unfold takePacket
    dsimp only
    rw [hhead]
    dsimp only
    rw [hdata]
    exact ⟨_, _, hmatch, rfl⟩

lemma strip_letter {sock : SocketSlot} {data : List Byte} (hudp : sock.sockType = .udp)
    (hm : Matches (some payload) data) :
    strip sock data = if sock.remoteIp ≠ 0 ∧ sock.localIp ≠ 0 then data else payload := by
  obtain ⟨hlen, src, dst, srcPort, dstPort, rfl⟩ := hm
  unfold strip
  rw [hudp]
  rw [parseUdpHeader_udpSegment src dst srcPort dstPort hlen]
  by_cases hip : sock.remoteIp ≠ 0 ∧ sock.localIp ≠ 0
  · rw [if_pos hip, if_pos hip]
  · rw [if_neg hip, if_neg hip]

/-- **UDP over loopback.** A UDP socket receives the payloads of the letters to it in the order in which
they were sent, with a buffer that is large enough, if it has no local address or no remote address.
Otherwise it gets the header as well. -/
theorem loopback_delivers (hr : Reach Start Next p) (hudp : (p.host.net.socket r).sockType = .udp)
    (hpend : p.pending r = some payload :: rest) (outLen : ℕ) (nb : Bool) :
    (payload.length ≤ outLen → p.host.net.socketLock = false →
      ((p.host.net.socket r).localIp = 0 ∨ (p.host.net.socket r).remoteIp = 0) →
      ∃ n', recvSocket r outLen nb p.host.net = .ok (.returned (.ok payload), n')) ∧
    (udpHeaderLen + payload.length ≤ outLen →
      ((∃ n', recvSocket r outLen nb p.host.net = .ok (.returned (.ok payload), n')) ↔
        p.host.net.socketLock = false ∧
        ((p.host.net.socket r).localIp = 0 ∨ (p.host.net.socket r).remoteIp = 0))) := by
  have hp := posted_of_reach hr
  have hgood : payload.length ≤ outLen → p.host.net.socketLock = false →
      ((p.host.net.socket r).localIp = 0 ∨ (p.host.net.socket r).remoteIp = 0) →
      ∃ n', recvSocket r outLen nb p.host.net = .ok (.returned (.ok payload), n') := by
    intro hlen hlock hip
    obtain ⟨data, n1, hm, heq⟩ := hp.recvSocket_eq hudp hpend hlock outLen nb
    refine ⟨n1, ?_⟩
    rw [heq, strip_letter hudp hm, if_neg, List.take_of_length_le hlen]
    rintro ⟨hremote, hlocal⟩
    rcases hip with hip | hip
    · exact hlocal hip
    · exact hremote hip
  refine ⟨hgood, fun hlen => ⟨?_, fun ⟨hlock, hip⟩ => hgood (by omega) hlock hip⟩⟩
  rintro ⟨n', hrecv⟩
  have hlock : p.host.net.socketLock = false := by
    unfold recvSocket at hrecv
    rw [dif_pos r.isLt] at hrecv
    exact (locked_eq_ok hrecv).1
  obtain ⟨data, n1, hm, heq⟩ := hp.recvSocket_eq hudp hpend hlock outLen nb
  rw [hrecv, strip_letter hudp hm] at heq
  refine ⟨hlock, ?_⟩
  by_contra hno
  rw [not_or] at hno
  rw [if_pos ⟨hno.2, hno.1⟩] at heq
  -- the header makes the data longer than the payload
  obtain ⟨-, src, dst, srcPort, dstPort, rfl⟩ := hm
  have hd := udpSegment_length src dst srcPort dstPort payload
  rw [List.take_of_length_le (by omega)] at heq
  simp only [Except.ok.injEq, Prod.mk.injEq, Answer.returned.injEq] at heq
  have hself := congrArg List.length heq.1
  have hu : udpHeaderLen = 8 := rfl
  omega

theorem loopback_delivers_wildcard :
    ∃ p n', Reach Start Next p ∧ p.pending 0 = [some [1, 2, 3]] ∧
      recvSocket 0 64 false p.host.net = .ok (.returned (.ok [1, 2, 3]), n') := by
  obtain ⟨p, hrun, hpend, hudp, hlock, hip⟩ : ∃ p : Post,
      runPost quietPost (threeBytes 0 []) = .ok p ∧ p.pending 0 = [some [1, 2, 3]] ∧
      (p.host.net.socket 0).sockType = .udp ∧ p.host.net.socketLock = false ∧
      (p.host.net.socket 0).localIp = 0 := exists_ok (by decide +kernel)
  have hr := reach_runPost hrun
  obtain ⟨n', hrecv⟩ := (loopback_delivers hr hudp hpend 64 false).1 (by decide) hlock (.inl hip)
  exact ⟨p, n', hr, hpend, hrecv⟩

/-- **A bound and connected receiver** gets the header with the payload: eleven bytes for three. -/
theorem loopback_header_received :
    ∃ p bytes n', Reach Start Next p ∧ p.pending 0 = [some [1, 2, 3]] ∧
      recvSocket 0 64 false p.host.net = .ok (.returned (.ok bytes), n') ∧ bytes.length = 11 := by
  obtain ⟨p, hrun, hpend, hudp, hlock, hlocal, hremote⟩ : ∃ p : Post,
      runPost quietPost (threeBytes loopbackIp [.connect 1 0 loopbackIp 49152 false]) = .ok p ∧
      p.pending 0 = [some [1, 2, 3]] ∧ (p.host.net.socket 0).sockType = .udp ∧
      p.host.net.socketLock = false ∧ (p.host.net.socket 0).localIp ≠ 0 ∧
      (p.host.net.socket 0).remoteIp ≠ 0 := exists_ok (by decide +kernel)
  have hr := reach_runPost hrun
  obtain ⟨data, n', hm, hrecv⟩ := (posted_of_reach hr).recvSocket_eq hudp hpend hlock 64 false
  rw [strip_letter hudp hm, if_pos ⟨hremote, hlocal⟩] at hrecv
  refine ⟨p, _, n', hr, hpend, hrecv, ?_⟩
  obtain ⟨-, src, dst, srcPort, dstPort, rfl⟩ := hm
  rw [List.length_take, udpSegment_length]
  rfl

end ProjectZero.Net.Loopback
