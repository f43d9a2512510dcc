import ProjectZero.Net.Effects

/-! # Packets in the queues of sockets

Buffers may be lost, and the queue of a listener may count packets that do not exist; but what is linked
in the queues is always linked properly (`Held`), and the packets that wait for a socket are a list
(`contents`). A call puts a packet at the end of one of these lists, takes the first one out, or empties
one. -/

namespace ProjectZero.Net.Delivery

open Lib.Layout Lib.Queues Lib.Update Net.Tables Socket Filing Effects

/-- The buffers `nodes` are linked in the queues, each in one of them, and in use. A slot without a
socket has no packets. -/
structure Held (n : Stack) (nodes : QueueId → List BufIdx) : Prop where
  filed : Filed (fun b => ∃ q, b ∈ nodes q) (links n) (queues n) nodes
  live : ∀ q, ∀ b ∈ nodes q, Live n b
  vacant : ∀ s, (n.socket s).occupied = false → (n.socket s).rxQueue = .empty

/-- The packets that wait for the socket. -/
def contents (n : Stack) (nodes : QueueId → List BufIdx) (s : SockIdx) : List (List Byte) :=
  (nodes (.inl s)).map fun b => (n.buf b).data

/-- The packets after one more in the queue. -/
def arrived (c : SockIdx → List (List Byte)) (bytes : List Byte) :
    QueueId → SockIdx → List (List Byte)
  | .inl t => update c t (c t ++ [bytes])
  | .inr _ => c

variable {n n' : Stack} {nodes nodes' : QueueId → List BufIdx} {b : BufIdx} {s i : SockIdx}
  {h h' : Host}

lemma filed_self {live : BufIdx → Prop} (hf : Filed live (links n) (queues n) nodes) :
    Filed (fun b => ∃ q, b ∈ nodes q) (links n) (queues n) nodes :=
  ⟨hf.listed, hf.disjoint, fun _ => Iff.rfl⟩

lemma Held.nil (hh : Held n nodes) (hs : (n.socket s).occupied = false) : nodes (.inl s) = [] := by
  refine (hh.filed.listed (.inl s)).head_eq_none.mp ?_
  show (n.socket s).rxQueue.head = none
  rw [hh.vacant s hs]
  rfl

lemma contents_congr (h : ∀ b ∈ nodes (.inl s), (n'.buf b).data = (n.buf b).data) :
    contents n' nodes s = contents n nodes s :=
  List.map_congr_left h

lemma contents_update {l : List BufIdx}
    (h : ∀ t, ∀ c ∈ update nodes (.inl s) l (.inl t), (n'.buf c).data = (n.buf c).data) :
    contents n' (update nodes (.inl s) l) =
      update (contents n nodes) s (l.map fun b => (n.buf b).data) := by
  funext t
  refine (List.map_congr_left (h t)).trans ?_
  rw [Sum.update_inl_apply_inl]
  exact Function.apply_update (fun _ => List.map fun b => (n.buf b).data) (nodes ∘ .inl) s l t

lemma held_boot : Held .boot fun _ => [] := by
  refine ⟨⟨fun q => ?_, nofun, fun _ => Iff.rfl⟩, nofun, fun _ _ => rfl⟩
  rw [queues_boot q]
  exact lists_empty

/-! ### Changes -/

section

variable (hh : Held n nodes)

include hh

lemma Held.keep (hbuf : ∀ c, Live n c → n'.buf c = n.buf c)
    (hq : ∀ q, (queues n' q).head = (queues n q).head ∧ (queues n' q).tail = (queues n q).tail)
    (hv : Vacant n') : Held n' nodes ∧ contents n' nodes = contents n nodes := by
  refine ⟨⟨hh.filed.congr (fun _ => Iff.rfl) ?_ hq, fun q b hb => ?_, hv⟩, ?_⟩
  · rintro c ⟨q, hc⟩
    exact congrArg PacketBuffer.next (hbuf c (hh.live q c hc))
  · unfold Live
    rw [hbuf b (hh.live q b hb)]
    exact hh.live q b hb
  funext t
  exact contents_congr fun c hc => congrArg PacketBuffer.data (hbuf c (hh.live _ c hc))

lemma Held.unmoved (h : Unmoved n n') (hv : Vacant n') :
    Held n' nodes ∧ contents n' nodes = contents n nodes :=
  hh.keep h.buf (fun q => by rw [h.queue_eq]; exact ⟨rfl, rfl⟩) hv

lemma Held.still (h : Still n n') : Held n' nodes ∧ contents n' nodes = contents n nodes :=
  hh.unmoved h.unmoved (Vacant.same hh.vacant h.occupied h.queues_eq)

lemma Held.lost (h : Lost n n' b) (hc : Carried n n') :
    Held n' nodes ∧ contents n' nodes = contents n nodes :=
  hh.keep (fun c hl => h.other c fun he => h.free (he ▸ hl))
    (fun q => by rw [h.queue_eq]; exact ⟨rfl, rfl⟩) (Vacant.same hh.vacant hc.occupied h.queue_eq)

/-- A count without a packet is not in a slot without a socket. -/
lemma Held.counted (h : Counted n n' i) (hi : (n.socket i).occupied) :
    Held n' nodes ∧ contents n' nodes = contents n nodes := by
  refine hh.keep (fun c _ => by rw [h.buf]) (fun q => ?_)
    (Vacant.update hh.vacant h.occupied h.queue_eq ?_)
  · rw [h.queue_eq]
    exact ⟨update_keep Queue.head (by rfl) q, update_keep Queue.tail (by rfl) q⟩
  rintro t ⟨⟩
  exact hi

lemma Held.put {q : QueueId} {bytes : List Byte} (h : Put n n' q b bytes)
    (hc : Carried n n') (hq : ∀ t, q = .inl t → (n.socket t).occupied) :
    Held n' (update nodes q (nodes q ++ [b])) ∧
      contents n' (update nodes q (nodes q ++ [b])) = arrived (contents n nodes) bytes q := by
  have hfree : ¬∃ q', b ∈ nodes q' := fun ⟨q', hb⟩ => h.free (hh.live q' b hb)
  have hpush := hh.filed.push (k := q) hfree fun c => (Iff.rfl : ((∃ q', c ∈ nodes q') ∨ c = b) ↔ _)
  rw [← h.link_eq, ← h.queue_eq] at hpush
  refine ⟨⟨filed_self hpush, fun q' c hmem => ?_, ?_⟩, ?_⟩
  · rw [h.live_iff c]
    rcases (hpush.in_use c).mpr ⟨q', hmem⟩ with ⟨q0, hq0⟩ | rfl
    · exact .inl (hh.live q0 c hq0)
    · exact .inr rfl
  · exact Vacant.update hh.vacant hc.occupied h.queue_eq hq
  have hold : contents n' nodes = contents n nodes := by
    funext t
    refine contents_congr fun c hmem => (h.other c ?_).2
    rintro rfl
    exact hfree ⟨_, hmem⟩
  cases q with
  | inr p =>
    funext t
    refine Eq.trans ?_ (congrFun hold t)
    exact congrArg (List.map _) (update_of_ne Sum.inl_ne_inr _ _)
  | inl r =>
    rw [contents_update fun _ _ _ => rfl, List.map_append, List.map_singleton, h.data, hold]
    exact congrArg (fun l => update (contents n nodes) r (l ++ [bytes])) (congrFun hold r)

lemma Held.removed (h : Removed n n' (.inl s) b) (hc : Carried n n') (hs : (n.socket s).occupied) :
    ∃ l, nodes (.inl s) = b :: l ∧ Held n' (update nodes (.inl s) l) ∧
      contents n nodes s = (n.buf b).data :: l.map (fun c => (n.buf c).data) ∧
      contents n' (update nodes (.inl s) l) =
        update (contents n nodes) s (contents n nodes s).tail := by
  obtain ⟨l, hl⟩ := h.nodes_eq hh.filed
  have hpop := hh.filed.pop hl (fun c => (Iff.rfl : ((∃ q', c ∈ nodes q') ∧ c ≠ b) ↔ _))
    fun c hne => (congrArg PacketBuffer.next (h.other c hne) : links n' c = links n c)
  rw [← h.queue_eq] at hpop
  have hne : ∀ q, ∀ c ∈ update nodes (.inl s) l q, (∃ q', c ∈ nodes q') ∧ c ≠ b :=
    fun q c hmem => (hpop.in_use c).mpr ⟨q, hmem⟩
  have hcons : contents n nodes s = (n.buf b).data :: l.map fun c => (n.buf c).data := by
    unfold contents
    rw [hl]
    rfl
  refine ⟨l, hl, ⟨filed_self hpop, fun q c hmem => ?_, ?_⟩, hcons, ?_⟩
  · obtain ⟨⟨q', hq'⟩, hcb⟩ := hne q c hmem
    unfold Live
    rw [h.other c hcb]
    exact hh.live q' c hq'
  · refine Vacant.update hh.vacant hc.occupied h.queue_eq ?_
    rintro t ⟨⟩
    exact hs
  rw [hcons]
  exact contents_update fun t c hmem => congrArg PacketBuffer.data (h.other c (hne _ c hmem).2)

lemma Held.drained (h : Drained n n' s (nodes (.inl s))) :
    Held n' (update nodes (.inl s) []) ∧
      contents n' (update nodes (.inl s) []) = update (contents n nodes) s [] := by
  have hdrain := hh.filed.drain (k := .inl s)
    (fun c => (Iff.rfl : ((∃ q', c ∈ nodes q') ∧ c ∉ nodes (.inl s)) ↔ _))
    fun c hne => (congrArg PacketBuffer.next (h.other c hne) : links n' c = links n c)
  rw [← h.queues_eq] at hdrain
  have hne : ∀ q, ∀ c ∈ update nodes (.inl s) [] q, (∃ q', c ∈ nodes q') ∧ c ∉ nodes (.inl s) :=
    fun q c hmem => (hdrain.in_use c).mpr ⟨q, hmem⟩
  refine ⟨⟨filed_self hdrain, fun q c hmem => ?_, h.vacant hh.vacant⟩, ?_⟩
  · obtain ⟨⟨q', hq'⟩, hcs⟩ := hne q c hmem
    exact (h.live_iff c).mpr ⟨hh.live q' c hq', hcs⟩
  · exact contents_update fun t c hmem => congrArg PacketBuffer.data (h.other c (hne _ c hmem).2)

end

lemma Held.release (hh : Held h.net nodes) (hr : releaseSocket h s = .ok h') :
    Drained h.net h'.net s (nodes (.inl s)) :=
  releaseSocket_drained hr (hh.filed.listed (.inl s)).chain

lemma Held.alloc (hh : Held h.net nodes) {sockType : SocketType} {protocol pid : ℕ}
    {r : Except SyscallError (SockIdx × ℕ)}
    (hr : allocSocket sockType protocol pid h = .ok (r, h')) :
    Held h'.net nodes ∧ contents h'.net nodes = contents h.net nodes := by
  obtain ⟨hu, hv⟩ := allocSocket_unmoved hh.vacant hr
  exact hh.unmoved hu hv

/-! ### Sending -/

/-- The packets of the sockets stay where they are. -/
def Stays (n n' : Stack) (nodes : QueueId → List BufIdx) : Prop :=
  ∃ nodes', Held n' nodes' ∧ (∀ t, nodes' (.inl t) = nodes (.inl t)) ∧
    (∀ t, (n'.socket t).rxQueue = (n.socket t).rxQueue) ∧ contents n' nodes' = contents n nodes

lemma Stays.of_queues (hq : queues n' = queues n)
    (hh : Held n' nodes ∧ contents n' nodes = contents n nodes) : Stays n n' nodes :=
  ⟨nodes, hh.1, fun _ => rfl, fun t => congrFun hq (.inl t), hh.2⟩

/-- **A send** that succeeds puts a packet into the queue of a socket on the machine, or its packet
leaves; one that fails moves no packets of sockets. -/
lemma Held.sent (hh : Held n nodes) {slot : ℕ} {payload : List Byte} {nb : Bool}
    {res : Except SyscallError ℕ} (hr : sendSocket slot payload nb n = .ok (res, n')) :
    Carried n n' ∧ (((∃ e, res = .error e) ∧ Stays n n' nodes) ∨
      ∃ hs : slot < 16, res = .ok payload.length ∧ Fits (n.socket ⟨slot, hs⟩).sockType payload ∧
        ((localTarget (n.socket ⟨slot, hs⟩) n = none ∧ Stays n n' nodes) ∨
          ∃ i b, localTarget (n.socket ⟨slot, hs⟩) n = some i ∧ (n.socket i).occupied ∧
            Put n n' (.inl i) b (segmentOf n ⟨slot, hs⟩ payload))) := by
  rcases sendSocket_cases hr with ⟨rfl, he, -⟩ | ⟨hs, b, -, hb, hcar, hcases⟩
  · exact ⟨Carried.refl _, .inl ⟨he, .of_queues rfl ⟨hh, rfl⟩⟩⟩
  refine ⟨hcar, ?_⟩
  rcases hcases with ⟨-, he, -, lost⟩ | ⟨hfit, hok, -, hdisp⟩
  · exact .inl ⟨he, .of_queues lost.queue_eq (hh.lost lost hcar)⟩
  refine .inr ⟨hs, hok, hfit, ?_⟩
  cases hdisp with
  | delivered i target put => exact .inr ⟨i, b, target, (localTarget_some target).2.1, put⟩
  | queued j target out put =>
    obtain ⟨hh', hcon⟩ := hh.put put hcar nofun
    exact .inl ⟨target, _, hh', fun t => update_of_ne Sum.inl_ne_inr _ _,
      fun t => rxQueue_update put.queue_eq nofun, hcon⟩
  | dropped target out unmoved =>
    have hv := Vacant.same hh.vacant hcar.occupied unmoved.queue_eq
    exact .inl ⟨target, .of_queues unmoved.queue_eq (hh.unmoved unmoved hv)⟩
  | stranded target out lost =>
    exact .inl ⟨target, .of_queues lost.queue_eq (hh.lost lost hcar)⟩

end ProjectZero.Net.Delivery
