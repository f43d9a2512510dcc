import ProjectZero.Net.Socket

/-! # Where the packet buffers are

The queues of the sockets and of the interfaces are a family of queues in the table of packet
buffers. What the calls do to this family is said here once: a call leaves it alone, takes the head of
a queue out, puts a buffer at the end of one, empties one, or loses a buffer. -/

namespace ProjectZero.Net.Filing

open Lib.Layout Lib.Linked Lib.Queues Lib.Update Net.Tables Packets Socket

abbrev QueueId := SockIdx ⊕ IfIdx × Direction

def links (n : Stack) (b : BufIdx) : Option BufIdx := (n.buf b).next

def Live (n : Stack) (b : BufIdx) : Prop := (n.buf b).state ≠ .free

def queues (n : Stack) : QueueId → Queue BufIdx
  | .inl s => (n.socket s).rxQueue
  | .inr (i, d) => (n.iface i).queue d

variable {n n' n₁ : Stack} {b c : BufIdx} {s : SockIdx} {q : QueueId}

/-! ### Updates -/

@[simp] lemma links_setBuf (p : PacketBuffer) :
    links (n.setBuf b p) = update (links n) b p.next := by
  funext c
  unfold links Stack.setBuf
  by_cases h : c = b
  · subst h
    simp
  · simp [h]

lemma queues_congr (hs : n'.socket = n.socket) (hi : n'.iface = n.iface) :
    queues n' = queues n := by
  funext q
  cases q with
  | inl t =>
    unfold queues
    rw [hs]
  | inr p =>
    unfold queues
    rw [hi]

@[simp] lemma queues_setBuf (p : PacketBuffer) : queues (n.setBuf b p) = queues n :=
  queues_congr rfl rfl

@[simp] lemma queues_freePacketBuffer : queues (freePacketBuffer b n) = queues n :=
  queues_setBuf _

lemma queues_setSocket (sock : SocketSlot) :
    queues (n.setSocket s sock) = update (queues n) (.inl s) sock.rxQueue := by
  funext q
  by_cases h : q = .inl s
  · subst h
    simp [queues, Stack.setSocket]
  rw [update_of_ne h]
  cases q with
  | inl t =>
    have ht : t ≠ s := fun e => h (congrArg Sum.inl e)
    simp [queues, Stack.setSocket, ht]
  | inr i => rfl

lemma queues_setSocket_same {sock : SocketSlot} (h : sock.rxQueue = (n.socket s).rxQueue) :
    queues (n.setSocket s sock) = queues n := by
  rw [queues_setSocket, h]
  exact update_eq_self _ _

variable {r : Queue BufIdx}

lemma queues_setIface {i : IfIdx} {f : NetworkInterface} {d : Direction}
    (h : f.queue = update (n.iface i).queue d r) :
    queues (n.setIface i f) = update (queues n) (.inr (i, d)) r := by
  funext q
  by_cases hq : q = .inr (i, d)
  · subst hq
    rw [update_self]
    simp [queues, Stack.setIface, h]
  rw [update_of_ne hq]
  cases q with
  | inl t => rfl
  | inr p =>
    obtain ⟨j, e⟩ := p
    by_cases hj : j = i
    · subst hj
      have he : e ≠ d := by
        rintro rfl
        exact hq rfl
      simp [queues, Stack.setIface, h, he]
    · simp [queues, Stack.setIface, hj]

/-! ### What happens to the family -/

/-- Buffers in use and queues stay; the records of free buffers do not matter. -/
structure Unmoved (n n' : Stack) : Prop where
  live : ∀ c, Live n' c ↔ Live n c
  buf : ∀ c, Live n c → n'.buf c = n.buf c
  queue_eq : queues n' = queues n

/-- The free buffer `b` is at the end of the queue `q`, with the bytes. -/
structure Put (n n' : Stack) (q : QueueId) (b : BufIdx) (bytes : List Byte) : Prop where
  free : ¬Live n b
  live : Live n' b
  data : (n'.buf b).data = bytes
  other : ∀ c ≠ b, (n'.buf c).state = (n.buf c).state ∧ (n'.buf c).data = (n.buf c).data
  link_eq : links n' = pushNext (links n) (queues n q) b
  queue_eq : queues n' = update (queues n) q (pushQueue (queues n q) b)

/-- The head `b` of the queue `q` is taken out and free. -/
structure Removed (n n' : Stack) (q : QueueId) (b : BufIdx) : Prop where
  head : (queues n q).head = some b
  free : ¬Live n' b
  other : ∀ c ≠ b, n'.buf c = n.buf c
  queue_eq : queues n' = update (queues n) q (popQueue (links n) (queues n q))

/-- The free buffer `b` is in use, and the queues are as before. -/
structure Lost (n n' : Stack) (b : BufIdx) : Prop where
  free : ¬Live n b
  live : Live n' b
  other : ∀ c ≠ b, n'.buf c = n.buf c
  queue_eq : queues n' = queues n

def Vacant (n : Stack) : Prop := ∀ s, (n.socket s).occupied = false → (n.socket s).rxQueue = .empty

lemma Unmoved.of_buf (hb : n'.buf = n.buf) (hq : queues n' = queues n) : Unmoved n n' :=
  ⟨fun c => by unfold Live; rw [hb], fun c _ => by rw [hb], hq⟩

lemma rxQueue_update {t : SockIdx} (h : queues n' = update (queues n) q r) (ht : q ≠ .inl t) :
    (n'.socket t).rxQueue = (n.socket t).rxQueue := by
  have hq := congrFun h (.inl t)
  rw [update_of_ne ht.symm] at hq
  exact hq

section

variable (hv : Vacant n) (ho : ∀ t, (n'.socket t).occupied = (n.socket t).occupied)

include hv ho

lemma Vacant.same (hq : queues n' = queues n) : Vacant n' := fun t ht =>
  (congrFun hq (.inl t)).trans (hv t ((ho t).symm.trans ht))

lemma Vacant.update (hq : queues n' = update (queues n) q r)
    (hocc : ∀ t, q = .inl t → (n.socket t).occupied) : Vacant n' := by
  intro t ht
  rw [ho t] at ht
  refine (rxQueue_update hq fun he => ?_).trans (hv t ht)
  rw [hocc t he] at ht
  cases ht

end

lemma queues_boot (q : QueueId) : queues .boot q = .empty := by
  cases q with
  | inl s => rfl
  | inr p =>
    unfold queues Stack.boot
    dsimp only
    rw [update_apply]
    split <;> rfl

variable {nodes : QueueId → List BufIdx}

lemma Unmoved.owned (h : Unmoved n n') (hf : Owned (Live n) (links n) (queues n) nodes) :
    Owned (Live n') (links n') (queues n') nodes := by
  rw [h.queue_eq]
  exact hf.congr h.live fun c hc => congrArg PacketBuffer.next (h.buf c hc)

variable {bytes : List Byte}

lemma Put.live_iff (h : Put n n' q b bytes) (c : BufIdx) : Live n' c ↔ Live n c ∨ c = b := by
  by_cases hc : c = b
  · subst hc
    exact ⟨fun _ => .inr rfl, fun _ => h.live⟩
  unfold Live
  rw [(h.other c hc).1]
  simp [hc]

lemma Put.owned (h : Put n n' q b bytes) (hf : Owned (Live n) (links n) (queues n) nodes) :
    Owned (Live n') (links n') (queues n') (update nodes q (nodes q ++ [b])) := by
  rw [h.link_eq, h.queue_eq]
  exact hf.push h.free h.live_iff

lemma Removed.live_iff (h : Removed n n' q b) (c : BufIdx) : Live n' c ↔ Live n c ∧ c ≠ b := by
  by_cases hc : c = b
  · subst hc
    exact ⟨fun hl => absurd hl h.free, fun hl => absurd rfl hl.2⟩
  unfold Live
  rw [h.other c hc]
  simp [hc]

lemma Removed.nodes_eq {live : BufIdx → Prop} (h : Removed n n' q b)
    (hf : Filed live (links n) (queues n) nodes) : ∃ l, nodes q = b :: l :=
  List.head?_eq_some_iff.mp ((hf.listed q).head.symm.trans h.head)

variable {l : List BufIdx}

lemma Removed.owned (h : Removed n n' q b) (hl : nodes q = b :: l)
    (hf : Owned (Live n) (links n) (queues n) nodes) :
    Owned (Live n') (links n') (queues n') (update nodes q l) := by
  rw [h.queue_eq]
  exact hf.pop hl h.live_iff fun c hc => congrArg PacketBuffer.next (h.other c hc)

/-- **A lost buffer** is in use and in no queue. -/
lemma Lost.not_chained (h : Lost n n' b) (hf : Filed (Live n) (links n) (queues n) nodes)
    {nodes' : QueueId → List BufIdx} :
    ¬Chained (Live n') (links n') (fun q => (queues n' q).head) nodes' := by
  intro h'
  have hf' : Filed (Live n) (links n') (queues n') nodes := by
    rw [h.queue_eq]
    refine hf.congr (fun _ => Iff.rfl) (fun c hc => ?_) fun _ => ⟨rfl, rfl⟩
    refine congrArg PacketBuffer.next (h.other c ?_)
    rintro rfl
    exact h.free hc
  exact h.free (((hf'.chained.unique h').2 b).mpr h.live)

/-! ### The pool -/

lemma allocPacketBuffer_cases (st : PacketBufferState) (n : Stack) :
    (allocPacketBuffer st n = (none, n) ∧ ∀ b, Live n b) ∨
    ∃ b, ¬Live n b ∧ allocPacketBuffer st n =
      (some b, n.setBuf b { n.buf b with state := st, data := [], next := none }) := by
  unfold allocPacketBuffer
  cases hfind : (List.finRange 32).find? fun b => (n.buf b).state = .free with
  | none =>
    refine .inl ⟨rfl, fun b hb => ?_⟩
    have h := List.find?_eq_none.mp hfind b (List.mem_finRange b)
    simp [hb] at h
  | some b =>
    refine .inr ⟨b, ?_, rfl⟩
    have h := List.find?_some hfind
    unfold Live
    simpa using h

lemma freePacketBuffer_free (b : BufIdx) (n : Stack) : ¬Live (freePacketBuffer b n) b := by
  unfold Live freePacketBuffer Stack.setBuf
  simp

lemma freePacketBuffer_other (n : Stack) (h : c ≠ b) : (freePacketBuffer b n).buf c = n.buf c :=
  update_of_ne h _ _

lemma Unmoved.of_freed (hb : ¬Live n b) (hbuf : n'.buf = (freePacketBuffer b n₁).buf)
    (hother : ∀ c ≠ b, n₁.buf c = n.buf c) (hq : queues n' = queues n) : Unmoved n n' := by
  refine ⟨fun c => ?_, fun c hc => ?_, hq⟩
  · unfold Live
    rw [hbuf]
    by_cases hc : c = b
    · subst hc
      exact ⟨fun hl => absurd hl (freePacketBuffer_free c n₁), fun hl => absurd hl hb⟩
    · rw [freePacketBuffer_other n₁ hc, hother c hc]
  have hcb : c ≠ b := fun he => hb (he ▸ hc)
  rw [hbuf]
  exact (freePacketBuffer_other n₁ hcb).trans (hother c hcb)

/-! ### Links -/

/-- **`link`** puts the buffer at the end of the queue. -/
lemma link_ok {r' : Queue BufIdx} (h : link b r n = .ok (r', n')) :
    r' = pushQueue r b ∧ links n' = pushNext (links n) r b ∧
      (∀ c, (n'.buf c).state = (n.buf c).state ∧ (n'.buf c).data = (n.buf c).data) ∧
      n' = { n with buf := n'.buf } := by
  have hset : ∀ (m : Stack) (a c : BufIdx) (o : Option BufIdx),
      ((m.setBuf a { m.buf a with next := o }).buf c).state = (m.buf c).state ∧
      ((m.setBuf a { m.buf a with next := o }).buf c).data = (m.buf c).data := by
    intro m a c o
    exact ⟨update_keep PacketBuffer.state (by rfl) c, update_keep PacketBuffer.data (by rfl) c⟩
  unfold link at h
  cases hhead : r.head with
  | none =>
    rw [hhead] at h
    cases h
    refine ⟨rfl, ?_, fun c => hset n b c none, rfl⟩
    rw [links_setBuf]
    unfold pushNext
    rw [hhead]
  | some a =>
    cases htail : r.tail with
    | none =>
      rw [hhead, htail] at h
      cases h
    | some t =>
      rw [hhead, htail] at h
      cases h
      refine ⟨rfl, ?_, fun c => ?_, rfl⟩
      · rw [links_setBuf, links_setBuf]
        unfold pushNext
        rw [hhead, htail]
      have h1 := hset n b c none
      have h2 := hset (n.setBuf b { n.buf b with next := none }) t c (some b)
      exact ⟨h2.1.trans h1.1, h2.2.trans h1.2⟩

/-! ### Emptying a queue -/

lemma drainBuffers_eq : ∀ (k : ℕ) (a : Option BufIdx) (n : Stack),
    ∃ buf, drainBuffers k a n = { n with buf := buf }
  | 0, _, n => ⟨n.buf, rfl⟩
  | _ + 1, none, n => ⟨n.buf, rfl⟩
  | k + 1, some b, n => by
    obtain ⟨buf, hbuf⟩ := drainBuffers_eq k (n.buf b).next (freePacketBuffer b n)
    exact ⟨buf, hbuf⟩

/-- **The drain** frees the buffers of the chain and no others. -/
lemma drainBuffers_chain :
    ∀ {k : ℕ} {a : Option BufIdx} {n : Stack}, Chain (links n) a l → l.length < k →
      (∀ c ∈ l, ¬Live (drainBuffers k a n) c) ∧ ∀ c ∉ l, (drainBuffers k a n).buf c = n.buf c := by
  induction l with
  | nil =>
    intro k a n h hk
    have ha : a = none := h
    subst ha
    have hd : drainBuffers k none n = n := by
      cases k <;> rfl
    rw [hd]
    refine ⟨fun c hc => ?_, fun _ _ => rfl⟩
    cases hc
  | cons b l ih =>
    intro k a n h hk
    have hnodup := chain_nodup h
    obtain ⟨hb, -⟩ := List.nodup_cons.mp hnodup
    obtain ⟨rfl, hrest⟩ := h
    rw [List.length_cons] at hk
    obtain ⟨k, rfl⟩ : ∃ m, k = m + 1 := ⟨k - 1, by omega⟩
    have hchain : Chain (links (freePacketBuffer b n)) (n.buf b).next l := by
      refine chain_congr (fun c hc => ?_) hrest
      have hcb : c ≠ b := by
        rintro rfl
        exact hb hc
      exact congrArg PacketBuffer.next (freePacketBuffer_other n hcb)
    obtain ⟨hin, hout⟩ := ih hchain (show l.length < k by omega)
    have hd : drainBuffers (k + 1) (some b) n =
        drainBuffers k (n.buf b).next (freePacketBuffer b n) := rfl
    rw [hd]
    refine ⟨fun c hc => ?_, fun c hc => ?_⟩
    · rcases List.mem_cons.mp hc with rfl | hc
      · unfold Live
        rw [hout c hb]
        exact freePacketBuffer_free c n
      · exact hin c hc
    have hcb : c ≠ b := by
      rintro rfl
      exact hc List.mem_cons_self
    rw [hout c fun hcl => hc (List.mem_cons_of_mem b hcl)]
    exact freePacketBuffer_other n hcb

end ProjectZero.Net.Filing
