import ProjectZero.Lib.Linked

/-! # Queues in a table of linked nodes

Several queues share the nodes of one table: a queue has a head, a tail and a count, and each node a
link to the next. `Lists next q l` says that the nodes of the queue are `l`, in order. A family of
queues is `Filed` when every node in use is in exactly one of them and the others are in none, and
`Owned` when in addition every count is right.

A node that is not in use can be put at the end of a queue, and the head of a queue can be taken out
and given back; both keep a family owned, as does emptying a queue. The other edits break it: putting
a node in use at the end of a queue (`not_chained_push`), taking out a head that stays in use, or
touching a count alone. -/

namespace ProjectZero.Lib.Queues

open Linked

variable {ι κ : Type}

structure Queue (ι : Type) where
  head : Option ι
  tail : Option ι
  count : ℕ
  deriving DecidableEq

def Queue.empty : Queue ι := { head := none, tail := none, count := 0 }

/-- The links after `b` is put at the end of the queue. -/
def pushNext [DecidableEq ι] (next : ι → Option ι) (q : Queue ι) (b : ι) : ι → Option ι :=
  let next := update next b none
  match q.head, q.tail with
  | some _, some t => update next t (some b)
  | _, _ => next

/-- The queue after `b` is put at its end. -/
def pushQueue (q : Queue ι) (b : ι) : Queue ι :=
  { head := q.head.or (some b), tail := some b, count := q.count + 1 }

/-- The queue after its head is taken out. -/
def popQueue (next : ι → Option ι) (q : Queue ι) : Queue ι :=
  let head := q.head.bind next
  { head := head, tail := if head = none then none else q.tail, count := q.count - 1 }

/-! ### One queue -/

section One

variable {next next' : ι → Option ι} {q : Queue ι} {l l' : List ι} {b : ι}

/-- The nodes of the queue are `l`, in order. -/
structure Lists (next : ι → Option ι) (q : Queue ι) (l : List ι) : Prop where
  chain : Chain next q.head l
  tail : q.tail = l.getLast?

section

variable (h : Lists next q l)

include h

lemma Lists.congr (hn : ∀ c ∈ l, next' c = next c) : Lists next' q l :=
  ⟨chain_congr hn h.chain, h.tail⟩

lemma Lists.head : q.head = l.head? := by
  cases l with
  | nil => exact h.chain
  | cons c l => exact h.chain.1

lemma Lists.head_eq_none : q.head = none ↔ l = [] := by
  rw [h.head, List.head?_eq_none_iff]

lemma Lists.tail_eq_none : q.tail = none ↔ l = [] := by
  rw [h.tail, List.getLast?_eq_none_iff]

end

lemma lists_empty : Lists next (Queue.empty : Queue ι) [] := ⟨rfl, rfl⟩

/-- **The head taken out.** -/
lemma Lists.pop (h : Lists next q (b :: l)) : Lists next (popQueue next q) l := by
  have hhead : q.head.bind next = next b := by rw [h.chain.1]; rfl
  have hchain : Chain next (next b) l := h.chain.2
  refine ⟨?_, ?_⟩
  · show Chain next (q.head.bind next) l
    rw [hhead]
    exact hchain
  show (if q.head.bind next = none then none else q.tail) = l.getLast?
  rw [hhead, h.tail]
  cases l with
  | nil =>
    have hnone : next b = none := hchain
    rw [if_pos hnone]
    rfl
  | cons c l =>
    have hsome : next b = some c := hchain.1
    rw [if_neg (by rw [hsome]; exact Option.some_ne_none c), List.getLast?_cons_cons]

variable [DecidableEq ι]

section

variable (h : Lists next q l)

include h

/-- **A node at the end.** -/
lemma Lists.push (hb : b ∉ l) : Lists (pushNext next q b) (pushQueue q b) (l ++ [b]) := by
  refine ⟨?_, by simp [pushQueue]⟩
  rcases List.eq_nil_or_concat l with rfl | ⟨l1, t, hl⟩
  · have hhead : q.head = none := h.head
    have hnext : pushNext next q b = update next b none := by
      unfold pushNext
      rw [hhead]
    rw [hnext]
    refine ⟨?_, ?_⟩
    · simp [pushQueue, hhead]
    · exact update_self b none next
  rw [List.concat_eq_append] at hl
  subst hl
  have htail : q.tail = some t := by rw [h.tail]; simp
  obtain ⟨a, hhead⟩ : ∃ a, q.head = some a := by
    rw [h.head]
    cases l1 <;> simp
  have hnext : pushNext next q b = update (update next b none) t (some b) := by
    unfold pushNext
    rw [hhead, htail]
  have hbt : b ≠ t := by
    rintro rfl
    exact hb (by simp)
  have hnodup := chain_nodup h.chain
  have ht : t ∉ l1 := by
    intro hmem
    exact (List.disjoint_of_nodup_append hnodup) hmem (by simp)
  have hh : (pushQueue q b).head = q.head := by simp [pushQueue, hhead]
  rw [hh]
  have hold : Chain (fun c => if c = b then none else next c) q.head (l1 ++ [t]) := by
    refine chain_congr (fun c hc => if_neg ?_) h.chain
    rintro rfl
    exact hb hc
  have hnew : Chain (fun c => if c = b then none else next c) (some b) [b] := ⟨rfl, if_pos rfl⟩
  refine chain_concat hold hnew ?_ ?_ ?_
  · rw [hnext, update_self]
  · intro c hc
    have hct : c ≠ t := by
      rintro rfl
      exact ht hc
    rw [hnext, update_of_ne hct, update_apply]
  intro c hc
  rw [List.mem_singleton] at hc
  subst hc
  rw [hnext, update_of_ne hbt, update_apply]

lemma Lists.pushNext_of_ne {c : ι} (hc : c ≠ b)
    (hcl : l.getLast? ≠ some c) : pushNext next q b c = next c := by
  have hct : ∀ t, q.tail = some t → c ≠ t := by
    rintro t ht rfl
    rw [h.tail] at ht
    exact hcl ht
  unfold pushNext
  cases q.head with
  | none => exact update_of_ne hc _ _
  | some a =>
    cases ht : q.tail with
    | none => exact update_of_ne hc _ _
    | some t =>
      dsimp only
      rw [update_of_ne (hct t ht), update_of_ne hc]

lemma Lists.pushNext_of_not_mem {c : ι} (hc : c ≠ b) (hcl : c ∉ l) : pushNext next q b c = next c :=
  h.pushNext_of_ne hc fun he => hcl (List.mem_of_getLast? he)

lemma Lists.pushNext_self (hb : l.getLast? ≠ some b) : pushNext next q b b = none := by
  have hbt : ∀ t, q.tail = some t → b ≠ t := by
    rintro t ht rfl
    rw [h.tail] at ht
    exact hb ht
  unfold pushNext
  cases q.head with
  | none => exact update_self b _ _
  | some a =>
    cases ht : q.tail with
    | none => exact update_self b _ _
    | some t =>
      dsimp only
      rw [update_of_ne (hbt t ht)]
      exact update_self b _ _

lemma Lists.pushNext_last (hb : l.getLast? = some b) : pushNext next q b b = some b := by
  have htail : q.tail = some b := by rw [h.tail, hb]
  obtain ⟨a, hhead⟩ : ∃ a, q.head = some a := by
    rw [h.head]
    cases l with
    | nil => cases hb
    | cons a l => exact ⟨a, rfl⟩
  unfold pushNext
  rw [hhead, htail]
  exact update_self b _ _

end

end One

/-! ### A family of queues -/

section Family

variable {next next' : ι → Option ι} {queue queue' : κ → Queue ι} {live live' : ι → Prop}
  {nodes nodes' : κ → List ι} {k : κ} {b : ι}

/-- From the heads, the links visit the nodes in use, each of them once, and no others. -/
structure Chained (live : ι → Prop) (next : ι → Option ι) (head : κ → Option ι)
    (nodes : κ → List ι) : Prop where
  chain : ∀ k, Chain next (head k) (nodes k)
  disjoint : ∀ k k', k ≠ k' → (nodes k).Disjoint (nodes k')
  in_use : ∀ b, live b ↔ ∃ k, b ∈ nodes k

/-- The nodes in use are in exactly one queue, and the others in none. -/
structure Filed (live : ι → Prop) (next : ι → Option ι) (queue : κ → Queue ι)
    (nodes : κ → List ι) : Prop where
  listed : ∀ k, Lists next (queue k) (nodes k)
  disjoint : ∀ k k', k ≠ k' → (nodes k).Disjoint (nodes k')
  in_use : ∀ b, live b ↔ ∃ k, b ∈ nodes k

/-- In addition, every count is right. -/
structure Owned (live : ι → Prop) (next : ι → Option ι) (queue : κ → Queue ι)
    (nodes : κ → List ι) : Prop extends Filed live next queue nodes where
  count : ∀ k, (queue k).count = (nodes k).length

lemma Filed.chained (h : Filed live next queue nodes) :
    Chained live next (fun k => (queue k).head) nodes :=
  ⟨fun k => (h.listed k).chain, h.disjoint, h.in_use⟩

variable {head : κ → Option ι}

lemma Chained.only (h : Chained live next head nodes) {k' : κ}
    (hb : b ∈ nodes k) (hb' : b ∈ nodes k') : k = k' := by
  by_contra hne
  exact h.disjoint k k' hne hb hb'

section

variable (h : Filed live next queue nodes)

include h

lemma Filed.only {k' : κ} (hb : b ∈ nodes k) (hb' : b ∈ nodes k') : k = k' := by
  by_contra hne
  exact h.disjoint k k' hne hb hb'

lemma Filed.not_mem (hb : ¬live b) (k : κ) : b ∉ nodes k :=
  fun hmem => hb ((h.in_use b).mpr ⟨k, hmem⟩)

lemma Filed.congr (hl : ∀ b, live' b ↔ live b) (hn : ∀ b, live b → next' b = next b)
    (hq : ∀ k, (queue' k).head = (queue k).head ∧ (queue' k).tail = (queue k).tail) :
    Filed live' next' queue' nodes := by
  refine ⟨fun k => ⟨?_, ?_⟩, h.disjoint, fun b => (hl b).trans (h.in_use b)⟩
  · rw [(hq k).1]
    exact chain_congr (fun c hc => hn c ((h.in_use c).mpr ⟨k, hc⟩)) (h.listed k).chain
  rw [(hq k).2]
  exact (h.listed k).tail

end

lemma Owned.congr (h : Owned live next queue nodes) (hl : ∀ b, live' b ↔ live b)
    (hn : ∀ b, live b → next' b = next b) : Owned live' next' queue nodes :=
  ⟨h.toFiled.congr hl hn fun _ => ⟨rfl, rfl⟩, h.count⟩

variable [DecidableEq κ]

/-- The nodes `r` are taken out of the queue `k`, which has the nodes `l` then. -/
lemma Filed.replace (h : Filed live next queue nodes) {q : Queue ι} {l : List ι}
    (hq : Lists next' q l) (hsub : ∀ c ∈ l, c ∈ nodes k)
    (hn : ∀ c ∉ nodes k, live c → next' c = next c)
    (hlive : ∀ c, live' c ↔ live c ∧ (c ∈ nodes k → c ∈ l)) :
    Filed live' next' (update queue k q) (update nodes k l) := by
  have hother : ∀ k', k' ≠ k → ∀ c ∈ nodes k', c ∉ nodes k := fun k' hne c hc hck =>
    hne (h.only hc hck)
  refine ⟨fun k' => ?_, fun k1 k2 hne => ?_, fun c => ?_⟩
  · by_cases hk : k' = k
    · subst hk
      rw [update_self, update_self]
      exact hq
    rw [update_of_ne hk, update_of_ne hk]
    exact (h.listed k').congr fun c hc =>
      hn c (hother k' hk c hc) ((h.in_use c).mpr ⟨k', hc⟩)
  · have hle : ∀ k' c, c ∈ update nodes k l k' → c ∈ nodes k' := by
      intro k' c hc
      by_cases hk : k' = k
      · subst hk
        rw [update_self] at hc
        exact hsub c hc
      rw [update_of_ne hk] at hc
      exact hc
    exact fun c hc1 hc2 => h.disjoint k1 k2 hne (hle k1 c hc1) (hle k2 c hc2)
  rw [hlive, h.in_use]
  constructor
  · rintro ⟨⟨k', hk'⟩, hin⟩
    by_cases hk : k' = k
    · subst hk
      exact ⟨k', by rw [update_self]; exact hin hk'⟩
    · exact ⟨k', by rw [update_of_ne hk]; exact hk'⟩
  rintro ⟨k', hk'⟩
  by_cases hk : k' = k
  · subst hk
    rw [update_self] at hk'
    exact ⟨⟨k', hsub c hk'⟩, fun _ => hk'⟩
  rw [update_of_ne hk] at hk'
  exact ⟨⟨k', hk'⟩, fun hck => absurd hck (hother k' hk c hk')⟩

/-- **The head of a queue is given back.** -/
lemma Filed.pop (h : Filed live next queue nodes) {l : List ι} (hl : nodes k = b :: l)
    (hlive : ∀ c, live' c ↔ live c ∧ c ≠ b) (hn : ∀ c ≠ b, next' c = next c) :
    Filed live' next' (update queue k (popQueue next (queue k))) (update nodes k l) := by
  have hk := h.listed k
  rw [hl] at hk
  have hb : b ∉ l := (List.nodup_cons.mp (chain_nodup hk.chain)).1
  refine h.replace (hk.pop.congr fun c hc => hn c ?_) ?_ ?_ ?_
  · rintro rfl
    exact hb hc
  · intro c hc
    rw [hl]
    exact List.mem_cons_of_mem b hc
  · intro c hc _
    refine hn c ?_
    rintro rfl
    exact hc (by rw [hl]; exact List.mem_cons_self)
  intro c
  rw [hlive, hl, List.mem_cons]
  constructor
  · rintro ⟨hc, hne⟩
    exact ⟨hc, fun hmem => hmem.resolve_left hne⟩
  rintro ⟨hc, hin⟩
  refine ⟨hc, ?_⟩
  rintro rfl
  exact hb (hin (.inl rfl))

lemma Owned.pop (h : Owned live next queue nodes) {l : List ι} (hl : nodes k = b :: l)
    (hlive : ∀ c, live' c ↔ live c ∧ c ≠ b) (hn : ∀ c ≠ b, next' c = next c) :
    Owned live' next' (update queue k (popQueue next (queue k))) (update nodes k l) := by
  refine ⟨h.toFiled.pop hl hlive hn, fun k' => ?_⟩
  by_cases hk : k' = k
  · subst hk
    rw [update_self, update_self]
    have hcount := h.count k'
    rw [hl, List.length_cons] at hcount
    show (queue k').count - 1 = l.length
    omega
  rw [update_of_ne hk, update_of_ne hk]
  exact h.count k'

/-- **A queue is emptied**, and its nodes are given back. -/
lemma Filed.drain (h : Filed live next queue nodes)
    (hlive : ∀ c, live' c ↔ live c ∧ c ∉ nodes k) (hn : ∀ c ∉ nodes k, next' c = next c) :
    Filed live' next' (update queue k .empty) (update nodes k []) := by
  refine h.replace lists_empty ?_ (fun c hc _ => hn c hc) fun c => ?_
  · intro c hc
    cases hc
  rw [hlive]
  constructor
  · rintro ⟨hc, hno⟩
    exact ⟨hc, fun hmem => absurd hmem hno⟩
  rintro ⟨hc, hin⟩
  exact ⟨hc, fun hmem => by cases hin hmem⟩

lemma Owned.drain (h : Owned live next queue nodes)
    (hlive : ∀ c, live' c ↔ live c ∧ c ∉ nodes k) (hn : ∀ c ∉ nodes k, next' c = next c) :
    Owned live' next' (update queue k .empty) (update nodes k []) := by
  refine ⟨h.toFiled.drain hlive hn, fun k' => ?_⟩
  by_cases hk : k' = k
  · subst hk
    rw [update_self, update_self]
    rfl
  rw [update_of_ne hk, update_of_ne hk]
  exact h.count k'

variable [DecidableEq ι]

/-- **A node that is not in use is put at the end of a queue.** -/
lemma Filed.push (h : Filed live next queue nodes) (hb : ¬live b)
    (hlive : ∀ c, live' c ↔ live c ∨ c = b) :
    Filed live' (pushNext next (queue k) b) (update queue k (pushQueue (queue k) b))
      (update nodes k (nodes k ++ [b])) := by
  have hout := h.not_mem hb
  have hmem : ∀ k' c, c ∈ update nodes k (nodes k ++ [b]) k' ↔ c ∈ nodes k' ∨ k' = k ∧ c = b := by
    intro k' c
    by_cases hk : k' = k
    · subst hk
      rw [update_self, List.mem_append, List.mem_singleton]
      simp
    rw [update_of_ne hk]
    simp [hk]
  refine ⟨fun k' => ?_, fun k1 k2 hne c hc1 hc2 => ?_, fun c => ?_⟩
  · by_cases hk : k' = k
    · subst hk
      rw [update_self, update_self]
      exact (h.listed k').push (hout k')
    rw [update_of_ne hk, update_of_ne hk]
    refine (h.listed k').congr fun c hc => (h.listed k).pushNext_of_not_mem ?_ fun hck => ?_
    · rintro rfl
      exact hout k' hc
    · exact hk (h.only hc hck)
  · rw [hmem] at hc1 hc2
    rcases hc1 with hc1 | ⟨rfl, rfl⟩
    · rcases hc2 with hc2 | ⟨rfl, rfl⟩
      · exact h.disjoint k1 k2 hne hc1 hc2
      · exact hout k1 hc1
    rcases hc2 with hc2 | ⟨rfl, -⟩
    · exact hout k2 hc2
    · exact hne rfl
  rw [hlive, h.in_use]
  constructor
  · rintro (⟨k', hk'⟩ | rfl)
    · exact ⟨k', (hmem k' c).mpr (.inl hk')⟩
    · exact ⟨k, (hmem k c).mpr (.inr ⟨rfl, rfl⟩)⟩
  rintro ⟨k', hk'⟩
  rcases (hmem k' c).mp hk' with hc | ⟨-, rfl⟩
  · exact .inl ⟨k', hc⟩
  · exact .inr rfl

lemma Owned.push (h : Owned live next queue nodes) (hb : ¬live b)
    (hlive : ∀ c, live' c ↔ live c ∨ c = b) :
    Owned live' (pushNext next (queue k) b) (update queue k (pushQueue (queue k) b))
      (update nodes k (nodes k ++ [b])) := by
  refine ⟨h.toFiled.push hb hlive, fun k' => ?_⟩
  by_cases hk : k' = k
  · subst hk
    rw [update_self, update_self, List.length_append]
    show (queue k').count + 1 = _
    rw [h.count k']
    rfl
  rw [update_of_ne hk, update_of_ne hk]
  exact h.count k'

/-! ### Edits that break a family -/

omit [DecidableEq κ] [DecidableEq ι] in
/-- The links and the heads decide the lists, and which nodes are in use. -/
lemma Chained.unique (h : Chained live next head nodes)
    (h' : Chained live' next head nodes') : nodes = nodes' ∧ ∀ b, live b ↔ live' b := by
  have hnodes : nodes = nodes' := funext fun k => chain_unique (h.chain k) (h'.chain k)
  subst hnodes
  exact ⟨rfl, fun b => (h.in_use b).trans (h'.in_use b).symm⟩

omit [DecidableEq κ] [DecidableEq ι] in
/-- A node in use that is declared free is still reached. -/
lemma Chained.not_chained_free (h : Chained live next head nodes)
    (hb : live b) (hn : ∀ c ≠ b, next' c = next c) (hfree : ¬live' b) :
    ¬Chained live' next' head nodes' := by
  intro h'
  obtain ⟨k, hmem⟩ := (h.in_use b).mp hb
  obtain ⟨l1, l2, hl⟩ := List.append_of_mem hmem
  have hchain := h.chain k
  have hnodup := chain_nodup hchain
  rw [hl] at hchain hnodup
  obtain ⟨m, hseg, hm, -⟩ := seg_append.mp hchain
  subst hm
  have hseg' : Seg next' (head k) l1 (some b) := by
    refine seg_congr (fun c hc => hn c ?_) hseg
    rintro rfl
    exact (List.disjoint_of_nodup_append hnodup) hc List.mem_cons_self
  obtain ⟨r, hr, hrest⟩ := chain_of_seg hseg' (h'.chain k)
  obtain ⟨r', rfl, -⟩ := chain_some.mp hrest
  refine hfree ((h'.in_use b).mpr ⟨k, ?_⟩)
  rw [hr]
  exact List.mem_append_right l1 List.mem_cons_self

omit [DecidableEq ι] in
lemma Filed.head_push (h : Filed live next queue nodes) {k' : κ} (hk' : nodes k' ≠ [] ∨ k' ≠ k) :
    (update queue k (pushQueue (queue k) b) k').head = (queue k').head := by
  by_cases he : k' = k
  · subst he
    rw [update_self]
    cases hq : (queue k').head with
    | none =>
      have hnil := (h.listed k').head_eq_none.mp hq
      exact absurd rfl (hk'.resolve_left fun hne => hne hnil)
    | some a => simp [pushQueue, hq]
  · rw [update_of_ne he]

omit [DecidableEq κ] in
lemma Filed.seg_push (h : Filed live next queue nodes) {k₀ : κ} {l₁ l₂ : List ι}
    (hl : nodes k₀ = l₁ ++ b :: l₂) :
    Seg (pushNext next (queue k) b) (queue k₀).head l₁ (some b) := by
  have hchain := (h.listed k₀).chain
  have hnodup := chain_nodup hchain
  rw [hl] at hchain hnodup
  have hapart := List.disjoint_of_nodup_append hnodup
  obtain ⟨m, hseg, hm, -⟩ := seg_append.mp hchain
  subst hm
  refine seg_congr (fun d hd => (h.listed k).pushNext_of_ne ?_ fun hlast => ?_) hseg
  · rintro rfl
    exact hapart hd List.mem_cons_self
  have hk : k₀ = k :=
    h.only (by rw [hl]; exact List.mem_append_left _ hd) (List.mem_of_getLast? hlast)
  subst hk
  rw [hl, List.getLast?_append_cons] at hlast
  exact hapart hd (List.mem_of_getLast? hlast)

omit [DecidableEq ι] in
lemma not_chain_self {next : ι → Option ι} (hb : next b = some b) {a : Option ι} {l : List ι}
    (h : Chain next a l) : b ∉ l := by
  intro hmem
  obtain ⟨r1, r2, rfl⟩ := List.append_of_mem hmem
  have h1 := chain_suffix h
  have h2 : Chain next (some b) r2 := by
    have hnext := h1.2
    rw [hb] at hnext
    exact hnext
  have hlen := congrArg List.length (chain_unique h1 h2)
  rw [List.length_cons] at hlen
  omega

/-- A node in use, put at the end of a queue, is then in two queues, or behind itself, or it cuts its
own queue short. -/
lemma Filed.not_chained_push (h : Filed live next queue nodes) (hb : live b)
    (hlive : ∀ c, live c → live' c) :
    ¬Chained live' (pushNext next (queue k) b)
      (fun k' => (update queue k (pushQueue (queue k) b) k').head) nodes' := by
  intro h'
  obtain ⟨k0, hmem⟩ := (h.in_use b).mp hb
  obtain ⟨l1, l2, hl⟩ := List.append_of_mem hmem
  -- `b` is still reached from the head of its own queue
  have hchain' := h'.chain k0
  rw [h.head_push (.inl (List.ne_nil_of_mem hmem))] at hchain'
  obtain ⟨r, hr, hrest⟩ := chain_of_seg (h.seg_push (k := k) hl) hchain'
  obtain ⟨r', rfl, hend⟩ := chain_some.mp hrest
  have hb0 : b ∈ nodes' k0 := by
    rw [hr]
    exact List.mem_append_right l1 List.mem_cons_self
  by_cases hk : k0 = k
  · subst hk
    by_cases hlast : (nodes k0).getLast? = some b
    · exact not_chain_self ((h.listed k0).pushNext_last hlast) hchain' hb0
    -- the nodes behind `b` are lost
    rw [(h.listed k0).pushNext_self hlast, chain_none] at hend
    subst hend
    have hnodup := chain_nodup (h.listed k0).chain
    rw [hl] at hnodup
    obtain ⟨c, hc⟩ : ∃ c, c ∈ l2 := by
      cases l2 with
      | nil => exact absurd (by rw [hl]; simp) hlast
      | cons c l2 => exact ⟨c, List.mem_cons_self⟩
    have hck : c ∈ nodes k0 := by
      rw [hl]
      exact List.mem_append_right l1 (List.mem_cons_of_mem b hc)
    obtain ⟨k', hk'⟩ := (h'.in_use c).mp (hlive c ((h.in_use c).mpr ⟨k0, hck⟩))
    by_cases he : k' = k0
    · subst he
      rw [hr, List.mem_append, List.mem_singleton] at hk'
      rcases hk' with hk' | rfl
      · exact (List.disjoint_of_nodup_append hnodup) hk' (List.mem_cons_of_mem b hc)
      · exact (List.nodup_cons.mp (List.nodup_append.mp hnodup).2.1).1 hc
    have hsame : Chain (pushNext next (queue k0) b) (queue k').head (nodes k') := by
      refine chain_congr (fun d hd => (h.listed k0).pushNext_of_not_mem ?_ fun hd' => ?_)
        (h.listed k').chain
      · rintro rfl
        exact he (h.only hd hmem)
      · exact he (h.only hd hd')
    have hk'' := h'.chain k'
    rw [h.head_push (.inr he)] at hk''
    rw [← chain_unique hsame hk''] at hk'
    exact he (h.only hk' hck)
  -- `b` is in two queues
  have hpush := ((h.listed k).push fun hbk => hk (h.only hmem hbk)).chain
  have hchain := h'.chain k
  rw [update_self] at hchain
  have hbk : b ∈ nodes' k := by
    rw [← chain_unique hpush hchain]
    exact List.mem_append_right _ List.mem_cons_self
  exact hk (h'.only hb0 hbk)

end Family

end ProjectZero.Lib.Queues
