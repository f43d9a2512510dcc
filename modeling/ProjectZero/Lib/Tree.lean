import ProjectZero.Lib.Linked

/-! # Forests held in a table of links

A forest over a set `live` of nodes: every node has at most one parent, and every live node holds
the chain of its children, from `first` through `next`. The links of nodes that are not live, and the
`next` link of a node without parent, mean nothing and are left free: an operation need not clean
them up.

The operations are the ones of an intrusive tree: a new root, a new leaf at the head of the parent's
chain, cutting off everything below a node, putting a node in the place of another, and taking a node
out while its children go to its parent or become roots. Each lemma asks only for what the operation
does to live nodes. -/

namespace ProjectZero.Lib.Tree

open Linked

variable {ι : Type*}

/-- The three link fields of a table of nodes. -/
structure Links (ι : Type*) where
  parent : ι → Option ι
  first : ι → Option ι
  next : ι → Option ι

/-- `c` is a live child of `p`. -/
def Child (live : ι → Prop) (L : Links ι) (p c : ι) : Prop := live c ∧ L.parent c = some p

/-- `c` lies strictly below `p`. -/
def Desc (live : ι → Prop) (L : Links ι) : ι → ι → Prop := Relation.TransGen (Child live L)

/-- The links of the live nodes form a forest. -/
structure Forest (live : ι → Prop) (L : Links ι) : Prop where
  up : ∀ c p, Child live L p c → live p
  down : ∀ p, live p → ∃ l, Chain L.next (L.first p) l ∧ ∀ c, c ∈ l ↔ Child live L p c
  ranked : ∃ r : ι → ℕ, ∀ c p, Child live L p c → r p < r c

/-- The renaming of `x` to `y`. -/
def rename [DecidableEq ι] (x y s : ι) : ι := if s = x then y else s

@[simp] lemma rename_self [DecidableEq ι] (x y : ι) : rename x y x = y := if_pos rfl

lemma rename_of_ne [DecidableEq ι] {x s : ι} (h : s ≠ x) (y : ι) : rename x y s = s := if_neg h

lemma map_rename_of_ne [DecidableEq ι] {x y : ι} {o : Option ι} (h : o ≠ some x) :
    o.map (rename x y) = o := by
  cases o with
  | none => rfl
  | some z =>
    have hz : z ≠ x := fun e => h (congrArg some e)
    simp [rename, hz]

section Basic

variable {live live' : ι → Prop} {L L' : Links ι} {p q c x : ι}

lemma desc_rank {r : ι → ℕ} (hr : ∀ c p, Child live L p c → r p < r c) (h : Desc live L p c) :
    r p < r c := by
  induction h with
  | single h => exact hr _ _ h
  | tail _ h ih => exact ih.trans (hr _ _ h)

section

variable (h : Forest live L)

include h

lemma Forest.of_iff (hl : ∀ s, live' s ↔ live s) : Forest live' L := by
  rwa [funext fun s => propext (hl s)]

lemma Forest.desc_irrefl : ¬Desc live L p p := by
  obtain ⟨r, hr⟩ := h.ranked
  exact fun hd => lt_irrefl _ (desc_rank hr hd)

lemma Forest.child_ne (hc : Child live L p c) : c ≠ p := by
  rintro rfl
  exact h.desc_irrefl (.single hc)

lemma Forest.child_of_first (hp : live p) (hf : L.first p = some c) : Child live L p c := by
  obtain ⟨l, hl, hm⟩ := h.down p hp
  rw [hf] at hl
  obtain ⟨l', rfl, -⟩ := chain_some.mp hl
  exact (hm c).mp (by simp)

lemma Forest.chain_of_next (hc : Child live L p c) (hn : L.next c = some q) :
    ∃ l₁ l₂, Chain L.next (L.first p) (l₁ ++ c :: q :: l₂) ∧
      ∀ s, s ∈ l₁ ++ c :: q :: l₂ ↔ Child live L p s := by
  obtain ⟨l, hl, hm⟩ := h.down p (h.up c p hc)
  obtain ⟨l₁, l₂, rfl⟩ := List.append_of_mem ((hm c).mpr hc)
  have h2 : Chain L.next (L.next c) l₂ := (chain_suffix hl).2
  rw [hn] at h2
  obtain ⟨l', rfl, -⟩ := chain_some.mp h2
  exact ⟨l₁, l', hl, hm⟩

lemma Forest.child_of_next (hc : Child live L p c) (hn : L.next c = some q) : Child live L p q := by
  obtain ⟨l₁, l₂, -, hm⟩ := h.chain_of_next hc hn
  exact (hm q).mp (by simp)

lemma Forest.next_ne (hc : Child live L p c) : L.next c ≠ some c := by
  intro hn
  obtain ⟨l₁, l₂, hl, -⟩ := h.chain_of_next hc hn
  have hnd := chain_nodup hl
  simp [List.nodup_append] at hnd

end

lemma desc_live (h : Desc live L p c) : live c := by
  cases h with
  | single h => exact h.1
  | tail _ h => exact h.1

/-- What lies below `p` and is a child of `q` hangs below `p` through `q`. -/
lemma desc_parent (h : Desc live L p c) (hc : Child live L q c) : q = p ∨ Desc live L p q := by
  cases h with
  | single h =>
    left
    have := h.2.symm.trans hc.2
    exact (Option.some.inj this).symm
  | tail h h' =>
    right
    have := h'.2.symm.trans hc.2
    rw [← Option.some.inj this]
    exact h

lemma desc_subset {S : ι → Prop} (h0 : ∀ c, Child live L p c → S c)
    (hS : ∀ q c, S q → Child live L q c → S c) (h : Desc live L p c) : S c := by
  induction h with
  | single h => exact h0 _ h
  | tail _ h ih => exact hS _ _ ih h

end Basic

section Operations

variable {live live' : ι → Prop} {L L' : Links ι}

section

variable (h : Forest live L)

include h

/-- **A new leaf** `d`, which is a root or put at the head of the chain of its parent. -/
lemma Forest.insert {d : ι} (hd : ¬live d) (hlive : ∀ s, live' s ↔ s = d ∨ live s)
    (hq : ∀ q, L'.parent d = some q → live q ∧ L'.next d = L.first q ∧ L'.first q = some d)
    (hfd : L'.first d = none) (hpar : ∀ s, live s → L'.parent s = L.parent s)
    (hfirst : ∀ s, live s → L'.parent d ≠ some s → L'.first s = L.first s)
    (hnext : ∀ s, live s → L'.next s = L.next s) : Forest live' L' := by
  have hch : ∀ p c, Child live' L' p c ↔ Child live L p c ∨ (c = d ∧ L'.parent d = some p) := by
    intro p c
    constructor
    · rintro ⟨hc, hp⟩
      rcases (hlive c).mp hc with rfl | hc
      · exact .inr ⟨rfl, hp⟩
      · exact .inl ⟨hc, (hpar c hc).symm.trans hp⟩
    rintro (⟨hc, hp⟩ | ⟨rfl, hp⟩)
    · exact ⟨(hlive c).mpr (.inr hc), (hpar c hc).trans hp⟩
    · exact ⟨(hlive c).mpr (.inl rfl), hp⟩
  have hnochild : ∀ c, ¬Child live L d c := fun c hc => hd (h.up c d hc)
  have hself : L'.parent d ≠ some d := fun e => hd (hq d e).1
  refine ⟨fun c p hc => ?_, fun p hp => ?_, ?_⟩
  · rcases (hch p c).mp hc with hc | ⟨-, hp⟩
    · exact (hlive p).mpr (.inr (h.up c p hc))
    · exact (hlive p).mpr (.inr (hq p hp).1)
  · rcases (hlive p).mp hp with rfl | hp
    · refine ⟨[], by simp [hfd], fun c => ?_⟩
      rw [hch]
      simp only [List.not_mem_nil, false_iff]
      rintro (hc | ⟨-, hp⟩)
      · exact hnochild c hc
      · exact hself hp
    obtain ⟨l, hl, hm⟩ := h.down p hp
    have hl' : Chain L'.next (L.first p) l :=
      chain_congr (fun c hc => hnext c ((hm c).mp hc).1) hl
    by_cases hpq : L'.parent d = some p
    · obtain ⟨-, hnd, hfq⟩ := hq p hpq
      refine ⟨d :: l, ?_, fun c => ?_⟩
      · rw [hfq]; exact ⟨rfl, by rw [hnd]; exact hl'⟩
      · rw [hch, List.mem_cons, hm]; tauto
    refine ⟨l, ?_, fun c => ?_⟩
    · rw [hfirst p hp hpq]; exact hl'
    · rw [hch, hm]; tauto
  obtain ⟨r, hr⟩ := h.ranked
  classical
  refine ⟨fun s => if s = d then (L'.parent d).elim 0 r + 1 else r s, fun c p hc => ?_⟩
  rcases (hch p c).mp hc with hc | ⟨rfl, hp⟩
  · have h1 : c ≠ d := fun e => hd (e ▸ hc.1)
    have h2 : p ≠ d := fun e => hnochild c (e ▸ hc)
    simpa [h1, h2] using hr c p hc
  have hpc : p ≠ c := fun e => hself (e ▸ hp)
  simp [hp, hpc]

/-- **Cutting off** everything below `x`. -/
lemma Forest.prune {x : ι} (hx : live x)
    (hlive : ∀ s, live' s ↔ live s ∧ ¬Desc live L x s) (hfx : L'.first x = none)
    (hpar : ∀ s, live' s → L'.parent s = L.parent s)
    (hfirst : ∀ s, live' s → s ≠ x → L'.first s = L.first s)
    (hnext : ∀ s, live' s → L'.next s = L.next s) : Forest live' L' := by
  have hx' : live' x := (hlive x).mpr ⟨hx, h.desc_irrefl⟩
  have hch : ∀ p c, Child live' L' p c ↔ Child live L p c ∧ ¬Desc live L x c := by
    intro p c
    constructor
    · rintro ⟨hc, hp⟩
      exact ⟨⟨((hlive c).mp hc).1, (hpar c hc).symm.trans hp⟩, ((hlive c).mp hc).2⟩
    rintro ⟨⟨hc, hp⟩, hnd⟩
    have hc' := (hlive c).mpr ⟨hc, hnd⟩
    exact ⟨hc', (hpar c hc').trans hp⟩
  refine ⟨fun c p hc => ?_, fun p hp => ?_, ?_⟩
  · obtain ⟨hc, hnd⟩ := (hch p c).mp hc
    exact (hlive p).mpr ⟨h.up c p hc, fun hd => hnd (hd.tail hc)⟩
  · by_cases hpx : p = x
    · subst hpx
      refine ⟨[], by simp [hfx], fun c => ?_⟩
      rw [hch]
      simp only [List.not_mem_nil, false_iff]
      exact fun hc => hc.2 (.single hc.1)
    obtain ⟨hpl, hpd⟩ := (hlive p).mp hp
    obtain ⟨l, hl, hm⟩ := h.down p hpl
    -- no child of a surviving node other than `x` lies below `x`
    have hkeep : ∀ c, Child live L p c → ¬Desc live L x c := by
      intro c hc hd
      rcases desc_parent hd hc with e | e
      · exact hpx e
      · exact hpd e
    refine ⟨l, ?_, fun c => ?_⟩
    · rw [hfirst p hp hpx]
      refine chain_congr (fun c hc => ?_) hl
      have hc' := (hm c).mp hc
      exact hnext c ((hlive c).mpr ⟨hc'.1, hkeep c hc'⟩)
    rw [hch, hm]
    exact ⟨fun hc => ⟨hc, hkeep c hc⟩, fun hc => hc.1⟩
  obtain ⟨r, hr⟩ := h.ranked
  exact ⟨r, fun c p hc => hr c p ((hch p c).mp hc).1⟩

/-- **Renaming.** The links of the nodes `f s` are the renamed links of the nodes `s`. -/
lemma Forest.map {f g : ι → ι} (hgf : ∀ s, live s → g (f s) = s)
    (hlive : ∀ t, live' t ↔ ∃ s, live s ∧ f s = t)
    (hpar : ∀ s, live s → L'.parent (f s) = (L.parent s).map f)
    (hfirst : ∀ s, live s → L'.first (f s) = (L.first s).map f)
    (hnext : ∀ s, live s → L.parent s ≠ none → L'.next (f s) = (L.next s).map f) :
    Forest live' L' := by
  have hinj : ∀ {s t}, live s → live t → f s = f t → s = t := fun hs ht e => by
    rw [← hgf _ hs, e, hgf _ ht]
  -- the children of `f p` are the renamed children of `p`
  have hch : ∀ p, live p → ∀ t, Child live' L' (f p) t ↔ ∃ c, Child live L p c ∧ f c = t := by
    intro p hp t
    constructor
    · rintro ⟨ht, htp⟩
      obtain ⟨c, hc, rfl⟩ := (hlive t).mp ht
      rw [hpar c hc] at htp
      obtain ⟨q, hq, he⟩ := Option.map_eq_some_iff.mp htp
      have hqp := hinj (h.up c q ⟨hc, hq⟩) hp he
      exact ⟨c, ⟨hc, hqp ▸ hq⟩, rfl⟩
    rintro ⟨c, hc, rfl⟩
    exact ⟨(hlive _).mpr ⟨c, hc.1, rfl⟩, by rw [hpar c hc.1, hc.2]; rfl⟩
  have hup : ∀ c p, Child live' L' p c → ∃ q, live q ∧ f q = p := by
    rintro t p ⟨ht, hcp⟩
    obtain ⟨c, hc, rfl⟩ := (hlive t).mp ht
    rw [hpar c hc] at hcp
    obtain ⟨q, hq, rfl⟩ := Option.map_eq_some_iff.mp hcp
    exact ⟨q, h.up c q ⟨hc, hq⟩, rfl⟩
  refine ⟨fun c p hc => (hlive p).mpr (hup c p hc), fun p hp => ?_, ?_⟩
  · obtain ⟨q, hq, rfl⟩ := (hlive p).mp hp
    obtain ⟨l, hl, hm⟩ := h.down q hq
    refine ⟨l.map f, ?_, fun c => ?_⟩
    · rw [hfirst q hq]
      refine seg_map (fun s hs => ?_) hl
      have hc := (hm s).mp hs
      exact hnext s hc.1 (by rw [hc.2]; simp)
    rw [hch q hq, List.mem_map]
    exact exists_congr fun d => and_congr_left fun _ => hm d
  obtain ⟨r, hr⟩ := h.ranked
  refine ⟨fun s => r (g s), fun c p hc => ?_⟩
  obtain ⟨q, hq, rfl⟩ := hup c p hc
  obtain ⟨d, hd, rfl⟩ := (hch q hq c).mp hc
  simp only [hgf q hq, hgf d hd.1]
  exact hr d q hd

/-- **Taking out** a node `x`: its children go to its parent, in whatever order, or become roots. -/
lemma Forest.takeOut {x : ι} (hx : live x) (hlive : ∀ s, live' s ↔ live s ∧ s ≠ x)
    (hmoved : ∀ s, live s → L.parent s = some x → L'.parent s = L.parent x)
    (hpar : ∀ s, live s → s ≠ x → L.parent s ≠ some x → L'.parent s = L.parent s)
    (hchain : ∀ p, L.parent x = some p → ∃ l, Chain L'.next (L'.first p) l ∧
      ∀ c, c ∈ l ↔ (Child live L p c ∧ c ≠ x) ∨ Child live L x c)
    (hfirst : ∀ s, live s → s ≠ x → L.parent x ≠ some s → L'.first s = L.first s)
    (hnext : ∀ q s, Child live L q s → L.parent x ≠ some q → q ≠ x → L'.next s = L.next s) :
    Forest live' L' := by
  have hch : ∀ q c, Child live' L' q c ↔
      (Child live L q c ∧ c ≠ x ∧ q ≠ x) ∨ (Child live L x c ∧ L.parent x = some q) := by
    intro q c
    constructor
    · rintro ⟨hc, hq⟩
      obtain ⟨hcl, hcx⟩ := (hlive c).mp hc
      by_cases hcp : L.parent c = some x
      · exact .inr ⟨⟨hcl, hcp⟩, (hmoved c hcl hcp).symm.trans hq⟩
      left
      rw [hpar c hcl hcx hcp] at hq
      exact ⟨⟨hcl, hq⟩, hcx, fun e => hcp (e ▸ hq)⟩
    rintro (⟨⟨hcl, hq⟩, hcx, hqx⟩ | ⟨⟨hcl, hcp⟩, hq⟩)
    · refine ⟨(hlive c).mpr ⟨hcl, hcx⟩, ?_⟩
      rw [hpar c hcl hcx (fun e => hqx (Option.some.inj (hq.symm.trans e)))]
      exact hq
    · exact ⟨(hlive c).mpr ⟨hcl, h.child_ne ⟨hcl, hcp⟩⟩, (hmoved c hcl hcp).trans hq⟩
  refine ⟨fun c q hc => ?_, fun q hq => ?_, ?_⟩
  · rcases (hch q c).mp hc with ⟨hc, -, hqx⟩ | ⟨-, hq⟩
    · exact (hlive q).mpr ⟨h.up c q hc, hqx⟩
    · exact (hlive q).mpr ⟨h.up x q ⟨hx, hq⟩, (h.child_ne ⟨hx, hq⟩).symm⟩
  · obtain ⟨hql, hqx⟩ := (hlive q).mp hq
    by_cases hqp : L.parent x = some q
    · obtain ⟨l, hl, hm⟩ := hchain q hqp
      refine ⟨l, hl, fun c => ?_⟩
      rw [hm, hch]
      tauto
    obtain ⟨l, hl, hm⟩ := h.down q hql
    refine ⟨l, ?_, fun c => ?_⟩
    · rw [hfirst q hql hqx hqp]
      exact chain_congr (fun c hc => hnext q c ((hm c).mp hc) hqp hqx) hl
    rw [hm, hch]
    constructor
    · intro hc
      refine .inl ⟨hc, ?_, hqx⟩
      rintro rfl
      exact hqp hc.2
    rintro (⟨hc, -⟩ | ⟨-, e⟩)
    · exact hc
    · exact absurd e hqp
  obtain ⟨r, hr⟩ := h.ranked
  refine ⟨r, fun c q hc => ?_⟩
  rcases (hch q c).mp hc with ⟨hc, -⟩ | ⟨hc, hq⟩
  · exact hr c q hc
  · exact (hr x q ⟨hx, hq⟩).trans (hr c x hc)

end

end Operations

/-! ### Traversal with a worklist -/

section Traversal

variable {live : ι → Prop} {L : Links ι} {x c : ι} {dn todo lc : List ι}

/-- A worklist traversal of everything below `x`: the nodes `dn` are worked off, the nodes `todo` are
on the list. -/
structure Traversal (live : ι → Prop) (L : Links ι) (x : ι) (dn todo : List ι) : Prop where
  nodup : (dn ++ todo).Nodup
  below : ∀ s ∈ dn ++ todo, Desc live L x s
  closed : ∀ q s, q = x ∨ q ∈ dn → Child live L q s → s ∈ dn ++ todo
  origin : ∀ q s, s ∈ dn ++ todo → Child live L q s → q = x ∨ q ∈ dn

lemma Traversal.start (hnd : lc.Nodup) (hm : ∀ s, s ∈ lc ↔ Child live L x s) :
    Traversal live L x [] lc where
  nodup := by simpa using hnd
  below s hs := .single ((hm s).mp (by simpa using hs))
  closed q s hq hs := by
    rcases hq with rfl | hq
    · simpa using (hm s).mpr hs
    · simp at hq
  origin q s hs hq := by
    have h := (hm s).mp (by simpa using hs)
    exact .inl (Option.some.inj (hq.2.symm.trans h.2))

section

variable (h : Forest live L) (ht : Traversal live L x dn (c :: todo))

include h ht

lemma Traversal.head_new : c ≠ x ∧ c ∉ dn := by
  refine ⟨?_, fun hc => ?_⟩
  · rintro rfl
    exact h.desc_irrefl (ht.below c (by simp))
  · exact (List.nodup_append.mp ht.nodup).2.2 c hc c (by simp) rfl

/-- The children of the node at the head of the list are not yet on it, and none of them is `x`. -/
lemma Traversal.child_new {s : ι} (hs : Child live L c s) : s ≠ x ∧ s ∉ dn ++ c :: todo := by
  obtain ⟨hcx, hcd⟩ := ht.head_new h
  refine ⟨?_, fun hm => ?_⟩
  · rintro rfl
    exact h.desc_irrefl ((ht.below c (by simp)).tail hs)
  rcases ht.origin c s hm hs with e | e
  · exact hcx e
  · exact hcd e

/-- One round: the head of the list is worked off, and its children go to the end. -/
lemma Traversal.step (hnd : lc.Nodup) (hm : ∀ s, s ∈ lc ↔ Child live L c s) :
    Traversal live L x (dn ++ [c]) (todo ++ lc) := by
  have hlist : dn ++ [c] ++ (todo ++ lc) = (dn ++ c :: todo) ++ lc := by simp
  refine ⟨?_, fun s hs => ?_, fun q s hq hs => ?_, fun q s hs hq => ?_⟩
  · rw [hlist, List.nodup_append]
    refine ⟨ht.nodup, hnd, fun a ha b hb e => ?_⟩
    subst e
    exact (ht.child_new h ((hm a).mp hb)).2 ha
  · rw [hlist, List.mem_append] at hs
    rcases hs with hs | hs
    · exact ht.below s hs
    · exact (ht.below c (by simp)).tail ((hm s).mp hs)
  · rw [hlist, List.mem_append]
    by_cases hqc : q = c
    · subst hqc
      exact .inr ((hm s).mpr hs)
    refine .inl (ht.closed q s ?_ hs)
    rcases hq with hq | hq
    · exact .inl hq
    · exact .inr (by simpa [hqc] using hq)
  rw [hlist, List.mem_append] at hs
  rcases hs with hs | hs
  · rcases ht.origin q s hs hq with e | e
    · exact .inl e
    · exact .inr (by simp [e])
  have := Option.some.inj (hq.2.symm.trans ((hm s).mp hs).2)
  exact .inr (by simp [this])

end

/-- **The traversal is complete**: when the list is empty, exactly the nodes below `x` are worked
off. -/
lemma Traversal.finish (ht : Traversal live L x dn []) (s : ι) : s ∈ dn ↔ Desc live L x s := by
  refine ⟨fun hs => ht.below s (by simpa using hs), fun hs => ?_⟩
  refine desc_subset (S := fun s => s ∈ dn) (fun c hc => ?_) (fun q c hq hc => ?_) hs
  · simpa using ht.closed x c (.inl rfl) hc
  · simpa using ht.closed q c (.inr hq) hc

lemma Traversal.length_le [Fintype ι] (ht : Traversal live L x dn todo) :
    dn.length + todo.length ≤ Fintype.card ι := by
  have := ht.nodup.length_le_card
  rwa [List.length_append] at this

end Traversal

end ProjectZero.Lib.Tree
