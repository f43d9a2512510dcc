import ProjectZero.Cap.Relink
import ProjectZero.Cap.RevokeLoop

/-! # Well-formed capability tables

The invariant of the handle tables and the node table: the nodes of the occupied slots form a forest,
and along every edge the derived capability names the object, the object generation and the endpoint
of its parent, holds no right the parent lacks, and records the generation of the parent's handle.
Every operation keeps it. -/

namespace ProjectZero.Cap.Invariant

open Lib.Tree Tables Cap.Node Ops Relink RevokeLoop

/-- `a` holds no right that `b` lacks. -/
def RightsSubset (a b : Rights) : Prop := a &&& ~~~b = 0

lemma rightsSubset_iff {a b : Rights} : RightsSubset a b ↔ ∀ i, a.getLsbD i → b.getLsbD i := by
  constructor
  · intro h i ha
    have hi : (a &&& ~~~b).getLsbD i = (0#16).getLsbD i := congrArg (·.getLsbD i) h
    by_contra hb
    have hlt : i < 16 := BitVec.lt_of_getLsbD ha
    simp [ha, hlt] at hi
    exact hb (by rw [BitVec.getLsbD_eq_getElem hlt, hi])
  intro h
  refine BitVec.eq_of_getLsbD_eq fun i hi => ?_
  by_cases ha : a.getLsbD i = true
  · simp [ha, h i ha]
  · simp [ha]

lemma RightsSubset.refl (a : Rights) : RightsSubset a a := rightsSubset_iff.mpr fun _ h => h

lemma RightsSubset.trans {a b c : Rights} (h₁ : RightsSubset a b) (h₂ : RightsSubset b c) :
    RightsSubset a c :=
  rightsSubset_iff.mpr fun i h => rightsSubset_iff.mp h₂ i (rightsSubset_iff.mp h₁ i h)

/-- What the entry of a derived capability takes over from the entry `p` above it. -/
structure Inherits (c p : HandleEntry) : Prop where
  objectIndex : c.objectIndex = p.objectIndex
  objectGeneration : c.objectGeneration = p.objectGeneration
  endpoint : c.endpoint = p.endpoint
  rights : RightsSubset c.rights p.rights

lemma Inherits.refl (c : HandleEntry) : Inherits c c := ⟨rfl, rfl, rfl, .refl _⟩

lemma Inherits.trans {a b c : HandleEntry} (h₁ : Inherits a b) (h₂ : Inherits b c) : Inherits a c :=
  ⟨h₁.objectIndex.trans h₂.objectIndex, h₁.objectGeneration.trans h₂.objectGeneration,
    h₁.endpoint.trans h₂.endpoint, h₁.rights.trans h₂.rights⟩

/-- The invariant of the two tables. -/
structure WellFormed (entry : Slot → HandleEntry) (node : NodeTable) : Prop where
  forest : Forest (Live entry) (links node)
  unrevoked : ∀ s, Live entry s → (node s).isRevoked = false
  vacant : ∀ s, ¬ Live entry s → (node s).firstChild = none
  parentGen : ∀ p c, Child (Live entry) (links node) p c →
    (node c).parentGen = (entry p).handleGeneration
  inherits : ∀ p c, Child (Live entry) (links node) p c → Inherits (entry c) (entry p)

lemma wellFormed_empty {entry : Slot → HandleEntry} {node : NodeTable}
    (he : ∀ s, (entry s).occupied = false) (hn : ∀ s, (node s).firstChild = none) :
    WellFormed entry node := by
  have hdead : ∀ s, ¬Live entry s := fun s => by simp [Live, he s]
  exact ⟨⟨fun c _ h => absurd h.1 (hdead c), fun p h => absurd h (hdead p),
    fun _ => 0, fun c _ h => absurd h.1 (hdead c)⟩, fun s h => absurd h (hdead s), fun s _ => hn s,
    fun _ c h => absurd h.1 (hdead c), fun _ c h => absurd h.1 (hdead c)⟩

section Steps

variable {entry entry' : Slot → HandleEntry} {node node' : NodeTable}

lemma WellFormed.of_edges (forest : Forest (Live entry) (links node))
    (unrevoked : ∀ s, Live entry s → (node s).isRevoked = false)
    (vacant : ∀ s, ¬Live entry s → (node s).firstChild = none)
    (edge : ∀ p c, Child (Live entry) (links node) p c →
      (node c).parentGen = (entry p).handleGeneration ∧ Inherits (entry c) (entry p)) :
    WellFormed entry node :=
  ⟨forest, unrevoked, vacant, fun p c hc => (edge p c hc).1, fun p c hc => (edge p c hc).2⟩

lemma live_filled {d : Slot} {e : HandleEntry} (he : e.occupied) (s : Slot) :
    Live (update entry d e) s ↔ s = d ∨ Live entry s := by
  by_cases hs : s = d
  · subst hs; simp [Live, he]
  · simp [Live, hs]

/-! ### A new capability -/

section

variable (h : WellFormed entry node)

include h

/-- A slot is filled: its node is a root, or a leaf at the head of the chain of its parent. -/
lemma WellFormed.filled {d : Slot} (hd : ¬Live entry d) {e : HandleEntry} (he : e.occupied)
    (hf : (node' d).firstChild = none) (hr : (node' d).isRevoked = false)
    (hkeep : ∀ s ≠ d, node' s = { node s with firstChild := (node' s).firstChild })
    (hfirst : ∀ s ≠ d, (node' d).parent ≠ some s → (node' s).firstChild = (node s).firstChild)
    (hq : ∀ q, (node' d).parent = some q → Live entry q ∧
      (node' d).nextSibling = (node q).firstChild ∧ (node' q).firstChild = some d ∧
      (node' d).parentGen = (entry q).handleGeneration ∧ Inherits e (entry q)) :
    WellFormed (update entry d e) node' := by
  have hne : ∀ s, Live entry s → s ≠ d := fun s hs e => hd (e ▸ hs)
  have hlive := @live_filled entry d e he
  have hchild : ∀ p c, Child (Live (update entry d e)) (links node') p c →
      Child (Live entry) (links node) p c ∨ (c = d ∧ (node' d).parent = some p) := by
    rintro p c ⟨hc, hcp⟩
    by_cases hcd : c = d
    · subst hcd
      exact .inr ⟨rfl, hcp⟩
    rw [links_parent, hkeep c hcd] at hcp
    exact .inl ⟨((hlive c).mp hc).resolve_left hcd, hcp⟩
  refine .of_edges (h.forest.insert hd hlive (fun q hp => ?_) hf (fun s hs => ?_)
    (fun s hs => hfirst s (hne s hs)) (fun s hs => ?_)) (fun s hs => ?_) (fun s hs => ?_)
    fun p c hc => ?_
  · obtain ⟨hl, hn, hqf, -⟩ := hq q hp
    exact ⟨hl, hn, hqf⟩
  · rw [links_parent, hkeep s (hne s hs), links_parent]
  · rw [links_next, hkeep s (hne s hs), links_next]
  · by_cases hsd : s = d
    · subst hsd; exact hr
    rw [hkeep s hsd]
    exact h.unrevoked s (((hlive s).mp hs).resolve_left hsd)
  · have hs' := fun e => hs ((hlive s).mpr e)
    rw [hfirst s (fun e => hs' (.inl e)) fun e => hs' (.inr (hq s e).1)]
    exact h.vacant s fun e => hs' (.inr e)
  rcases hchild p c hc with hc' | ⟨rfl, hp⟩
  · rw [hkeep c (hne c hc'.1), update_of_ne (hne c hc'.1),
      update_of_ne (hne p (h.forest.up c p hc'))]
    exact ⟨h.parentGen p c hc', h.inherits p c hc'⟩
  obtain ⟨hl, -, -, hg, hi⟩ := hq p hp
  rw [update_self, update_of_ne (hne p hl)]
  exact ⟨hg, hi⟩

lemma WellFormed.root {d : Slot} (hd : ¬Live entry d)
    {e : HandleEntry} (he : e.occupied) {n : CapabilityNode} (hp : n.parent = none)
    (hf : n.firstChild = none) (hr : n.isRevoked = false) :
    WellFormed (update entry d e) (update node d n) :=
  h.filled hd he (by simp [hf]) (by simp [hr]) (fun s hs => by simp [hs])
    (fun s hs _ => by simp [hs]) fun q hq => by simp [hp] at hq

lemma WellFormed.derived {d q : Slot} (hd : ¬Live entry d)
    (hq : Live entry q) {e : HandleEntry} (he : e.occupied)
    (hi : Inherits e (entry q)) {n : CapabilityNode} (hp : n.parent = some q)
    (hf : n.firstChild = none) (hr : n.isRevoked = false)
    (hg : n.parentGen = (entry q).handleGeneration) :
    WellFormed (update entry d e) (addChildLocked (update node d n) q d) := by
  have hqd : q ≠ d := fun e => hd (e ▸ hq)
  obtain ⟨node', hn'⟩ : ∃ t, t = addChildLocked (update node d n) q d := ⟨_, rfl⟩
  rw [← hn']
  have hother : ∀ s ≠ d, s ≠ q → node' s = node s := fun s h1 h2 => by
    simp [hn', addChildLocked, h1, h2]
  have hnq : node' q = { node q with firstChild := some d } := by
    simp [hn', addChildLocked, hqd]
  have hnd : node' d = { n with nextSibling := (node q).firstChild } := by
    simp [hn', addChildLocked, hqd, hqd.symm]
  refine h.filled hd he (by rw [hnd]; exact hf) (by rw [hnd]; exact hr) (fun s hs => ?_)
    (fun s hs hsq => ?_) fun p hpar => ?_
  -- away from `d`, only the first child of `q` is another
  · by_cases hsq : s = q
    · subst hsq; rw [hnq]
    · rw [hother s hs hsq]
  · rw [hother s hs fun e => hsq (by rw [hnd, e]; exact hp)]
  rw [hnd] at hpar ⊢
  obtain rfl : q = p := Option.some.inj (hp.symm.trans hpar)
  rw [hnq]
  exact ⟨hq, rfl, rfl, hg, hi⟩

/-! ### A moved capability -/

lemma WellFormed.moved {d x : Slot} (hd : ¬Live entry d)
    (hx : Live entry x) {g : BitVec 16} {id : ℕ} (hm : Moved (Live entry) node node' d x g id)
    (hed : Inherits (entry' d) (entry x)) (hde : Inherits (entry x) (entry' d))
    (hlive : ∀ s, Live entry' s ↔ s = d ∨ (Live entry s ∧ s ≠ x))
    (hg : (entry' d).handleGeneration = g) (hent : ∀ s ≠ d, s ≠ x → entry' s = entry s) :
    WellFormed entry' node' := by
  have hne : ∀ s, Live entry s → s ≠ d := fun s hs e => hd (e ▸ hs)
  -- an edge of the new forest is an edge of the old one with `x` renamed
  have hchild : ∀ p c, Child (Live entry') (links node') p c →
      (c = d ∧ Child (Live entry) (links node) p x ∧ p ≠ d) ∨
      (p = d ∧ Child (Live entry) (links node) x c) ∨
      (Child (Live entry) (links node) p c ∧ p ≠ x ∧ c ≠ x) := by
    rintro p c ⟨hc, hcp⟩
    rw [links_parent] at hcp
    rcases (hlive c).mp hc with rfl | ⟨hcl, hcx⟩
    · rw [hm.dst] at hcp
      have hpx : Child (Live entry) (links node) p x := ⟨hx, hcp⟩
      exact .inl ⟨rfl, hpx, hne p (h.forest.up x p hpx)⟩
    by_cases hcc : Child (Live entry) (links node) x c
    · rw [hm.child c hcc] at hcp
      exact .inr (.inl ⟨(Option.some.inj hcp).symm, hcc⟩)
    rw [hm.other c (hne c hcl) hcx hcc] at hcp
    exact .inr (.inr ⟨⟨hcl, hcp⟩, fun e => hcc ⟨hcl, e ▸ hcp⟩, hcx⟩)
  refine .of_edges (hm.forest.of_iff hlive) (fun s hs => ?_) (fun s hs => ?_) fun p c hc => ?_
  · rcases (hlive s).mp hs with rfl | ⟨hsl, hsx⟩
    · rw [hm.dst]; rfl
    by_cases hcc : Child (Live entry) (links node) x s
    · rw [hm.child s hcc]
      exact h.unrevoked s hsl
    rw [hm.other s (hne s hsl) hsx hcc]
    exact h.unrevoked s hsl
  · have hs' := fun e => hs ((hlive s).mpr e)
    have hsd : s ≠ d := fun e => hs' (.inl e)
    by_cases hsx : s = x
    · subst hsx; rw [hm.src]; rfl
    have hsl : ¬Live entry s := fun e => hs' (.inr ⟨e, hsx⟩)
    rw [hm.dead s hsd hsx hsl]
    exact h.vacant s hsl
  rcases hchild p c hc with ⟨rfl, hpx, hpd⟩ | ⟨rfl, hcx⟩ | ⟨hpc, hpx, hcx⟩
  · rw [hm.dst, hent p hpd (h.forest.child_ne hpx).symm]
    exact ⟨h.parentGen p x hpx, hed.trans (h.inherits p x hpx)⟩
  · rw [hm.child c hcx, hg, hent c (hne c hcx.1) (h.forest.child_ne hcx)]
    exact ⟨rfl, (h.inherits x c hcx).trans hde⟩
  have hpl := h.forest.up c p hpc
  rw [hm.other c (hne c hpc.1) hcx (fun e => hpx (Option.some.inj (hpc.2.symm.trans e.2))),
    hent c (hne c hpc.1) hcx, hent p (hne p hpl) hpx]
  exact ⟨h.parentGen p c hpc, h.inherits p c hpc⟩

/-! ### A closed capability -/

lemma WellFormed.closed {x : Slot} (hx : Live entry x)
    (hu : Unlinked (Live entry) node node' x) {e : HandleEntry} (he : e.occupied = false) :
    WellFormed (update entry x e) (update node' x .empty) := by
  have hlive : ∀ s, Live (update entry x e) s ↔ Live entry s ∧ s ≠ x := by
    intro s
    by_cases hs : s = x
    · subst hs; simp [Live, he]
    · simp [Live, hs]
  have hF := hu.forest.of_iff hlive
  -- an edge of the new forest is an old edge, or leads from a child of `x` to the parent of `x`
  have hchild : ∀ p c, Child (Live (update entry x e))
      (links (update node' x .empty)) p c → p ≠ x ∧ c ≠ x ∧
      (Child (Live entry) (links node) p c ∨
        (Child (Live entry) (links node) x c ∧ Child (Live entry) (links node) p x)) := by
    intro p c hc
    have hpx : p ≠ x := ((hlive p).mp (hF.up c p hc)).2
    obtain ⟨hcl, hcx⟩ := (hlive c).mp hc.1
    have hcp := hc.2
    rw [links_parent, update_of_ne hcx] at hcp
    refine ⟨hpx, hcx, ?_⟩
    by_cases hcc : Child (Live entry) (links node) x c
    · rw [hu.child c hcc] at hcp
      cases hpar : (node x).parent with
      | none => simp [heir, hpar, promote] at hcp
      | some q =>
        simp only [heir, hpar, reparent, Option.some.injEq] at hcp
        subst hcp
        exact .inr ⟨hcc, hx, hpar⟩
    rw [hu.other c hcc] at hcp
    exact .inl ⟨hcl, hcp⟩
  refine .of_edges hF (fun s hs => ?_) (fun s hs => ?_) fun p c hc => ?_
  · obtain ⟨hsl, hsx⟩ := (hlive s).mp hs
    rw [update_of_ne hsx]
    by_cases hcc : Child (Live entry) (links node) x s
    · rw [hu.child s hcc]
      cases hpar : (node x).parent with
      | none =>
        simp only [heir, hpar, promote]
        exact h.unrevoked s hsl
      | some q =>
        simp only [heir, hpar, reparent]
        exact h.unrevoked s hsl
    rw [hu.other s hcc]
    exact h.unrevoked s hsl
  · by_cases hsx : s = x
    · subst hsx; simp [CapabilityNode.empty]
    have hsl : ¬Live entry s := fun hl => hs ((hlive s).mpr ⟨hl, hsx⟩)
    rw [update_of_ne hsx, hu.dead s hsl]
    exact h.vacant s hsl
  obtain ⟨hpx, hcx, hcase⟩ := hchild p c hc
  rw [update_of_ne hpx, update_of_ne hcx, update_of_ne hcx]
  rcases hcase with hpc | ⟨hxc, hpx'⟩
  · rw [hu.other c (fun e => hpx (Option.some.inj (hpc.2.symm.trans e.2)))]
    exact ⟨h.parentGen p c hpc, h.inherits p c hpc⟩
  have hpar : (node x).parent = some p := hpx'.2
  rw [hu.child c hxc]
  simp only [heir, hpar, reparent]
  exact ⟨h.parentGen p x hpx', (h.inherits x c hxc).trans (h.inherits p x hpx')⟩

/-! ### Revoked capabilities -/

lemma WellFormed.pruned {x : Slot} (hx : Live entry x)
    {dn : List Slot} (hdn : ∀ s, s ∈ dn ↔ Desc (Live entry) (links node) x s) {k : Kernel}
    (hP : Pruned entry node x dn k) : WellFormed k.entry k.node := by
  have hxd : x ∉ dn := fun e => h.forest.desc_irrefl ((hdn x).mp e)
  have hlive : ∀ s, Live k.entry s ↔ Live entry s ∧ ¬Desc (Live entry) (links node) x s := by
    intro s
    by_cases hs : s ∈ dn
    · simp [Live, hP.entry_in s hs, vacate, (hdn s).mp hs]
    have hnd : ¬Desc (Live entry) (links node) x s := fun e => hs ((hdn s).mpr e)
    simp [Live, hP.entry_out s hs, hnd]
  have hout : ∀ s, Live k.entry s → s ∉ dn := fun s hs e => ((hlive s).mp hs).2 ((hdn s).mp e)
  have hkeep : ∀ s ∉ dn, k.node s = { node s with firstChild := (k.node s).firstChild } := by
    intro s hs
    by_cases hsx : s = x
    · subst hsx; rw [hP.node_top]
    · rw [hP.node_out s hs hsx]
  have hchild : ∀ p c, Child (Live k.entry) (links k.node) p c →
      Child (Live entry) (links node) p c := by
    rintro p c ⟨hc, hcp⟩
    rw [links_parent, hkeep c (hout c hc)] at hcp
    exact ⟨((hlive c).mp hc).1, hcp⟩
  have hF : Forest (Live k.entry) (links k.node) := by
    refine h.forest.prune hx hlive ?_ (fun s hs => ?_) (fun s hs hsx => ?_) (fun s hs => ?_)
    · rw [links_first, hP.node_top]
    · rw [links_parent, hkeep s (hout s hs), links_parent]
    · rw [links_first, hP.node_out s (hout s hs) hsx, links_first]
    · rw [links_next, hkeep s (hout s hs), links_next]
  refine .of_edges hF (fun s hs => ?_) (fun s hs => ?_) fun p c hc => ?_
  · rw [hkeep s (hout s hs)]
    exact h.unrevoked s ((hlive s).mp hs).1
  · by_cases hsd : s ∈ dn
    · rw [hP.node_in s hsd]; rfl
    have hsl : ¬Live entry s := fun e => hs ((hlive s).mpr ⟨e, fun h' => hsd ((hdn s).mpr h')⟩)
    rw [hP.node_out s hsd (fun e => hsl (e ▸ hx))]
    exact h.vacant s hsl
  have hp := hout p (hF.up c p hc)
  rw [hkeep c (hout c hc.1), hP.entry_out c (hout c hc.1), hP.entry_out p hp]
  exact ⟨h.parentGen p c (hchild p c hc), h.inherits p c (hchild p c hc)⟩

end

end Steps

end ProjectZero.Cap.Invariant
