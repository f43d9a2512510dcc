import ProjectZero.Cap.Ops

/-! # The tree under move and close

A move puts the destination slot in the place of the source slot; a close takes a node out and hands
its children to its parent, or makes them roots. Here the node tables that `moveNode` and `unlinkNode`
return are described, and shown to hold a forest again. Neither loop can fail to end. -/

namespace ProjectZero.Cap.Relink

open Lib.Linked Lib.Tree Tables Cap.Node Ops

variable {live : Slot → Prop} {node : NodeTable}

/-- A loop over a chain that rewrites no link: the table it leaves has the chains it had. -/
lemma mapChain_links {f : CapabilityNode → CapabilityNode} {a : Option Slot} {l : List Slot}
    (hf : ∀ n, (f n).firstChild = n.firstChild ∧ (f n).nextSibling = n.nextSibling)
    (h : Chain (fun s => (node s).nextSibling) a l) :
    ∃ node', mapChain (·.nextSibling) f maxCapabilityNodes a node none = some (node', l.getLast?) ∧
      (∀ s ∈ l, node' s = f (node s)) ∧ (∀ s ∉ l, node' s = node s) ∧
      ∀ s, (node' s).firstChild = (node s).firstChild ∧
        (node' s).nextSibling = (node s).nextSibling := by
  obtain ⟨node', hm, hin, hout⟩ := mapChain_spec (fun n => (hf n).2) none h (chain_length_fuel h)
  refine ⟨node', by simpa using hm, hin, hout, fun s => ?_⟩
  by_cases hs : s ∈ l
  · rw [hin s hs]
    exact hf _
  rw [hout s hs]
  exact ⟨rfl, rfl⟩

/-! ### Move -/

/-- The table after the destination took the place of the source in the parent's chain. -/
structure Spliced (live : Slot → Prop) (node node' : NodeTable) (d x : Slot) (id : ℕ) : Prop where
  dst : SameButChains (node' d) (movedNode (node x) id)
  dstFirst : (node' d).firstChild = (node x).firstChild
  dstNext : (node x).parent ≠ none → (node' d).nextSibling = (node x).nextSibling
  other : ∀ s ≠ d, SameButChains (node' s) (node s)
  first : ∀ s, live s → s ≠ x →
    (node' s).firstChild = (node s).firstChild.map (rename x d)
  dead : ∀ s ≠ d, ¬ live s → (node' s).firstChild = (node s).firstChild
  next : ∀ s, live s → s ≠ x → (node s).parent ≠ none →
    (node' s).nextSibling = (node s).nextSibling.map (rename x d)
  out : ∀ s ≠ d, (live s → (node s).parent = none) →
    (node' s).nextSibling = (node s).nextSibling

variable {d x p : Slot}

section

variable (hF : Forest live (links node)) (hd : ¬ live d)

include hF hd

/-- A root has no chain to be spliced into: the source's node is copied, and no link leads to it. -/
lemma spliced_root (hp : (node x).parent = none) (id : ℕ) :
    Spliced live node (update node d (movedNode (node x) id)) d x id := by
  have hne : ∀ s, live s → s ≠ d := fun s hs e => hd (e ▸ hs)
  refine ⟨by simp [SameButChains], by simp [movedNode], fun h => absurd hp h, fun s hs => ?_,
    fun s hs _ => ?_, fun s hs _ => by simp [hs], fun s hs _ hsp => ?_, fun s hs _ => by simp [hs]⟩
  · rw [update_of_ne hs]
    exact sameButChains_refl _
  · have hf : (node s).firstChild ≠ some x := by
      intro e
      have hc := (hF.child_of_first hs e).2
      rw [links_parent, hp] at hc
      cases hc
    rw [update_of_ne (hne s hs), map_rename_of_ne hf]
  obtain ⟨q, hq⟩ := Option.ne_none_iff_exists'.mp hsp
  have hn : (node s).nextSibling ≠ some x := by
    intro e
    have hc := (hF.child_of_next ⟨hs, hq⟩ e).2
    rw [links_parent, hp] at hc
    cases hc
  rw [update_of_ne (hne s hs), map_rename_of_ne hn]

lemma spliced_child (hx : live x) (hp : (node x).parent = some p) (id : ℕ) :
    ∃ node', replaceChildLocked (update node d (movedNode (node x) id)) p x d =
        some node' ∧ Spliced live node node' d x id := by
  have hcx : Child live (links node) p x := ⟨hx, hp⟩
  have hpl : live p := hF.up x p hcx
  have hne : ∀ s, live s → s ≠ d := fun s hs e => hd (e ▸ hs)
  obtain ⟨l, hl, hm⟩ := hF.down p hpl
  have hdl : d ∉ l := fun h => hd ((hm d).mp h).1
  obtain ⟨pop, hpop⟩ : ∃ t, t = update node d (movedNode (node x) id) := ⟨_, rfl⟩
  have hpd : pop d = movedNode (node x) id := by simp [hpop]
  have hpo : ∀ s ≠ d, pop s = node s := fun s hs => by simp [hpop, hs]
  rw [← hpop]
  have hl' : Chain (links pop).next (pop p).firstChild l := by
    rw [hpo p (hne p hpl)]
    refine chain_congr (fun c hc => ?_) hl
    rw [links_next, links_next, hpo c (fun e => hdl (e ▸ hc))]
  obtain ⟨node', hr, hsame, hdn, hpf, hof, hin, hout⟩ :=
    replaceChild_spec hl' ((hm x).mpr hcx) hdl
  refine ⟨node', hr, hpd ▸ hsame d, ?_, fun _ => ?_, fun s hs => hpo s hs ▸ hsame s,
    fun s hs hsx => ?_, fun s hs hsl => ?_, fun s hs hsx hsp => ?_, fun s hs hroot => ?_⟩
  · rw [hof d (hne p hpl).symm, hpd]
    rfl
  · rw [hdn, hpo x (hne x hx)]
  · by_cases hsp : s = p
    · subst hsp
      rw [hpf, hpo s (hne s hs)]
    have hf : (node s).firstChild ≠ some x := by
      intro e
      have hc := (hF.child_of_first hs e).2
      rw [links_parent, hp] at hc
      exact hsp (Option.some.inj hc).symm
    rw [hof s hsp, hpo s (hne s hs), map_rename_of_ne hf]
  · rw [hof s (fun e => hsl (e ▸ hpl)), hpo s hs]
  · by_cases hsl : s ∈ l
    · rw [hin s hsl hsx, hpo s (hne s hs)]
    obtain ⟨q, hq⟩ := Option.ne_none_iff_exists'.mp hsp
    have hn : (node s).nextSibling ≠ some x := by
      intro e
      have hc := (hF.child_of_next ⟨hs, hq⟩ e).2
      rw [links_parent, hp] at hc
      have hqp : p = q := Option.some.inj hc
      subst hqp
      exact hsl ((hm s).mpr ⟨hs, hq⟩)
    rw [hout s hsl (hne s hs), hpo s (hne s hs), map_rename_of_ne hn]
  have hsl : s ∉ l := fun h => by
    have hc := (hm s).mp h
    exact absurd ((hroot hc.1).symm.trans hc.2) (by simp)
  rw [hout s hsl hs, hpo s hs]

lemma spliceMoved_spec (hx : live x) (id : ℕ) :
    ∃ node', spliceMoved node d x id = some node' ∧ Spliced live node node' d x id := by
  unfold spliceMoved
  cases hp : (node x).parent with
  | none => exact ⟨_, rfl, spliced_root hF hd hp id⟩
  | some p => exact spliced_child hF hd hx hp id

end

/-- What a move makes of the table. -/
structure Moved (live : Slot → Prop) (node node' : NodeTable) (d x : Slot) (g : BitVec 16)
    (id : ℕ) : Prop where
  src : node' x = .empty
  dst : SameButChains (node' d) (movedNode (node x) id)
  child : ∀ s, Child live (links node) x s → SameButChains (node' s) (follow d g (node s))
  other : ∀ s ≠ d, s ≠ x → ¬ Child live (links node) x s → SameButChains (node' s) (node s)
  dead : ∀ s ≠ d, s ≠ x → ¬ live s → (node' s).firstChild = (node s).firstChild
  forest : Forest (fun s => s = d ∨ (live s ∧ s ≠ x)) (links node')

/-- The links after a move are the old ones, with `d` for `x`. -/
structure Relabelled (live : Slot → Prop) (node node' : NodeTable) (d x : Slot) : Prop where
  parent : ∀ s, live s → (node' (rename x d s)).parent = (node s).parent.map (rename x d)
  first : ∀ s, live s → (node' (rename x d s)).firstChild = (node s).firstChild.map (rename x d)
  next : ∀ s, live s → (node s).parent ≠ none →
    (node' (rename x d s)).nextSibling = (node s).nextSibling.map (rename x d)
  out : ∀ s ≠ d, s ≠ x → (live s → (node s).parent = none) →
    (node' s).nextSibling = (node s).nextSibling

lemma Relabelled.forest {node' : NodeTable} (h : Relabelled live node node' d x)
    (hF : Forest live (links node)) (hd : ¬live d) (hx : live x) :
    Forest (fun s => s = d ∨ (live s ∧ s ≠ x)) (links node') := by
  refine hF.map (f := rename x d) (g := rename d x) (fun s hs => ?_) (fun t => ?_) h.parent h.first
    h.next
  · have hsd : s ≠ d := fun e => hd (e ▸ hs)
    by_cases hsx : s = x
    · simp [rename, hsx]
    · simp [rename, hsx, hsd]
  constructor
  · rintro (rfl | ⟨ht, htx⟩)
    · exact ⟨x, hx, by simp [rename]⟩
    · exact ⟨t, ht, by simp [rename, htx]⟩
  rintro ⟨s, hs, rfl⟩
  by_cases hsx : s = x
  · simp [rename, hsx]
  · simp [rename, hsx, hs]

/-- **A move** ends, and puts `d` in the place of `x`. -/
lemma moveNode_spec (hF : Forest live (links node)) (hd : ¬live d) (hx : live x)
    (g : BitVec 16) (id : ℕ) :
    ∃ node', moveNode node d x g id = some node' ∧ Moved live node node' d x g id ∧
      Relabelled live node node' d x := by
  have hxd : x ≠ d := fun e => hd (e ▸ hx)
  obtain ⟨lc, hlc, hmc⟩ := hF.down x hx
  obtain ⟨node1, h1, hs⟩ := spliceMoved_spec hF hd hx id
  -- the splice does not touch the links between the children of `x`
  have hnx : ∀ c ∈ lc, (node1 c).nextSibling = (node c).nextSibling := by
    intro c hc
    have hcx := (hmc c).mp hc
    rw [hs.next c hcx.1 (hF.child_ne hcx) (by rw [← links_parent, hcx.2]; simp)]
    refine map_rename_of_ne fun e => ?_
    exact hF.child_ne (hF.child_of_next hcx e) rfl
  have hlc1 : Chain (fun s => (node1 s).nextSibling) (node x).firstChild lc :=
    chain_congr (fun c hc => hnx c hc) hlc
  obtain ⟨node2, h2, hin, hout, hchains⟩ :=
    mapChain_links (f := follow d g) (fun _ => ⟨rfl, rfl⟩) hlc1
  have hdlc : d ∉ lc := fun h => hd ((hmc d).mp h).1
  obtain ⟨node', hn⟩ : ∃ t, t = update node2 x .empty := ⟨_, rfl⟩
  have hnode : ∀ s ≠ x, node' s = node2 s := fun s hsx => by rw [hn, update_of_ne hsx]
  have hdst : SameButChains (node' d) (movedNode (node x) id) := by
    rw [hnode d hxd.symm, hout d hdlc]
    exact hs.dst
  have hchild : ∀ s, Child live (links node) x s →
      SameButChains (node' s) (follow d g (node s)) := by
    intro s hc
    have hsd : s ≠ d := fun e => hd (e ▸ hc.1)
    rw [hnode s (hF.child_ne hc), hin s ((hmc s).mpr hc)]
    have := hs.other s hsd
    rw [this]
    rfl
  have hother : ∀ s ≠ d, s ≠ x → ¬Child live (links node) x s →
      SameButChains (node' s) (node s) := by
    intro s hsd hsx hc
    rw [hnode s hsx, hout s (fun h => hc ((hmc s).mp h))]
    exact hs.other s hsd
  have hpx : (node x).parent ≠ some x := fun e => hF.child_ne (c := x) ⟨hx, e⟩ rfl
  have hrel : Relabelled live node node' d x := by
    refine ⟨fun s hsl => ?_, fun s hsl => ?_, fun s hsl hsp => ?_, fun s hsd hsx hroot => ?_⟩
    · by_cases hsx : s = x
      · subst hsx
        rw [rename_self, hdst, map_rename_of_ne hpx]
        rfl
      rw [rename_of_ne hsx]
      by_cases hc : (node s).parent = some x
      · rw [hchild s ⟨hsl, hc⟩, hc]
        simp [follow, rename]
      · rw [hother s (fun e => hd (e ▸ hsl)) hsx (fun h => hc h.2), map_rename_of_ne hc]
    · by_cases hsx : s = x
      · subst hsx
        have hfx : (node s).firstChild ≠ some s := fun e => hF.child_ne (hF.child_of_first hx e) rfl
        rw [rename_self, hnode d hxd.symm, (hchains d).1, hs.dstFirst, map_rename_of_ne hfx]
      · rw [rename_of_ne hsx, hnode s hsx, (hchains s).1, hs.first s hsl hsx]
    · by_cases hsx : s = x
      · subst hsx
        obtain ⟨p, hp⟩ := Option.ne_none_iff_exists'.mp hsp
        have hnxt : (node s).nextSibling ≠ some s := hF.next_ne ⟨hx, hp⟩
        rw [rename_self, hnode d hxd.symm, (hchains d).2, hs.dstNext hsp, map_rename_of_ne hnxt]
      · rw [rename_of_ne hsx, hnode s hsx, (hchains s).2, hs.next s hsl hsx hsp]
    · rw [hnode s hsx, (hchains s).2, hs.out s hsd hroot]
  refine ⟨node', by simp [moveNode, h1, h2, hn], ⟨by simp [hn], hdst, hchild, hother,
    fun s hsd hsx hsl => ?_, hrel.forest hF hd hx⟩, hrel⟩
  rw [hnode s hsx, (hchains s).1, hs.dead s hsd hsl]

/-! ### Close -/

lemma spliceChildren_spec {first : Option Slot} {lc lp : List Slot}
    (hc : Chain (links node).next first lc) (hp : Chain (links node).next (node p).firstChild lp)
    (hdis : ∀ s ∈ lp, s ∉ lc) :
    ∃ node', spliceChildren node p first lc.getLast? = node' ∧
      Chain (links node').next ((node' p).firstChild) (lc ++ lp) ∧
      (∀ s, SameButChains (node' s) (node s)) ∧
      (∀ s ≠ p, (node' s).firstChild = (node s).firstChild) ∧
      ∀ s ∉ lc, (node' s).nextSibling = (node s).nextSibling := by
  rcases lc.eq_nil_or_concat with rfl | ⟨l0, last, rfl⟩
  · exact ⟨node, rfl, hp, fun _ => sameButChains_refl _, fun _ _ => rfl, fun _ _ => rfl⟩
  rw [List.concat_eq_append] at hc hdis ⊢
  have hnd := chain_nodup hc
  refine ⟨setFirst (setNext node last (node p).firstChild) p first, by simp; rfl, ?_,
    fun s => (sameButChains_setFirst ..).trans (sameButChains_setNext ..),
    fun s hs => by simp [hs], fun s hs => ?_⟩
  · rw [setFirst_first, if_pos rfl]
    refine chain_concat hc hp (by simp) (fun s hs => ?_) fun s hs => ?_
    · have hsl : s ≠ last := by
        rintro rfl
        exact (List.nodup_append.mp hnd).2.2 s hs s (by simp) rfl
      simp [hsl]
    have hsl : s ≠ last := by
      rintro rfl
      exact hdis s hs (by simp)
    simp [hsl]
  have hsl : s ≠ last := fun e => hs (by simp [e])
  simp [hsl]

/-- What becomes of the node of a child when the node `n` above it is closed. -/
def heir (node : NodeTable) (n child : CapabilityNode) : CapabilityNode :=
  match n.parent with
  | some p => reparent p n.parentGen (min ((node p).derivationDepth + 1) 255) child
  | none => promote child

/-- What a close makes of the table. -/
structure Unlinked (live : Slot → Prop) (node node' : NodeTable) (x : Slot) : Prop where
  child : ∀ s, Child live (links node) x s → SameButChains (node' s) (heir node (node x) (node s))
  other : ∀ s, ¬ Child live (links node) x s → SameButChains (node' s) (node s)
  dead : ∀ s, ¬ live s → (node' s).firstChild = (node s).firstChild
  forest : Forest (fun s => live s ∧ s ≠ x) (links (update node' x .empty))

/-- A root is closed: its children become roots. -/
lemma unlinkNode_root (hF : Forest live (links node)) (hx : live x) (hp : (node x).parent = none) :
    ∃ node', unlinkNode node x = some node' ∧ Unlinked live node node' x := by
  obtain ⟨lc, hlc, hmc⟩ := hF.down x hx
  obtain ⟨node', h, hin, hout, hchains⟩ := mapChain_links (f := promote) (fun _ => ⟨rfl, rfl⟩) hlc
  rw [links_first] at h
  refine ⟨node', by simp [unlinkNode, hp, h], fun s hc => ?_, fun s hc => ?_,
    fun s _ => (hchains s).1, ?_⟩
  · rw [hin s ((hmc s).mpr hc)]
    simp [heir, hp, SameButChains, promote]
  · rw [hout s (fun h => hc ((hmc s).mp h))]
    exact sameButChains_refl _
  refine hF.takeOut hx (fun _ => Iff.rfl) (fun s hs hsx => ?_) (fun s hs hsx hsp => ?_)
    (fun q hq => by cases hp.symm.trans hq) (fun s hs hsx _ => ?_) (fun q s hs _ hq => ?_)
  · have hc : Child live (links node) x s := ⟨hs, hsx⟩
    rw [links_parent, update_of_ne (hF.child_ne hc), hin s ((hmc s).mpr hc), links_parent, hp]
    rfl
  · rw [links_parent, update_of_ne hsx, hout s (fun h => hsp ((hmc s).mp h).2), links_parent]
  · rw [links_first, update_of_ne hsx, (hchains s).1, links_first]
  have hsx : s ≠ x := by
    rintro rfl
    have := hs.2
    rw [links_parent, hp] at this
    cases this
  rw [links_next, update_of_ne hsx, (hchains s).2, links_next]

/-- A node with a parent is closed: its children go to the parent. -/
lemma unlinkNode_child (hF : Forest live (links node)) (hx : live x)
    (hp : (node x).parent = some p) :
    ∃ node', unlinkNode node x = some node' ∧ Unlinked live node node' x := by
  have hcx : Child live (links node) p x := ⟨hx, hp⟩
  have hpx : p ≠ x := (hF.child_ne hcx).symm
  have hpl : live p := hF.up x p hcx
  obtain ⟨lp, hlp, hmp⟩ := hF.down p hpl
  obtain ⟨lc, hlc, hmc⟩ := hF.down x hx
  -- the children of `x` are not on the parent's chain
  have hdis : ∀ s ∈ lp, s ∉ lc := by
    intro s hs hsc
    have h1 := ((hmp s).mp hs).2
    rw [((hmc s).mp hsc).2] at h1
    exact hpx (Option.some.inj h1).symm
  obtain ⟨node1, h₁, hchain, hsame1, hfirst1, hnext1⟩ :=
    removeChild_spec hlp ((hmp x).mpr hcx)
  have hlc1 : Chain (fun s => (node1 s).nextSibling) (node x).firstChild lc :=
    chain_congr (fun c hc => hnext1 c (fun h => hdis c h hc)) hlc
  obtain ⟨depth, hdepth⟩ : ∃ n, n = min ((node1 p).derivationDepth + 1) 255 := ⟨_, rfl⟩
  have hdepth' : depth = min ((node p).derivationDepth + 1) 255 := by
    rw [hdepth, hsame1 p]
  obtain ⟨node2, h2, hin, hout, hchains⟩ :=
    mapChain_links (f := reparent p (node x).parentGen depth) (fun _ => ⟨rfl, rfl⟩) hlc1
  have hlc2 : Chain (links node2).next (node x).firstChild lc :=
    chain_congr (fun c _ => (hchains c).2) hlc1
  have hlp2 : Chain (links node2).next (node2 p).firstChild (lp.erase x) := by
    rw [(hchains p).1]
    exact chain_congr (fun c _ => (hchains c).2) hchain
  obtain ⟨node3, h3, hchain3, hsame3, hfirst3, hnext3⟩ :=
    spliceChildren_spec hlc2 hlp2 fun s hs => hdis s (List.mem_of_mem_erase hs)
  have hchild : ∀ s, Child live (links node) x s →
      SameButChains (node3 s) (reparent p (node x).parentGen depth (node s)) := by
    intro s hc
    refine (hsame3 s).trans ?_
    rw [hin s ((hmc s).mpr hc), hsame1 s]
    rfl
  have hother : ∀ s, ¬Child live (links node) x s → SameButChains (node3 s) (node s) := by
    intro s hc
    refine (hsame3 s).trans ?_
    rw [hout s (fun h => hc ((hmc s).mp h))]
    exact hsame1 s
  have hfirst : ∀ s ≠ p, (node3 s).firstChild = (node s).firstChild := fun s hs => by
    rw [hfirst3 s hs, (hchains s).1, hfirst1 s hs]
  refine ⟨node3, ?_, fun s hc => ?_, hother, fun s hs => hfirst s (fun e => hs (e ▸ hpl)), ?_⟩
  · simp [unlinkNode, hp, h₁, ← hdepth, h2, h3]
  · simp only [heir, hp, ← hdepth']
    exact hchild s hc
  refine hF.takeOut hx (fun _ => Iff.rfl) (fun s hs hsx => ?_) (fun s hs hsx hsp => ?_)
    (fun q hq => ?_) (fun s hs hsx hsp => ?_) (fun q s hs hqp hqx => ?_)
  · have hc : Child live (links node) x s := ⟨hs, hsx⟩
    rw [links_parent, update_of_ne (hF.child_ne hc), hchild s hc, links_parent, hp]
    rfl
  · rw [links_parent, update_of_ne hsx, hother s (fun h => hsp h.2), links_parent]
  · obtain rfl : p = q := Option.some.inj (hp.symm.trans hq)
    refine ⟨lc ++ lp.erase x, ?_, fun c => ?_⟩
    · rw [links_first, update_of_ne hpx]
      refine chain_congr (fun c hc => ?_) hchain3
      have hcne : c ≠ x := by
        rintro rfl
        rcases List.mem_append.mp hc with h | h
        · exact hF.child_ne ((hmc c).mp h) rfl
        · exact ((chain_nodup hlp).mem_erase_iff.mp h).1 rfl
      rw [links_next, update_of_ne hcne, links_next]
    rw [List.mem_append, (chain_nodup hlp).mem_erase_iff, hmc, hmp]
    tauto
  · rw [links_first, update_of_ne hsx, hfirst s fun e => hsp (e ▸ hp), links_first]
  have hsx : s ≠ x := by
    rintro rfl
    exact hqp hs.2
  have hsp : s ∉ lp := fun h => hqp (hp.trans (((hmp s).mp h).2.symm.trans hs.2))
  have hsc : s ∉ lc := fun h => hqx (Option.some.inj (hs.2.symm.trans ((hmc s).mp h).2))
  rw [links_next, update_of_ne hsx, hnext3 s hsc, (hchains s).2, hnext1 s hsp, links_next]

/-- **A close** ends, and takes `x` out of the tree. -/
lemma unlinkNode_spec (hF : Forest live (links node)) (hx : live x) :
    ∃ node', unlinkNode node x = some node' ∧ Unlinked live node node' x := by
  cases hp : (node x).parent with
  | none => exact unlinkNode_root hF hx hp
  | some p => exact unlinkNode_child hF hx hp

end ProjectZero.Cap.Relink
