import ProjectZero.Cap.Ops

/-! # The revocation loop

`revoke_descendants_tree_locked` collects the subtree breadth first into a worklist of fixed size and
clears the links it walks on. The loop invariant is a worklist traversal of the tree as it was at the
start: the nodes worked off are cut, and every other node, so also every node the loop has still to
walk over, is unchanged. The worklist holds no node twice, so it never overflows, and at the end
exactly the nodes below the start are cut.

`revokeTree_spec` leaves open what the caller wants to know of the objects: an
assertion `Q` about the nodes worked off and the tables, kept by the release of one reference. -/

namespace ProjectZero.Cap.RevokeLoop

open Lib.Linked Lib.Tree Lib.Run Tables Cap.Node Ops Ipc.Object

def Live (entry : Slot → HandleEntry) (s : Slot) : Prop := (entry s).occupied
  deriving Decidable

variable {node : NodeTable}

/-- The chain is pushed as a whole when the worklist has room for it. -/
lemma pushChain_spec {taken : ℕ} :
    ∀ {n : ℕ} {l todo : List Slot} {a : Option Slot}, Chain (links node).next a l →
      l.length ≤ n → taken + todo.length + l.length ≤ maxCapabilityNodes →
        pushChain node taken n a todo = some (todo ++ l) := by
  intro n l
  induction l generalizing n with
  | nil =>
    intro todo a h _ _
    have ha : a = none := h
    subst ha
    simp [pushChain]
  | cons c l ih =>
    intro todo a h hn hroom
    obtain ⟨rfl, h⟩ := h
    obtain ⟨n, rfl⟩ : ∃ m, n = m + 1 := ⟨n - 1, by simp at hn; omega⟩
    simp only [List.length_cons] at hroom hn
    have hrest : pushChain node taken n (node c).nextSibling (todo ++ [c]) =
        some ((todo ++ [c]) ++ l) := ih h (by omega) (by simp; omega)
    rw [pushChain, if_pos (by omega), hrest]
    simp

/-- The tables when the nodes `dn` below `x` are revoked, against the tables at the start. -/
structure Pruned (entry : Slot → HandleEntry) (node : NodeTable) (x : Slot) (dn : List Slot)
    (k : Kernel) : Prop where
  entry_in : ∀ s ∈ dn, k.entry s = vacate (entry s)
  entry_out : ∀ s ∉ dn, k.entry s = entry s
  node_in : ∀ s ∈ dn, k.node s = cut (node s)
  node_top : k.node x = { node x with firstChild := none }
  node_out : ∀ s ∉ dn, s ≠ x → k.node s = node s

variable {x : Slot} {k : Kernel} {entry : Slot → HandleEntry} {dn : List Slot}

lemma Pruned.live {c : Slot} (h : Pruned entry node x dn k)
    (hc : Desc (Live entry) (links node) x c) (hcd : c ∉ dn) : Live k.entry c := by
  have hold : Live entry c := desc_live hc
  rwa [Live, h.entry_out c hcd]

lemma Pruned.of_same {k' : Kernel} (h : Pruned entry node x dn k) (hs : SameHandles k k') :
    Pruned entry node x dn k' := by
  obtain ⟨h1, h2, h3, h4, h5⟩ := h
  refine ⟨?_, ?_, ?_, ?_, ?_⟩
  · rw [hs.entry]; exact h1
  · rw [hs.entry]; exact h2
  · rw [hs.node]; exact h3
  · rw [hs.node]; exact h4
  · rw [hs.node]; exact h5

/-- The tables after the node `c` is cut and its entry vacated, before its object is released. -/
def cutAt (k : Kernel) (c : Slot) : Kernel :=
  invalidate { k with node := update k.node c (cut (k.node c)) } c

lemma Pruned.cutAt {c : Slot} (h : Pruned entry node x dn k) (hcx : c ≠ x) (hc : c ∉ dn) :
    Pruned entry node x (dn ++ [c]) (cutAt k c) := by
  have hentry : ∀ s ≠ c, (RevokeLoop.cutAt k c).entry s = k.entry s := fun s hs => by
    simp [RevokeLoop.cutAt, invalidate, hs]
  have hnode : ∀ s ≠ c, (RevokeLoop.cutAt k c).node s = k.node s := fun s hs => by
    simp [RevokeLoop.cutAt, invalidate, hs]
  refine ⟨fun s hs => ?_, fun s hs => ?_, fun s hs => ?_, ?_, fun s hs hsx => ?_⟩
  · rcases List.mem_append.mp hs with hs | hs
    · rw [hentry s (fun e => hc (e ▸ hs)), h.entry_in s hs]
    obtain rfl := List.mem_singleton.mp hs
    rw [← h.entry_out s hc]
    simp [RevokeLoop.cutAt, invalidate]
  · simp only [List.mem_append, List.mem_singleton, not_or] at hs
    rw [hentry s hs.2, h.entry_out s hs.1]
  · rcases List.mem_append.mp hs with hs | hs
    · rw [hnode s (fun e => hc (e ▸ hs)), h.node_in s hs]
    obtain rfl := List.mem_singleton.mp hs
    rw [← h.node_out s hc hcx]
    simp [RevokeLoop.cutAt, invalidate]
  · rw [hnode x hcx.symm, h.node_top]
  simp only [List.mem_append, List.mem_singleton, not_or] at hs
  rw [hnode s hs.2, h.node_out s hs.1 hsx]

lemma releaseRevoked_same (k : Kernel) (i : ObjIdx) (endpoint : ℕ) :
    Ends (SameHandles k) (releaseRevoked k i endpoint) := by
  unfold releaseRevoked
  split
  · exact .refl k
  simp only
  split
  · refine .bind (wakeAllWaiters_same _ _ _) fun k' h => ?_
    exact (reclaimChannel_same k' i).mono fun k'' h' =>
      have h'' := h.trans h'
      ⟨h''.entry, h''.node, h''.count⟩
  · exact (reclaimShm_same _ i).mono fun _ h => ⟨h.entry, h.node, h.count⟩
  · exact ⟨rfl, rfl, rfl⟩

section Loop

variable {entry : Slot → HandleEntry} {node : NodeTable} {x : Slot} {E : Halt → Prop}
  {Q : List Slot → Kernel → Prop}

lemma revokeNode_spec {dn : List Slot} {c : Slot} {k : Kernel} (hP : Pruned entry node x dn k)
    (hcx : c ≠ x) (hc : c ∉ dn) (hlive : Live entry c)
    (hQ : Holds E (Q (dn ++ [c])) (releaseRevoked (cutAt k c) (entry c).objectIndex
      (entry c).endpoint)) :
    Holds E (fun r => r.1 = 1 ∧ Pruned entry node x (dn ++ [c]) r.2 ∧ Q (dn ++ [c]) r.2)
      (revokeNode k c) := by
  have he : k.entry c = entry c := hP.entry_out c hc
  have hocc : (k.entry c).occupied = true := by rw [he]; exact hlive
  unfold revokeNode
  simp only [hocc, if_true]
  rw [he]
  refine .bind (hQ.and (releaseRevoked_same _ _ _)) fun k' h => ?_
  exact ⟨rfl, (hP.cutAt hcx hc).of_same h.2, h.1⟩

/-- **The loop** works off the whole worklist. -/
lemma revokeLoop_spec (hF : Forest (Live entry) (links node))
    (hQ : ∀ dn c k, Pruned entry node x dn k → Q dn k → Desc (Live entry) (links node) x c →
      c ∉ dn → Holds E (Q (dn ++ [c])) (releaseRevoked (cutAt k c) (entry c).objectIndex
        (entry c).endpoint)) :
    ∀ (n : ℕ) {k : Kernel} {dn todo : List Slot},
      Traversal (Live entry) (links node) x dn todo → Pruned entry node x dn k → Q dn k →
      maxCapabilityNodes ≤ n + dn.length →
      Holds E (fun r => ∃ dn', dn'.Nodup ∧ (∀ s, s ∈ dn' ↔ Desc (Live entry) (links node) x s) ∧
        Pruned entry node x dn' r.2 ∧ Q dn' r.2 ∧ r.1 = dn'.length)
        (revokeLoop n k dn.length todo dn.length) := by
  intro n
  induction n with
  | zero =>
    intro k dn todo ht hP hq hn
    have hlen := ht.length_le
    rw [card_slot] at hlen
    cases todo with
    | nil => exact ⟨dn, by simpa using ht.nodup, ht.finish, hP, hq, rfl⟩
    | cons c todo => simp only [List.length_cons] at hlen; omega
  | succ n ih =>
    intro k dn todo ht hP hq hn
    cases todo with
    | nil => exact ⟨dn, by simpa using ht.nodup, ht.finish, hP, hq, rfl⟩
    | cons c todo =>
      obtain ⟨hcx, hcd⟩ := ht.head_new hF
      have hdesc : Desc (Live entry) (links node) x c := ht.below c (by simp)
      obtain ⟨lc, hlc, hmc⟩ := hF.down c (desc_live hdesc)
      have hlc_nd := chain_nodup hlc
      have ht' := ht.step hF hlc_nd hmc
      -- the children of `c` are neither cut nor the start, so their links are the old ones
      have hlc' : Chain (links k.node).next (k.node c).firstChild lc := by
        rw [hP.node_out c hcd hcx]
        refine chain_congr (fun s hs => ?_) hlc
        obtain ⟨hsx, hsn⟩ := ht.child_new hF ((hmc s).mp hs)
        rw [links_next, links_next, hP.node_out s (fun h => hsn (by simp [h])) hsx]
      have hroom := ht'.length_le
      rw [card_slot] at hroom
      simp only [List.length_append, List.length_cons, List.length_nil] at hroom
      have hpush : pushChain k.node (dn.length + 1) maxCapabilityNodes (k.node c).firstChild todo =
          some (todo ++ lc) := pushChain_spec hlc' (chain_length_fuel hlc') (by omega)
      simp only [revokeLoop, hpush]
      refine .bind (revokeNode_spec hP hcx hcd (desc_live hdesc)
        (hQ dn c k hP hq hdesc hcd)) fun r ⟨h1, hP', hq'⟩ => ?_
      have hdn : (dn ++ [c]).length = dn.length + 1 := by simp
      have := ih ht' hP' hq' (by rw [hdn]; omega)
      rw [hdn] at this
      simp only [h1]
      exact this

end Loop

/-- The tables with the children of `x` detached. -/
def detached (k : Kernel) (x : Slot) : Kernel :=
  { k with node := update k.node x { k.node x with firstChild := none } }

/-- **Revocation** from a live capability: exactly the nodes below it are cut, each is counted, and
the assertion `Q` holds for them at the end. -/
lemma revokeTree_spec {E : Halt → Prop}
    {Q : List Slot → Kernel → Prop} (hF : Forest (Live k.entry) (links k.node))
    (hx : Live k.entry x) (h0 : Q [] (detached k x))
    (hQ : ∀ dn c k', Pruned k.entry k.node x dn k' → Q dn k' →
      Desc (Live k.entry) (links k.node) x c → c ∉ dn →
      Holds E (Q (dn ++ [c])) (releaseRevoked (cutAt k' c) (k.entry c).objectIndex
        (k.entry c).endpoint)) :
    Holds E (fun r => ∃ dn, dn.Nodup ∧ (∀ s, s ∈ dn ↔ Desc (Live k.entry) (links k.node) x s) ∧
      Pruned k.entry k.node x dn r.2 ∧ Q dn r.2 ∧ r.1 = dn.length)
      (revokeDescendantsTreeLocked k x) := by
  obtain ⟨lc, hlc, hmc⟩ := hF.down x hx
  have hfuel := chain_length_fuel hlc
  have hpush : pushChain k.node 0 maxCapabilityNodes (k.node x).firstChild [] = some ([] ++ lc) :=
    pushChain_spec hlc hfuel (by simpa using hfuel)
  have hP : Pruned k.entry k.node x [] (detached k x) := by
    refine ⟨by simp, fun _ _ => rfl, by simp, by simp [detached], fun s _ hs => ?_⟩
    simp [detached, hs]
  unfold revokeDescendantsTreeLocked
  simp only [hpush]
  exact revokeLoop_spec hF hQ maxCapabilityNodes (Traversal.start (chain_nodup hlc) hmc) hP h0
    (by simp)

lemma revokeTree_leaf
    (hx : (k.node x).firstChild = none) : revokeDescendantsTreeLocked k x = .ok (0, k) := by
  have hnode : { k.node x with firstChild := none } = k.node x := by rw [← hx]
  unfold revokeDescendantsTreeLocked
  rw [hx]
  simp [pushChain, revokeLoop, maxCapabilityNodes, hnode]

end ProjectZero.Cap.RevokeLoop
