import ProjectZero.Lib.Tree
import ProjectZero.Tables

/-! # The derivation tree: splicing the child chains

The three functions that edit the chain of a node's children. The loops that look for the predecessor
of a child are given `MAX_CAPABILITY_NODES` rounds: a walk along the links that makes more has
repeated a node and never ends, and then the result is `none`.

The specifications describe the edited table by its links (`removeChild_spec`,
`replaceChild_spec`): the chain of the parent is the old one without the child, or with the new
node in the place of the old one, and everything else is as it was. -/

namespace ProjectZero.Cap.Node

open Lib.Linked Lib.Tree Tables

abbrev NodeTable := Slot → CapabilityNode

/-- The links of a table of nodes. -/
@[simps]
def links (node : NodeTable) : Links Slot where
  parent s := (node s).parent
  first s := (node s).firstChild
  next s := (node s).nextSibling

/-- `a` is `b` up to the links of the child chains. -/
def SameButChains (a b : CapabilityNode) : Prop :=
  a = { b with firstChild := a.firstChild, nextSibling := a.nextSibling }

lemma sameButChains_refl (a : CapabilityNode) : SameButChains a a := rfl

lemma SameButChains.trans {a b c : CapabilityNode} (h₁ : SameButChains a b)
    (h₂ : SameButChains b c) : SameButChains a c := by
  unfold SameButChains at h₁ h₂ ⊢
  rw [h₁, h₂]

/-! ### The functions -/

def addChildLocked (node : NodeTable) (parent child : Slot) : NodeTable :=
  let node₁ := update node child
    { node child with nextSibling := (node parent).firstChild }
  update node₁ parent { node₁ parent with firstChild := some child }

def removeChildLocked (node : NodeTable) (parent child : Slot) : Option NodeTable :=
  let spliced :=
    if (node parent).firstChild = some child then
      some (update node parent
        { node parent with firstChild := (node child).nextSibling })
    else
      match findPred (fun s => (node s).nextSibling) child maxCapabilityNodes
          (node parent).firstChild with
      | none => none
      | some none => some node
      | some (some curr) => some (update node curr
          { node curr with nextSibling := (node child).nextSibling })
  spliced.map fun node₁ =>
    update node₁ child { node₁ child with nextSibling := none }

def replaceChildLocked (node : NodeTable) (parent old new : Slot) : Option NodeTable :=
  if (node parent).firstChild = some old then
    let node₁ := update node new { node new with nextSibling := (node old).nextSibling }
    some (update node₁ parent { node₁ parent with firstChild := some new })
  else
    match findPred (fun s => (node s).nextSibling) old maxCapabilityNodes
        (node parent).firstChild with
    | none => none
    | some none => some node
    | some (some curr) =>
      let node₁ := update node new { node new with nextSibling := (node old).nextSibling }
      some (update node₁ curr { node₁ curr with nextSibling := some new })

/-! ### Setting one link -/

def setFirst (node : NodeTable) (a : Slot) (v : Option Slot) : NodeTable :=
  update node a { node a with firstChild := v }

def setNext (node : NodeTable) (a : Slot) (v : Option Slot) : NodeTable :=
  update node a { node a with nextSibling := v }

section

variable (node : NodeTable) (a s : Slot) (v : Option Slot)

lemma sameButChains_setFirst : SameButChains (setFirst node a v s) (node s) := by
  by_cases h : s = a
  · subst h; simp [setFirst, SameButChains]
  · simp [setFirst, h, SameButChains]

lemma sameButChains_setNext : SameButChains (setNext node a v s) (node s) := by
  by_cases h : s = a
  · subst h; simp [setNext, SameButChains]
  · simp [setNext, h, SameButChains]

@[simp] lemma setFirst_first :
    (setFirst node a v s).firstChild = if s = a then v else (node s).firstChild := by
  by_cases h : s = a <;> simp [setFirst, h]

@[simp] lemma setFirst_next : (setFirst node a v s).nextSibling = (node s).nextSibling := by
  by_cases h : s = a <;> simp [setFirst, h]

@[simp] lemma setNext_first : (setNext node a v s).firstChild = (node s).firstChild := by
  by_cases h : s = a <;> simp [setNext, h]

@[simp] lemma setNext_next :
    (setNext node a v s).nextSibling = if s = a then v else (node s).nextSibling := by
  by_cases h : s = a <;> simp [setNext, h]

end

/-! ### Specifications -/

variable {a : Option Slot} {next : Slot → Option Slot} {l : List Slot}

lemma chain_length_fuel
    (h : Chain next a l) : l.length ≤ maxCapabilityNodes := card_slot ▸ chain_length_le h

variable {x p : Slot}

lemma mem_head_or_after (h : x ∈ l) : (∃ l₂, l = x :: l₂) ∨ ∃ l₁ c l₂, l = l₁ ++ c :: x :: l₂ := by
  obtain ⟨l₁, l₂, rfl⟩ := List.append_of_mem h
  rcases l₁.eq_nil_or_concat with rfl | ⟨l0, c, rfl⟩
  · exact .inl ⟨l₂, rfl⟩
  · exact .inr ⟨l0, c, l₂, by simp⟩

lemma head_ne {l₁ l₂ : List Slot} {c : Slot}
    (h : Chain next a (l₁ ++ c :: x :: l₂)) : a ≠ some x := by
  rintro rfl
  obtain ⟨l', he, -⟩ := chain_some.mp h
  have hnd := chain_nodup h
  cases l₁ with
  | nil =>
    simp only [List.nil_append, List.cons.injEq] at he
    obtain ⟨rfl, -⟩ := he
    simp at hnd
  | cons d l₁ =>
    simp only [List.cons_append, List.cons.injEq] at he
    obtain ⟨rfl, -⟩ := he
    simp at hnd

variable {node : NodeTable}

section

variable (hl : Chain (links node).next ((node p).firstChild) l) (hx : x ∈ l)

include hl hx

/-- **Unlinking a child.** -/
lemma removeChild_spec :
    ∃ node', removeChildLocked node p x = some node' ∧
      Chain (links node').next ((node' p).firstChild) (l.erase x) ∧
      (∀ s, SameButChains (node' s) (node s)) ∧
      (∀ s ≠ p, (node' s).firstChild = (node s).firstChild) ∧
      ∀ s ∉ l, (node' s).nextSibling = (node s).nextSibling := by
  have hnd := chain_nodup hl
  rcases mem_head_or_after hx with ⟨l2, rfl⟩ | ⟨l1, c, l2, rfl⟩
  · have hfirst : (node p).firstChild = some x := hl.1
    have hxl : x ∉ l2 := (List.nodup_cons.mp hnd).1
    refine ⟨setNext (setFirst node p (node x).nextSibling) x none,
      by rw [removeChildLocked, if_pos hfirst]; rfl, ?_,
      fun s => (sameButChains_setNext ..).trans (sameButChains_setFirst ..),
      fun s hs => by simp [hs], fun s hs => ?_⟩
    · rw [List.erase_cons_head, setNext_first, setFirst_first, if_pos rfl]
      refine chain_congr (fun s hs => ?_) hl.2
      have hsx : s ≠ x := fun e => hxl (e ▸ hs)
      simp [hsx]
    have hsx : s ≠ x := fun e => hs (by simp [e])
    simp [hsx]
  have hfirst : (node p).firstChild ≠ some x := head_ne hl
  have hpred : findPred (fun s => (node s).nextSibling) x maxCapabilityNodes
      (node p).firstChild = some (some c) := findPred_eq hl (chain_length_fuel hl)
  have hcx : c ≠ x := by rintro rfl; simp [List.nodup_append] at hnd
  have hne : ∀ s ∈ l1 ++ l2, s ≠ c ∧ s ≠ x := by
    intro s hs
    simp only [List.nodup_append, List.nodup_cons, List.mem_cons, not_or] at hnd
    rcases List.mem_append.mp hs with h | h
    · exact ⟨hnd.2.2 s h c (by simp), hnd.2.2 s h x (by simp)⟩
    · exact ⟨fun e => hnd.2.1.1.2 (e ▸ h), fun e => hnd.2.1.2.1 (e ▸ h)⟩
  have herase : (l1 ++ c :: x :: l2).erase x = l1 ++ c :: l2 := by
    have h1 : x ∉ l1 := fun h => (hne x (by simp [h])).2 rfl
    rw [List.erase_append_right _ h1, List.erase_cons_tail (by simpa using hcx),
      List.erase_cons_head]
  refine ⟨setNext (setNext node c (node x).nextSibling) x none,
    by simp only [removeChildLocked, if_neg hfirst, hpred]; rfl, ?_,
    fun s => (sameButChains_setNext ..).trans (sameButChains_setNext ..),
    fun s _ => by simp, fun s hs => ?_⟩
  · rw [herase, setNext_first, setNext_first]
    refine chain_remove_after hl ?_ fun s hs => ?_
    · simp [hcx]
    · simp [hne s hs]
  have hsx : s ≠ x := fun e => hs (by simp [e])
  have hsc : s ≠ c := fun e => hs (by simp [e])
  simp [hsx, hsc]

/-- **Putting `y` in the place of a child.** -/
lemma replaceChild_spec {y : Slot} (hy : y ∉ l) :
    ∃ node', replaceChildLocked node p x y = some node' ∧ (∀ s, SameButChains (node' s) (node s)) ∧
      (node' y).nextSibling = (node x).nextSibling ∧
      (node' p).firstChild = (node p).firstChild.map (rename x y) ∧
      (∀ s ≠ p, (node' s).firstChild = (node s).firstChild) ∧
      (∀ s ∈ l, s ≠ x → (node' s).nextSibling = (node s).nextSibling.map (rename x y)) ∧
      ∀ s ∉ l, s ≠ y → (node' s).nextSibling = (node s).nextSibling := by
  have hnd := chain_nodup hl
  rcases mem_head_or_after hx with ⟨l2, rfl⟩ | ⟨l1, c, l2, rfl⟩
  · have hfirst : (node p).firstChild = some x := hl.1
    refine ⟨setFirst (setNext node y (node x).nextSibling) p (some y),
      by rw [replaceChildLocked, if_pos hfirst]; rfl,
      fun s => (sameButChains_setFirst ..).trans (sameButChains_setNext ..),
      by simp, by simp [hfirst, rename], fun s hs => by simp [hs], fun s hs hsx => ?_,
      fun s _ hsy => by simp [hsy]⟩
    -- behind the head no link leads to `x`
    have hsy : s ≠ y := fun e => hy (e ▸ hs)
    have hsn : (node s).nextSibling ≠ some x := by
      intro e
      have hs' : s ∈ l2 := (List.mem_cons.mp hs).resolve_left hsx
      obtain ⟨a, b, rfl⟩ := List.append_of_mem hs'
      have h3 : Chain (links node).next (node s).nextSibling b := (chain_suffix hl.2).2
      rw [e] at h3
      obtain ⟨l', rfl, -⟩ := chain_some.mp h3
      simp at hnd
    simp [map_rename_of_ne hsn, hsy]
  have hfirst : (node p).firstChild ≠ some x := head_ne hl
  have hpred : findPred (fun s => (node s).nextSibling) x maxCapabilityNodes
      (node p).firstChild = some (some c) := findPred_eq hl (chain_length_fuel hl)
  have hcy : c ≠ y := fun e => hy (by simp [e])
  have hcn : (node c).nextSibling = some x := by
    obtain ⟨m, -, -, h3, -⟩ := seg_append.mp hl
    exact h3
  refine ⟨setNext (setNext node y (node x).nextSibling) c (some y),
    by simp only [replaceChildLocked, if_neg hfirst, hpred]; rfl,
    fun s => (sameButChains_setNext ..).trans (sameButChains_setNext ..),
    by simp [hcy.symm], by simp [map_rename_of_ne hfirst], fun s _ => by simp,
    fun s hs hsx => ?_, fun s hs hsy => ?_⟩
  · have hsy : s ≠ y := fun e => hy (e ▸ hs)
    by_cases hsc : s = c
    · simp [hsc, hcn, rename]
    -- only `c` links to `x`
    have hsn : (node s).nextSibling ≠ some x := fun e =>
      hsc (chain_pred_unique hl hs (by simp) (e.trans hcn.symm))
    simp [map_rename_of_ne hsn, hsc, hsy]
  have hsc : s ≠ c := fun e => hs (by simp [e])
  simp [hsc, hsy]

end

end ProjectZero.Cap.Node
