import Mathlib

/-! # Radix trees in a store

Tables live in the cells of a store, and the entries of a table lead to further tables. `walk` follows
a path of indices from a root. A `Tree` is a root from which no table is reached along two paths of
the domain `D`; in such a tree a table can be cut off, or a new one grafted on, and every path that
does not run through that entry leads where it led before. -/

namespace ProjectZero.Lib.Radix

variable {F I : Type}

/-- The table at the end of a path. -/
def walk (next : F → I → Option F) (r : F) : List I → Option F
  | [] => some r
  | i :: p => (next r i).bind fun f => walk next f p

variable {next next' : F → I → Option F} {r : F} {D : List I → Prop}

lemma walk_cons (i : I) (p : List I) :
    walk next r (i :: p) = (next r i).bind fun f => walk next f p := rfl

lemma walk_append (p q : List I) :
    walk next r (p ++ q) = (walk next r p).bind fun f => walk next f q := by
  induction p generalizing r with
  | nil => rfl
  | cons i p ih =>
    rw [List.cons_append, walk_cons, walk_cons]
    cases next r i with
    | none => rfl
    | some f => exact ih

lemma walk_concat (p : List I) (i : I) :
    walk next r (p ++ [i]) = (walk next r p).bind fun f => next f i := by
  rw [walk_append]
  cases walk next r p with
  | none => rfl
  | some f =>
    change (next f i).bind some = next f i
    cases next f i <;> rfl

lemma walk_concat_eq_some {p : List I} {i : I} {f : F} :
    walk next r (p ++ [i]) = some f ↔ ∃ t, walk next r p = some t ∧ next t i = some f := by
  rw [walk_concat, Option.bind_eq_some_iff]

lemma walk_isSome_initial {p q : List I} {f : F} (h : walk next r q = some f) (hp : p <+: q) :
    ∃ t, walk next r p = some t := by
  obtain ⟨s, rfl⟩ := hp
  rw [walk_append] at h
  cases hw : walk next r p with
  | none => rw [hw] at h; cases h
  | some t => exact ⟨t, rfl⟩

/-- The domain has the beginnings of its paths. -/
def Closed (D : List I → Prop) : Prop := ∀ p i, D (p ++ [i]) → D p

lemma walk_congr (hD : Closed D)
    (h : ∀ p i f, D (p ++ [i]) → walk next r p = some f → next' f i = next f i) (p : List I)
    (hp : D p) : walk next' r p = walk next r p := by
  induction p using List.reverseRecOn with
  | nil => rfl
  | append_singleton p i ih =>
    rw [walk_concat, walk_concat, ih (hD p i hp)]
    cases hw : walk next r p with
    | none => rfl
    | some f => exact h p i f hp hw

/-- No table is reached along two paths. -/
def Tree (next : F → I → Option F) (r : F) (D : List I → Prop) : Prop :=
  ∀ p q f, D p → D q → walk next r p = some f → walk next r q = some f → p = q

/-! ### One entry changes -/

/-- The stores agree on the tables of the tree, but for the entry `i` of the table at the end of
`q`. -/
structure Differ (next next' : F → I → Option F) (r : F) (D : List I → Prop) (q : List I) (i : I)
    (t : F) : Prop where
  closed : Closed D
  domain : D (q ++ [i])
  table : walk next r q = some t
  other : ∀ p f j, D (p ++ [j]) → walk next r p = some f → f ≠ t ∨ j ≠ i → next' f j = next f j

variable {q : List I} {i : I} {t f : F}

section

variable (hd : Differ next next' r D q i t) (h : Tree next r D)

include hd h

/-- **Paths around the entry** lead where they led before. -/
lemma Differ.walk_around (p : List I)
    (hp : D p) (hpre : ¬(q ++ [i]) <+: p) : walk next' r p = walk next r p := by
  induction p using List.reverseRecOn with
  | nil => rfl
  | append_singleton p j ih =>
    have hDp : D p := hd.closed p j hp
    rw [walk_concat, walk_concat, ih hDp fun hc => hpre (hc.trans (List.prefix_append p [j]))]
    cases hw : walk next r p with
    | none => rfl
    | some f =>
      refine hd.other p f j hp hw ?_
      by_contra hc
      have hfj : f = t ∧ j = i := by
        constructor
        · by_contra hf; exact hc (.inl hf)
        · by_contra hj; exact hc (.inr hj)
      have hpq : p = q := h p q f hDp (hd.closed q i hd.domain) hw (hfj.1 ▸ hd.table)
      exact hpre (by rw [hpq, hfj.2])

lemma Differ.walk_table : walk next' r q = some t := by
  rw [hd.walk_around h q (hd.closed q i hd.domain), hd.table]
  intro hc
  have := hc.length_le
  rw [List.length_append, List.length_singleton] at this
  omega

lemma Differ.walk_through (s : List I) :
    walk next' r (q ++ [i] ++ s) = (next' t i).bind fun f => walk next' f s := by
  rw [walk_append, walk_concat, hd.walk_table h]
  rfl

/-! ### Cutting off -/

/-- **Cut**: nothing is reached through the entry any more. -/
lemma Differ.walk_cut
    (hi : next' t i = none) {p : List I} (hpre : (q ++ [i]) <+: p) : walk next' r p = none := by
  obtain ⟨s, rfl⟩ := hpre
  rw [hd.walk_through h, hi]
  rfl

lemma Differ.tree_cut (hi : next' t i = none) : Tree next' r D := by
  have hstay : ∀ p f, D p → walk next' r p = some f → walk next r p = some f := by
    intro p f hp hw
    by_cases hpre : (q ++ [i]) <+: p
    · rw [hd.walk_cut h hi hpre] at hw; cases hw
    · rw [← hd.walk_around h p hp hpre]; exact hw
  intro p p' f hp hp' hw hw'
  exact h p p' f hp hp' (hstay p f hp hw) (hstay p' f hp' hw')

end

/-! ### Grafting -/

variable [DecidableEq I]

/-- **Graft**: the entry leads to a table without entries. -/
lemma Differ.walk_graft (hd : Differ next next' r D q i t) (h : Tree next r D)
    (hi : next' t i = some f) (hf : ∀ j, next' f j = none) {p : List I} (hpre : (q ++ [i]) <+: p) :
    walk next' r p = if p = q ++ [i] then some f else none := by
  obtain ⟨s, rfl⟩ := hpre
  rw [hd.walk_through h, hi]
  cases s with
  | nil => simp [walk]
  | cons j s =>
    rw [if_neg (by simp)]
    change (next' f j).bind _ = none
    rw [hf j]
    rfl

lemma Differ.tree_graft (hd : Differ next next' r D q i t) (h : Tree next r D)
    (hi : next' t i = some f) (hf : ∀ j, next' f j = none)
    (hnew : ∀ p, D p → walk next r p ≠ some f) : Tree next' r D := by
  have hcases : ∀ p f', D p → walk next' r p = some f' →
      (p = q ++ [i] ∧ f' = f) ∨ walk next r p = some f' := by
    intro p f' hp hw
    by_cases hpre : (q ++ [i]) <+: p
    · rw [hd.walk_graft h hi hf hpre] at hw
      split at hw
      next he =>
        cases hw
        exact .inl ⟨he, rfl⟩
      · cases hw
    rw [hd.walk_around h p hp hpre] at hw
    exact .inr hw
  intro p p' f' hp hp' hw hw'
  rcases hcases p f' hp hw with ⟨he, hf1⟩ | h1 <;> rcases hcases p' f' hp' hw' with ⟨he', hf2⟩ | h2
  · rw [he, he']
  · exact absurd (hf1 ▸ h2) (hnew p' hp')
  · exact absurd (hf2 ▸ h1) (hnew p hp)
  · exact h p p' f' hp hp' h1 h2

end ProjectZero.Lib.Radix
