import ProjectZero.Lib.Update

/-! # Linked chains in a table

A table of nodes linked by a function `next : ι → Option ι`. `Seg next a l b` says that following the
links from `a` visits the nodes of `l` in order and arrives at `b`; a chain is a segment that arrives
at `none`. A chain determines its list and repeats no node, so in a finite table it is short.

The loops that walk a chain are written with fuel: `none` is the loop that does not end. A walk over
a chain that fits into the fuel ends, and its result is given in closed form (`mapChain_spec`,
`findPred_eq`). -/

namespace ProjectZero.Lib.Linked

variable {ι : Type*}

/-- Following `next` from `a` visits `l` in order and arrives at `b`. -/
def Seg (next : ι → Option ι) : Option ι → List ι → Option ι → Prop
  | a, [], b => a = b
  | a, c :: l, b => a = some c ∧ Seg next (next c) l b

/-- A segment that ends. -/
def Chain (next : ι → Option ι) (a : Option ι) (l : List ι) : Prop := Seg next a l none

section Segments

variable {next next' : ι → Option ι} {a b m : Option ι} {c : ι} {l l₁ l₂ : List ι}

@[simp] lemma seg_nil : Seg next a [] b ↔ a = b := Iff.rfl

@[simp] lemma seg_cons : Seg next a (c :: l) b ↔ a = some c ∧ Seg next (next c) l b := Iff.rfl

lemma seg_append : Seg next a (l₁ ++ l₂) b ↔ ∃ m, Seg next a l₁ m ∧ Seg next m l₂ b := by
  induction l₁ generalizing a with
  | nil => simp
  | cons c l₁ ih =>
    simp only [List.cons_append, seg_cons, ih]
    constructor
    · rintro ⟨h, m, h1, h2⟩; exact ⟨m, ⟨h, h1⟩, h2⟩
    · rintro ⟨m, ⟨h, h1⟩, h2⟩; exact ⟨h, m, h1, h2⟩

lemma seg_congr (h : ∀ c ∈ l, next' c = next c) (hs : Seg next a l b) : Seg next' a l b := by
  induction l generalizing a with
  | nil => exact hs
  | cons c l ih =>
    refine ⟨hs.1, ?_⟩
    rw [h c (by simp)]
    exact ih (fun x hx => h x (by simp [hx])) hs.2

lemma chain_congr (h : ∀ c ∈ l, next' c = next c) (hs : Chain next a l) : Chain next' a l :=
  seg_congr h hs

@[simp] lemma chain_none : Chain next none l ↔ l = [] := by
  cases l <;> simp [Chain]

lemma chain_some : Chain next (some c) l ↔ ∃ l', l = c :: l' ∧ Chain next (next c) l' := by
  cases l with
  | nil => simp [Chain]
  | cons d l =>
    simp only [Chain, seg_cons, Option.some.injEq, List.cons.injEq]
    constructor
    · rintro ⟨rfl, h⟩; exact ⟨l, ⟨rfl, rfl⟩, h⟩
    · rintro ⟨l', ⟨rfl, rfl⟩, h⟩; exact ⟨rfl, h⟩

lemma chain_unique (h₁ : Chain next a l₁) (h₂ : Chain next a l₂) : l₁ = l₂ := by
  induction l₁ generalizing a l₂ with
  | nil =>
    have ha : a = none := h₁
    subst ha
    exact (chain_none.mp h₂).symm
  | cons c l₁ ih =>
    obtain ⟨rfl, h⟩ := h₁
    obtain ⟨l', rfl, h'⟩ := chain_some.mp h₂
    rw [ih h h']

lemma chain_of_seg (hs : Seg next a l₁ m) (h : Chain next a l) :
    ∃ r, l = l₁ ++ r ∧ Chain next m r := by
  induction l₁ generalizing a l with
  | nil =>
    have ha : a = m := hs
    subst ha
    exact ⟨l, rfl, h⟩
  | cons c l₁ ih =>
    obtain ⟨rfl, hs⟩ := hs
    obtain ⟨l', rfl, h'⟩ := chain_some.mp h
    obtain ⟨r, rfl, hr⟩ := ih hs h'
    exact ⟨r, rfl, hr⟩

lemma chain_suffix (h : Chain next a (l₁ ++ c :: l₂)) : Chain next (some c) (c :: l₂) := by
  obtain ⟨m, -, h2⟩ := seg_append.mp h
  obtain ⟨rfl, h3⟩ := h2
  exact ⟨rfl, h3⟩

/-- A chain repeats no node: a repetition would give one node two chains of different lengths. -/
lemma chain_nodup (h : Chain next a l) : l.Nodup := by
  induction l generalizing a with
  | nil => exact List.nodup_nil
  | cons c l ih =>
    refine List.nodup_cons.mpr ⟨fun hc => ?_, ih h.2⟩
    obtain ⟨l₁, l₂, rfl⟩ := List.append_of_mem hc
    have h1 : Chain next (some c) (c :: (l₁ ++ c :: l₂)) := ⟨rfl, h.2⟩
    have h2 : Chain next (some c) (c :: l₂) := chain_suffix h.2
    have := congrArg List.length (chain_unique h1 h2)
    simp at this
    omega

lemma chain_pred_unique {x y : ι} (h : Chain next a l) (hx : x ∈ l) (hy : y ∈ l)
    (hxy : next x = next y) : x = y := by
  obtain ⟨l₁, r1, rfl⟩ := List.append_of_mem hx
  obtain ⟨l₂, r2, he⟩ := List.append_of_mem hy
  have h1 : Chain next (next x) r1 := (chain_suffix h).2
  have h2 : Chain next (next x) r2 := by
    rw [he] at h
    rw [hxy]
    exact (chain_suffix h).2
  obtain rfl := chain_unique h1 h2
  have := (List.append_inj' he rfl).2
  exact (List.cons.inj this).1

lemma chain_length_le [Fintype ι] (h : Chain next a l) : l.length ≤ Fintype.card ι :=
  (chain_nodup h).length_le_card

/-! ### Editing a chain -/

/-- A segment carried over by a renaming of the nodes that commutes with the links. -/
lemma seg_map {f : ι → ι} (h : ∀ s ∈ l, next' (f s) = (next s).map f) (hs : Seg next a l b) :
    Seg next' (a.map f) (l.map f) (b.map f) := by
  induction l generalizing a with
  | nil => exact congrArg (Option.map f) hs
  | cons c l ih =>
    obtain ⟨rfl, hs⟩ := hs
    refine ⟨rfl, ?_⟩
    rw [h c (by simp)]
    exact ih (fun s hs => h s (by simp [hs])) hs

lemma chain_remove_after {x : ι} (h : Chain next a (l₁ ++ c :: x :: l₂))
    (hc : next' c = next x) (hn : ∀ s ∈ l₁ ++ l₂, next' s = next s) :
    Chain next' a (l₁ ++ c :: l₂) := by
  obtain ⟨m, h1, rfl, -, h4⟩ := seg_append.mp h
  refine seg_append.mpr ⟨some c, seg_congr (fun s hs => hn s (by simp [hs])) h1, rfl, ?_⟩
  rw [hc]
  exact seg_congr (fun s hs => hn s (by simp [hs])) h4

lemma chain_concat (h₁ : Chain next a (l₁ ++ [c])) (h₂ : Chain next b l₂) (hc : next' c = b)
    (hn₁ : ∀ s ∈ l₁, next' s = next s) (hn₂ : ∀ s ∈ l₂, next' s = next s) :
    Chain next' a ((l₁ ++ [c]) ++ l₂) := by
  obtain ⟨m, h3, rfl, -⟩ := seg_append.mp h₁
  refine seg_append.mpr ⟨b, seg_append.mpr ⟨some c, seg_congr hn₁ h3, rfl, hc⟩, ?_⟩
  exact seg_congr hn₂ h₂

end Segments

/-! ### Loops over a chain -/

section Loops

variable [DecidableEq ι] {ν : Type*}

/-- Rewrite the record of every node on the chain by `f`; the link to follow is read from the record
just written. Returns the table and the last node visited. -/
def mapChain (next : ν → Option ι) (f : ν → ν) :
    ℕ → Option ι → (ι → ν) → Option ι → Option ((ι → ν) × Option ι)
  | _, none, t, last => some (t, last)
  | 0, some _, _, _ => none
  | n + 1, some c, t, _ =>
    mapChain next f n (next (f (t c))) (update t c (f (t c))) (some c)

/-- Look for the node whose link points to `x`: `some none` when the chain ends without one. -/
def findPred (next : ι → Option ι) (x : ι) : ℕ → Option ι → Option (Option ι)
  | _, none => some none
  | 0, some _ => none
  | n + 1, some c => if next c = some x then some (some c) else findPred next x n (next c)

/-- **The rewriting loop** ends and rewrites exactly the nodes of the chain. -/
lemma mapChain_spec {next : ν → Option ι} {f : ν → ν} (hf : ∀ v, next (f v) = next v) :
    ∀ {n : ℕ} {l : List ι} {a : Option ι} {t : ι → ν} (last : Option ι),
      Chain (fun s => next (t s)) a l → l.length ≤ n →
        ∃ t', mapChain next f n a t last = some (t', l.getLast?.or last) ∧
          (∀ s ∈ l, t' s = f (t s)) ∧ ∀ s ∉ l, t' s = t s := by
  intro n l
  induction l generalizing n with
  | nil =>
    intro a t last h _
    have ha : a = none := h
    subst ha
    exact ⟨t, by simp [mapChain]⟩
  | cons c l ih =>
    intro a t last h hn
    obtain ⟨rfl, h⟩ := h
    obtain ⟨n, rfl⟩ : ∃ m, n = m + 1 := ⟨n - 1, by simp at hn; omega⟩
    have hcl : Chain (fun s => next (t s)) (some c) (c :: l) := ⟨rfl, h⟩
    have hnd : c ∉ l := (List.nodup_cons.mp (chain_nodup hcl)).1
    have hne : ∀ s ∈ l, s ≠ c := fun s hs e => hnd (e ▸ hs)
    -- the rest of the chain does not meet `c`, whose record is the only one written so far
    have hrest : Chain (fun s => next (update t c (f (t c)) s)) (next (f (t c))) l := by
      rw [hf]
      refine chain_congr (fun s hs => ?_) h
      rw [update_of_ne (hne s hs)]
    obtain ⟨t', ht, hin, hout⟩ := ih (some c) hrest (by simpa using hn)
    refine ⟨t', ?_, fun s hs => ?_, fun s hs => ?_⟩
    · rw [mapChain, ht]
      cases l with
      | nil => simp
      | cons d l =>
        rw [List.getLast?_cons_cons]
        cases h' : (d :: l).getLast? with
        | none => simp at h'
        | some y => simp
    · rcases List.mem_cons.mp hs with rfl | hs
      · rw [hout s hnd, update_self]
      · rw [hin s hs, update_of_ne (hne s hs)]
    have hsc : s ≠ c := fun e => hs (by simp [e])
    rw [hout s (fun h => hs (by simp [h])), update_of_ne hsc]

/-- **The search loop** finds the node before `x` when `x` is on the chain behind its head. -/
lemma findPred_eq {next : ι → Option ι} {x c : ι} :
    ∀ {n : ℕ} {l₁ l₂ : List ι} {a : Option ι}, Chain next a (l₁ ++ c :: x :: l₂) →
      (l₁ ++ c :: x :: l₂).length ≤ n → findPred next x n a = some (some c) := by
  intro n l₁
  induction l₁ generalizing n with
  | nil =>
    intro l₂ a h hn
    obtain ⟨rfl, h2, -⟩ := h
    obtain ⟨n, rfl⟩ : ∃ m, n = m + 1 := ⟨n - 1, by simp at hn; omega⟩
    rw [findPred, if_pos h2]
  | cons d l₁ ih =>
    intro l₂ a h hn
    have hnd := chain_nodup h
    obtain ⟨rfl, h⟩ := h
    obtain ⟨n, rfl⟩ : ∃ m, n = m + 1 := ⟨n - 1, by simp at hn; omega⟩
    have hne : next d ≠ some x := by
      intro e
      -- the link of `d` leads to the head of the rest, and `x` is not that head
      cases l₁ with
      | nil =>
        have h1 : next d = some c := h.1
        have : c = x := by rw [h1] at e; exact Option.some.inj e
        subst this
        simp at hnd
      | cons y l₁ =>
        have h1 : next d = some y := h.1
        have : y = x := by rw [h1] at e; exact Option.some.inj e
        subst this
        simp at hnd
    rw [findPred, if_neg hne]
    exact ih h (by simp at hn ⊢; omega)

end Loops

end ProjectZero.Lib.Linked
