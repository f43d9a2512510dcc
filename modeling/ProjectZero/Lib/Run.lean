import Mathlib

/-! # Runs of a system

A step that may stop the system is a value of `Except`. `Holds E Q x` is the postcondition of such a
step: it stops for a reason in `E`, or it ends with a result in `Q`; the rules for sequence and loop
are the usual ones. The states a system can be in are those it reaches by its steps, and what every
step keeps holds in all of them. -/

namespace ProjectZero.Lib.Run

variable {ε α β σ : Type}

/-! ### Computations that may stop -/

variable {x : Except ε α}

@[simp] lemma ok_bind (a : α) (f : α → Except ε β) : (Except.ok a >>= f) = f a := rfl

@[simp] lemma error_bind (e : ε) (f : α → Except ε β) :
    (Except.error e >>= f) = Except.error e := rfl

lemma bind_eq_ok {f : α → Except ε β} {b : β} (h : x >>= f = .ok b) :
    ∃ a, x = .ok a ∧ f a = .ok b := by
  cases x with
  | error e => cases h
  | ok a => exact ⟨a, rfl, h⟩

/-- The computation stops for a reason in `E` or ends with a result in `Q`. -/
def Holds (E : ε → Prop) (Q : α → Prop) : Except ε α → Prop
  | .error e => E e
  | .ok a => Q a

variable {E : ε → Prop} {P Q : α → Prop}

@[simp] lemma holds_ok {a : α} : Holds E Q (.ok a) ↔ Q a := Iff.rfl

lemma Holds.of_ok {a : α} (h : Holds E Q x) (hx : x = .ok a) : Q a := by
  rw [hx] at h
  exact h

lemma Holds.of_error {e : ε} (h : Holds E Q x) (hx : x = .error e) : E e := by
  rw [hx] at h
  exact h

lemma Holds.mono (h : Holds E P x) (hPQ : ∀ a, P a → Q a) : Holds E Q x := by
  cases x with
  | error e => exact h
  | ok a => exact hPQ a h

lemma Holds.and {E' : ε → Prop} (h : Holds E P x) (h' : Holds E' Q x) :
    Holds E (fun a => P a ∧ Q a) x := by
  cases x with
  | error e => exact h
  | ok a => exact ⟨h, h'⟩

/-- A result, if there is one, is in `Q`. -/
abbrev Ensures (Q : α → Prop) : Except ε α → Prop := Holds (fun _ => True) Q

lemma Holds.ensures (h : Holds E Q x) : Ensures Q x := by
  cases x with
  | error e => trivial
  | ok a => exact h

lemma ensures_true (x : Except ε α) : Ensures (fun _ => True) x := by
  cases x <;> trivial

lemma Holds.both (h : Ensures P x) (h' : Ensures Q x) : Ensures (fun a => P a ∧ Q a) x := h.and h'

/-- The state left with the result, if there is one, is in `P`. -/
abbrev Leaves (P : σ → Prop) : Except ε (α × σ) → Prop := Ensures fun r => P r.2

/-- The computation ends, with a result in `Q`. -/
abbrev Completes (Q : α → Prop) : Except ε α → Prop := Holds (fun _ => False) Q

lemma Holds.exists_ok (h : Completes Q x) : ∃ a, x = .ok a ∧ Q a := by
  cases x with
  | error e => exact h.elim
  | ok a => exact ⟨a, rfl, h⟩

/-- **The sequence rule.** -/
lemma Holds.bind {f : α → Except ε β} {R : β → Prop} (h : Holds E P x)
    (hf : ∀ a, P a → Holds E R (f a)) : Holds E R (x >>= f) := by
  cases x with
  | error e => exact h
  | ok a => exact hf a h

lemma Holds.map {f : α → β} {R : β → Prop} (h : Holds E P x)
    (hf : ∀ a, P a → R (f a)) : Holds E R (x.map f) := by
  cases x with
  | error e => exact h
  | ok a => exact hf a h

/-- **The loop rule.** What the body of a loop keeps the loop keeps. -/
lemma holds_foldlM {I : σ → Prop} {f : σ → α → Except ε σ} (hf : ∀ s a, I s → Holds E I (f s a)) :
    ∀ (l : List α) {s : σ}, I s → Holds E I (l.foldlM f s)
  | [], _, hs => hs
  | a :: l, s, hs => by
    rw [List.foldlM_cons]
    exact (hf s a hs).bind fun _ ht => holds_foldlM hf l ht

lemma exists_ok [DecidablePred Q]
    (h : x.toOption.any (fun a => decide (Q a))) : ∃ a, x = .ok a ∧ Q a := by
  cases x with
  | error e => simp [Except.toOption] at h
  | ok a => exact ⟨a, rfl, by simpa [Except.toOption] using h⟩

lemma exists_ok₂ {f : α → Except ε β} {R : α → β → Prop} [∀ a, DecidablePred (R a)]
    (h : x.toOption.any fun a => (f a).toOption.any fun b => decide (R a b)) :
    ∃ a b, x = .ok a ∧ f a = .ok b ∧ R a b := by
  cases x with
  | error e => simp [Except.toOption] at h
  | ok a =>
    obtain ⟨b, hb⟩ := exists_ok (show (f a).toOption.any _ from h)
    exact ⟨a, b, rfl, hb⟩

/-! ### Reachable states -/

/-- The states reached from `init` by `step`. -/
inductive Reach (init : σ → Prop) (step : σ → σ → Prop) : σ → Prop
  | start {s : σ} : init s → Reach init step s
  | next {s s' : σ} : Reach init step s → step s s' → Reach init step s'

/-- **The invariant rule.** -/
lemma Reach.invariant {init : σ → Prop} {step : σ → σ → Prop} {I : σ → Prop}
    (h0 : ∀ s, init s → I s) (hs : ∀ s s', I s → step s s' → I s') {s : σ}
    (h : Reach init step s) : I s := by
  induction h with
  | start h => exact h0 _ h
  | next _ h ih => exact hs _ _ ih h

lemma Reach.foldlM {init : σ → Prop} {step : σ → σ → Prop} {f : σ → α → Except ε σ}
    (hf : ∀ s a s', f s a = .ok s' → step s s') :
    ∀ {l : List α} {s s' : σ}, Reach init step s → l.foldlM f s = .ok s' → Reach init step s'
  | [], s, s', hs, h => by
    rw [List.foldlM_nil] at h
    cases h
    exact hs
  | a :: l, s, s', hs, h => by
    rw [List.foldlM_cons] at h
    obtain ⟨t, ha, h⟩ := bind_eq_ok h
    exact .foldlM hf (hs.next (hf s a t ha)) h

end ProjectZero.Lib.Run
