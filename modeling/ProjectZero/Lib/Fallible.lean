import Mathlib

/-! # Computations that may fail or go wrong

A computation returns a value, reports an error of its own, or goes wrong: an addition overflows, an
access lies outside its buffer. `Safe x Q` says that `x` does not go wrong, and that what it returns,
if it returns, satisfies `Q`. -/

namespace ProjectZero.Lib.Fallible

/-- Computations with errors `ε` that may go wrong with a fault `φ`. -/
abbrev Comp (φ ε : Type) := ExceptT ε (Except φ)

variable {φ ε α β : Type} {Q : α → Prop} {R : β → Prop}

/-- The computation goes wrong. -/
def fault (f : φ) : Comp φ ε α := ExceptT.mk (.error f)

/-- An error unless the condition fails. -/
def rejectIf (c : Prop) [Decidable c] (e : ε) : Comp φ ε Unit :=
  if c then throw e else pure ()

/-- A fault unless the condition holds. -/
def demand (c : Prop) [Decidable c] (f : φ) : Comp φ ε Unit :=
  if c then pure () else fault f

/-- The sum in words of `w` bits, and what to do when it does not fit. -/
def addWord (w : ℕ) (overflow : Comp φ ε ℕ) (a b : ℕ) : Comp φ ε ℕ :=
  if a + b < 2 ^ w then pure (a + b) else overflow

/-! ### Safety -/

/-- `x` does not go wrong, and what it returns satisfies `Q`. -/
def Safe (x : Comp φ ε α) (Q : α → Prop) : Prop :=
  ∃ r, x.run = .ok r ∧ ∀ a, r = .ok a → Q a

lemma safe_pure {a : α} (h : Q a) : Safe (pure a : Comp φ ε α) Q :=
  ⟨.ok a, rfl, fun b hb => by cases hb; exact h⟩

lemma safe_throw (e : ε) : Safe (throw e : Comp φ ε α) Q :=
  ⟨.error e, rfl, fun b hb => by cases hb⟩

variable {x : Comp φ ε α}

/-- **Sequence**: the rest is safe from every value the first part returns. -/
lemma safe_bind {f : α → Comp φ ε β} (hx : Safe x Q)
    (hf : ∀ a, Q a → Safe (f a) R) : Safe (x >>= f) R := by
  obtain ⟨r, hr, hQ⟩ := hx
  have hrun : (x >>= f).run = x.run >>= fun r => ExceptT.bindCont f r := rfl
  rw [hr] at hrun
  cases r with
  | error e => exact ⟨.error e, hrun, fun b hb => by cases hb⟩
  | ok a =>
    obtain ⟨r', hr', hR⟩ := hf a (hQ a rfl)
    exact ⟨r', hrun.trans hr', hR⟩

lemma Safe.mono {Q' : α → Prop} (hx : Safe x Q) (h : ∀ a, Q a → Q' a) : Safe x Q' := by
  obtain ⟨r, hr, hQ⟩ := hx
  exact ⟨r, hr, fun a ha => h a (hQ a ha)⟩

lemma safe_ite {c : Prop} [Decidable c] {y : Comp φ ε α} (hx : c → Safe x Q)
    (hy : ¬c → Safe y Q) : Safe (if c then x else y) Q := by
  by_cases h : c
  · rw [if_pos h]; exact hx h
  · rw [if_neg h]; exact hy h

lemma safe_rejectIf {c : Prop} [Decidable c] {e : ε} :
    Safe (rejectIf c e : Comp φ ε Unit) fun _ => ¬c :=
  safe_ite (fun _ => safe_throw e) fun h => safe_pure h

lemma safe_demand {c : Prop} [Decidable c] {f : φ} (h : c) :
    Safe (demand c f : Comp φ ε Unit) fun _ => c := by
  rw [demand, if_pos h]
  exact safe_pure h

lemma safe_addWord {w a b : ℕ} {overflow : Comp φ ε ℕ}
    (h : 2 ^ w ≤ a + b → Safe overflow fun c => c = a + b ∧ c < 2 ^ w) :
    Safe (addWord w overflow a b) fun c => c = a + b ∧ c < 2 ^ w :=
  safe_ite (fun hlt => safe_pure ⟨rfl, hlt⟩) fun hlt => h (Nat.le_of_not_lt hlt)

/-! ### Results -/

/-- What `x` returns, if it returns, satisfies `Q`. -/
def Yields (x : Comp φ ε α) (Q : α → Prop) : Prop := ∀ a, x.run = .ok (.ok a) → Q a

lemma yields_pure {a : α} (h : Q a) : Yields (pure a : Comp φ ε α) Q :=
  fun b hb => by cases hb; exact h

lemma yields_throw (e : ε) : Yields (throw e : Comp φ ε α) Q := fun b hb => by cases hb

lemma yields_fault (f : φ) : Yields (fault f : Comp φ ε α) Q := fun b hb => by cases hb

lemma yields_bind {f : α → Comp φ ε β} (hx : Yields x Q)
    (hf : ∀ a, Q a → Yields (f a) R) : Yields (x >>= f) R := by
  intro b hb
  have hrun : (x >>= f).run = x.run >>= fun r => ExceptT.bindCont f r := rfl
  rw [hrun] at hb
  match hx' : x.run, hb with
  | .error _, hb => cases hb
  | .ok (.error _), hb => cases hb
  | .ok (.ok a), hb => exact hf a (hx a hx') b hb

lemma yields_ite {c : Prop} [Decidable c] {y : Comp φ ε α} (hx : c → Yields x Q)
    (hy : ¬c → Yields y Q) : Yields (if c then x else y) Q := by
  by_cases h : c
  · rw [if_pos h]; exact hx h
  · rw [if_neg h]; exact hy h

lemma yields_rejectIf {c : Prop} [Decidable c] {e : ε} :
    Yields (rejectIf c e : Comp φ ε Unit) fun _ => ¬c :=
  yields_ite (fun _ => yields_throw e) fun h => yields_pure h

lemma yields_demand {c : Prop} [Decidable c] {f : φ} :
    Yields (demand c f : Comp φ ε Unit) fun _ => c :=
  yields_ite (fun h => yields_pure h) fun _ => yields_fault f

lemma yields_addWord {w a b : ℕ} {f : φ} :
    Yields (addWord w (fault f) a b : Comp φ ε ℕ) fun c => c = a + b :=
  yields_ite (fun _ => yields_pure rfl) fun _ => yields_fault f

/-- The computation returns, with a result that passes the test. -/
def passes (x : Comp φ ε α) (test : α → Bool) : Bool :=
  match x.run with
  | .ok (.ok a) => test a
  | _ => false

lemma exists_of_passes {test : α → Bool} (h : passes x test) :
    ∃ a, x.run = .ok (.ok a) ∧ test a := by
  unfold passes at h
  split at h
  · exact ⟨_, ‹_›, h⟩
  · cases h

end ProjectZero.Lib.Fallible
