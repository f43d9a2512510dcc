import Mathlib

/-! # A function that is changed at one argument -/

namespace ProjectZero

export Function (update update_self update_of_ne eq_update_self_iff forall_update_iff update_apply
  update_comm update_eq_self update_idem)

namespace Lib.Update

variable {α β γ : Type*} [DecidableEq α] {g : α → β} {k : α → γ} {a : α} {v : β} {w : γ}

lemma update_keep (f : β → γ) (h : f v = f (g a)) (b : α) : f (update g a v b) = f (g b) := by
  by_cases hb : b = a
  · subst hb
    rw [update_self, h]
  · rw [update_of_ne hb]

lemma update_all {P : α → β → Prop} (ha : P a v) (h : ∀ b ≠ a, P b (g b)) (b : α) :
    P b (update g a v b) :=
  (forall_update_iff g P).mpr ⟨ha, h⟩ b

lemma update_all₂ {P : α → β → γ → Prop} (ha : P a v w) (h : ∀ b ≠ a, P b (g b) (k b))
    (b : α) : P b (update g a v b) (update k a w b) := by
  by_cases hb : b = a
  · subst hb
    rw [update_self, update_self]
    exact ha
  rw [update_of_ne hb, update_of_ne hb]
  exact h b hb

end Lib.Update

end ProjectZero
