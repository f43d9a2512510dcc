import Mathlib

/-! # Resources and their holders

Holders keep resources in numbered places, and a ledger says which resources are taken. In a sound
ledger every held resource is taken and is held in one place only; nothing is lost if every taken
resource is held. One rule covers what an allocator does: a holder changes its places, keeping what it
had there or putting in resources that were not taken. -/

namespace ProjectZero.Lib.Holding

variable {H P R : Type} {ref ref' : H → P → Option R} {taken taken' : R → Prop}

/-- Every held resource is taken, and is held in one place only. -/
structure Held (ref : H → P → Option R) (taken : R → Prop) : Prop where
  taken : ∀ {h p r}, ref h p = some r → taken r
  unshared : ∀ {h p h' p' r}, ref h p = some r → ref h' p' = some r → h = h' ∧ p = p'

/-- **A holder changes its places.** What it has afterwards it had in the same place, or it was not
taken; the resources of the other holders stay taken. -/
lemma Held.assign (hr : Held ref taken) (n : H) (hothers : ∀ m p, m ≠ n → ref' m p = ref m p)
    (hkeep : ∀ m p r, m ≠ n → ref m p = some r → taken' r)
    (hmine : ∀ p r, ref' n p = some r → taken' r ∧ (ref n p = some r ∨ ¬taken r))
    (hnew : ∀ p q r, ref' n p = some r → ref' n q = some r → ¬taken r → p = q) :
    Held ref' taken' := by
  -- a place of `n` and a place of another holder never have a resource in common
  have hapart : ∀ {m p q r}, m ≠ n → ref' m p = some r → ref' n q ≠ some r := by
    intro m p q r hm hp hq
    rw [hothers m p hm] at hp
    rcases (hmine q r hq).2 with hold | hfree
    · exact hm (hr.unshared hp hold).1
    · exact hfree (hr.taken hp)
  constructor
  · intro m p r hp
    by_cases hm : m = n
    · subst hm
      exact (hmine p r hp).1
    rw [hothers m p hm] at hp
    exact hkeep m p r hm hp
  intro m p m' p' r hp hp'
  by_cases hm : m = n
  · by_cases hm' : m' = n
    · subst hm hm'
      refine ⟨rfl, ?_⟩
      rcases (hmine p r hp).2 with hold | hfree
      · rcases (hmine p' r hp').2 with hold' | hfree'
        · exact (hr.unshared hold hold').2
        · exact absurd (hr.taken hold) hfree'
      · exact hnew p p' r hp hp' hfree
    subst hm
    exact absurd hp (hapart hm' hp')
  by_cases hm' : m' = n
  · subst hm'
    exact absurd hp' (hapart hm hp)
  rw [hothers m p hm] at hp
  rw [hothers m' p' hm'] at hp'
  exact hr.unshared hp hp'

lemma Held.congr (hr : Held ref taken) (href : ∀ m p, ref' m p = ref m p)
    (hkeep : ∀ m p r, ref m p = some r → taken' r) : Held ref' taken' where
  taken hp := hkeep _ _ _ (by rwa [href] at hp)
  unshared hp hp' := hr.unshared (by rwa [href] at hp) (by rwa [href] at hp')

/-- Every taken resource of the region is held by a live holder. -/
def Used (ref : H → P → Option R) (live : H → Prop) (region taken : R → Prop) : Prop :=
  ∀ r, region r → taken r → ∃ h p, live h ∧ ref h p = some r

/-- **Nothing is lost** if what one holder gives up is no longer taken, what is newly taken it holds,
and every other holder stays live. -/
lemma Used.assign {live live' : H → Prop} {region : R → Prop} (hu : Used ref live region taken)
    (n : H) (hothers : ∀ m p, m ≠ n → ref' m p = ref m p) (hlive : ∀ m ≠ n, live m → live' m)
    (hmine : ∀ p r, region r → live n → ref n p = some r → taken' r →
      live' n ∧ ∃ q, ref' n q = some r)
    (hnew : ∀ r, region r → taken' r → ¬taken r → live' n ∧ ∃ q, ref' n q = some r) :
    Used ref' live' region taken' := by
  intro r hreg ht
  by_cases hold : taken r
  · obtain ⟨m, p, hm, hp⟩ := hu r hreg hold
    by_cases hmn : m = n
    · subst hmn
      obtain ⟨hl, q, hq⟩ := hmine p r hreg hm hp ht
      exact ⟨m, q, hl, hq⟩
    · exact ⟨m, p, hlive m hmn hm, by rw [hothers m p hmn, hp]⟩
  obtain ⟨hl, q, hq⟩ := hnew r hreg ht hold
  exact ⟨n, q, hl, hq⟩

lemma Used.congr {live live' : H → Prop} {region : R → Prop} (hu : Used ref live region taken)
    (href : ∀ m p, ref' m p = ref m p) (hlive : ∀ m, live m → live' m)
    (htaken : ∀ r, region r → taken' r → taken r) : Used ref' live' region taken' := by
  intro r hreg ht
  obtain ⟨m, p, hm, hp⟩ := hu r hreg (htaken r hreg ht)
  exact ⟨m, p, hlive m hm, by rw [href, hp]⟩

end ProjectZero.Lib.Holding
