import Mathlib

/-! # Layouts of records in bytes

An encoding in `n` bytes is a correspondence between the byte strings of that length and the values
they stand for: numbers in little-endian order, pairs one after the other, arrays. A record of which
every byte belongs to a field is read and written through its encoding without loss, and the length
of an encoding is checked by its type. -/

namespace ProjectZero.Lib.Layout

abbrev Byte := BitVec 8

/-- An encoding of values of `α` in `n` bytes. -/
abbrev Encoding (n : ℕ) (α : Type) := (Fin n → Byte) ≃ α

variable {α β : Type} {m n : ℕ}

/-! ### Numbers -/

/-- Two words, the low one first. -/
def join (a b : ℕ) : BitVec a × BitVec b ≃ BitVec (b + a) where
  toFun w := w.2 ++ w.1
  invFun w := (w.extractLsb' 0 a, w.extractLsb' a b)
  left_inv _ := Prod.ext BitVec.extractLsb'_append_eq_right BitVec.extractLsb'_append_eq_left
  right_inv _ := BitVec.extractLsb'_append_extractLsb'

/-- One value after the other. -/
def pair (l : Encoding m α) (l' : Encoding n β) : Encoding (m + n) (α × β) :=
  (Fin.appendEquiv m n).symm.trans (l.prodCongr l')

def u8 : Encoding 1 Byte := Equiv.funUnique (Fin 1) Byte

def u16 : Encoding 2 (BitVec 16) := (pair u8 u8).trans (join 8 8)

def u32 : Encoding 4 (BitVec 32) := (pair u16 u16).trans (join 16 16)

def u64 : Encoding 8 (BitVec 64) := (pair u32 u32).trans (join 32 32)

/-! ### Arrays -/

/-- Bytes as they are. -/
def bytes (n : ℕ) : Encoding n (Fin n → Byte) := Equiv.refl _

/-- `k` values of the same encoding. -/
def array (k : ℕ) (l : Encoding n α) : Encoding (k * n) (Fin k → α) :=
  (finProdFinEquiv.arrowCongr (Equiv.refl Byte)).symm.trans
    ((Equiv.curry (Fin k) (Fin n) Byte).trans (Equiv.piCongrRight fun _ => l))

/-- The bits of a byte, the lowest first. -/
def bits : Byte ≃ (Fin 8 → Bool) where
  toFun b i := b.getLsbD i
  invFun f := (BitVec.iunfoldr (fun i (_ : Unit) => ((), f i)) ()).2
  left_inv b := by
    refine BitVec.eq_of_getLsbD_eq fun i hi => ?_
    exact BitVec.iunfoldr_getLsbD (fun _ => ()) ⟨i, hi⟩ fun _ => rfl
  right_inv f := by
    funext i
    exact BitVec.iunfoldr_getLsbD (fun _ => ()) i fun _ => rfl

/-- A bitmap: bit `i % 8` of byte `i / 8` is the entry `i`. -/
def bitmap (n : ℕ) : Encoding n (Fin (n * 8) → Bool) :=
  (Equiv.piCongrRight fun _ => bits).trans
    ((Equiv.curry (Fin n) (Fin 8) Bool).symm.trans (finProdFinEquiv.arrowCongr (Equiv.refl Bool)))

/-! ### Zero bytes -/

@[simp] lemma pair_zero (l : Encoding m α) (l' : Encoding n β) :
    pair l l' (fun _ => 0) = (l fun _ => 0, l' fun _ => 0) := rfl

@[simp] lemma array_zero (k : ℕ) (l : Encoding n α) :
    array k l (fun _ => 0) = fun _ => l fun _ => 0 := rfl

@[simp] lemma u32_zero : u32 (fun _ => 0) = 0 := by decide

end ProjectZero.Lib.Layout
