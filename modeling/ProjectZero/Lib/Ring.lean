import ProjectZero.Lib.Update

/-! # Ring buffers

The window of a ring buffer: the cells from `head` on, `count` of them, in the order in which they
were written. A write behind the window extends it, a move of `head` takes its first cell away. -/

namespace ProjectZero.Lib.Ring

variable {α : Type} {n : ℕ} [NeZero n] (buffer : Fin n → α) (head : Fin n)

/-- The `count` cells from `head` on. -/
def window (count : ℕ) : List α :=
  (List.range count).map fun j => buffer (head + Fin.ofNat n j)

@[simp] lemma length_window (count : ℕ) :
    (window buffer head count).length = count := by simp [window]

lemma add_ofNat_succ (j : ℕ) : head + Fin.ofNat n (j + 1) = head + 1 + Fin.ofNat n j := by
  apply Fin.ext
  simp only [Fin.val_add, Fin.val_ofNat, Fin.val_one']
  simp only [Nat.add_mod_mod, Nat.mod_add_mod]
  rw [show (head : ℕ) + (j + 1) = head + 1 + j by omega]

lemma add_ofNat_inj {head : Fin n} {i j : ℕ} (hi : i < n) (hj : j < n)
    (h : head + Fin.ofNat n i = head + Fin.ofNat n j) : i = j := by
  have hij := congrArg Fin.val (add_left_cancel h)
  simpa only [Fin.val_ofNat, Nat.mod_eq_of_lt hi, Nat.mod_eq_of_lt hj] using hij

/-- **A write behind the window** extends it, as long as there is room. -/
lemma window_push {count : ℕ} (hc : count < n) (a : α) :
    window (update buffer (head + Fin.ofNat n count) a) head (count + 1) =
      window buffer head count ++ [a] := by
  unfold window
  rw [List.range_succ, List.map_append]
  congr 1
  · refine List.map_congr_left fun j hj => update_of_ne (fun h => ?_) _ _
    have hlt := List.mem_range.mp hj
    have := add_ofNat_inj (hlt.trans hc) hc h
    omega
  · simp

lemma window_pop (count : ℕ) :
    window buffer head (count + 1) = buffer head :: window buffer (head + 1) count := by
  unfold window
  rw [List.range_succ_eq_map, List.map_cons, List.map_map]
  congr 1
  · simp
  · exact List.map_congr_left fun j _ => congrArg buffer (add_ofNat_succ head j)

end ProjectZero.Lib.Ring
