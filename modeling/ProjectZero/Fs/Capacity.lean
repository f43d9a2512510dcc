import ProjectZero.Fs.Runs

/-! # The size of a volume

`alloc_block` searches the bitmap of the largest volume. On a smaller one it hands out blocks past the
end as soon as every block of the volume is taken (`alloc_past_end`). -/

namespace ProjectZero.Fs.Capacity

open Lib.Run Fs.Types Store Inode Calls Buf Transparent Inspect Durable Runs

variable {d : DeviceId} {total : BitVec 64} {m : System Disks}

/-- The system after a volume of this size was formatted. -/
def Formats (d : DeviceId) (total : BitVec 64) (m : System Disks) : Prop :=
  ∃ m₀ label, Coherent m₀ ∧
    exec (machine disks) (formatVolume d total label) m₀ = (some (.ok ()), m)

/-- A block is allocated or freed. -/
def Turn (d : DeviceId) (m m' : System Disks) : Prop :=
  (∃ r, exec (machine disks) (allocBlock d) m = (some r, m')) ∨
    ∃ lba r, exec (machine disks) (freeBlock d lba) m = (some r, m')

abbrev Used (d : DeviceId) (total : BitVec 64) : System Disks → Prop :=
  Reach (Formats d total) (Turn d)

/-- A data block of the volume that is free. -/
def FreeIn (total : BitVec 64) (s : Volume) (d : DeviceId) (l : ℕ) : Prop :=
  dataBlockStart ≤ l ∧ l < total.toNat ∧ blockBits s d (bitIdx l) = false

/-- What an allocation may return on a volume of this size. -/
def Respects (total : BitVec 64) (s : Volume) (d : DeviceId) :
    Option (Except FsError (BitVec 32)) → Prop
  | some (.ok l) => FreeIn total s d l.toNat
  | some (.error e) => e = .noSpace ∧ ∀ l, ¬FreeIn total s d l
  | none => False

lemma Used.bounds (h : Used d total m) : 64 ≤ total.toNat ∧ total.toNat ≤ maxVolumeBlocks := by
  induction h with
  | next _ _ ih => exact ih
  | start h =>
    obtain ⟨m₀, label, -, hrun⟩ := h
    by_cases hsize : total.toNat > maxVolumeBlocks ∨ total.toNat < 64
    · rw [formatVolume, if_pos hsize] at hrun
      cases hrun
    · omega

lemma Used.coherent (h : Used d total m) : Coherent m := by
  refine Reach.invariant ?_ ?_ h
  · rintro m ⟨m₀, label, hm0, hrun⟩
    exact coherent_of_exec hm0 hrun
  rintro m m' hm (⟨r, hrun⟩ | ⟨lba, r, hrun⟩)
  · exact coherent_of_exec hm hrun
  · exact coherent_of_exec hm hrun

/-- **An allocation respects the size** of the volume exactly if a block of the volume is free, or no
block past its end is. -/
theorem alloc_respects_iff (h : Used d total m) :
    Respects total (shown m) d (exec (machine disks) (allocBlock d) m).1 ↔
      (∃ l, FreeIn total (shown m) d l) ∨
        ∀ l, total.toNat ≤ l → l < maxVolumeBlocks → blockBits (shown m) d (bitIdx l) = true := by
  obtain ⟨vol, hv⟩ := h.coherent
  have hb := h.bounds
  rw [(exec_machine (allocBlock d) hv).1, shown_eq hv]
  simp only [FreeIn, dataBlockStart, maxVolumeBlocks] at hb ⊢
  cases hk : freeLba vol d with
  | none =>
    have htaken : ∀ l, 22 ≤ l → l < 32768 → blockBits vol d (bitIdx l) = true := by
      simpa [freeLba, dataBlockStart, maxVolumeBlocks] using hk
    rw [exec_allocBlock_none hk]
    refine iff_of_true ⟨rfl, fun l hl => ?_⟩ (.inr fun l hl hlt => htaken l (by omega) hlt)
    have := htaken l hl.1 (by have := hl.2.1; omega)
    exact absurd (this.symm.trans hl.2.2) (by decide)
  | some k =>
    obtain ⟨h22, hlt, hfree⟩ := freeLba_eq_some hk
    obtain ⟨-, -, hfirst⟩ := List.find?_range'_eq_some.mp hk
    have hk32 : (BitVec.ofNat 32 k).toNat = k := by
      rw [BitVec.toNat_ofNat]
      omega
    rw [exec_allocBlock_some hk]
    simp only [Respects, FreeIn, hk32]
    refine ⟨fun hin => .inl ⟨k, hin⟩, ?_⟩
    rintro (⟨l, hl, hlt', hbit⟩ | hfull)
    · -- the first free block is not after `l`
      have hkl : k ≤ l := by
        by_contra hlk
        have := hfirst l hl (by omega)
        simp [hbit] at this
      exact ⟨h22, by omega, hfree⟩
    refine ⟨h22, ?_, hfree⟩
    by_contra hge
    have := hfull k (by omega) hlt
    rw [hfree] at this
    cases this

lemma exists_used (k : ℕ) (hk : k ≤ 42) : ∃ m vol, Used .mem 64 m ∧ SystemShows m vol ∧
    blockBits vol .mem = fun i => decide (i.val < dataBlockStart + k) := by
  induction k with
  | zero =>
    obtain ⟨m, hm, hv⟩ := machine_of_volume blankSystem_shows
      (exec_formatVolume (d := .mem) (by decide : ¬((64 : BitVec 64).toNat > _ ∨ _)))
    exact ⟨m, _, .start ⟨_, [], ⟨_, blankSystem_shows⟩, hm⟩, hv, (built_formatted samePtrs_root).bits⟩
  | succ k ih =>
    obtain ⟨m, vol, hm, hv, hbits⟩ := ih (by omega)
    have hidx : ∀ l < 32768, (bitIdx l).val = l := fun l hl => Nat.mod_eq_of_lt hl
    have hfree : freeLba vol .mem = some (22 + k) := by
      rw [freeLba, List.find?_range'_eq_some, hbits]
      simp only [dataBlockStart, maxVolumeBlocks, List.mem_range'_1]
      refine ⟨?_, by omega, fun l hl hlt => ?_⟩
      · simp [hidx (22 + k) (by omega)]
      · simp [hidx l (by omega), hlt]
    obtain ⟨m', hm', hv'⟩ := machine_of_volume hv (exec_allocBlock_some hfree)
    refine ⟨m', _, hm.next (.inl ⟨_, hm'⟩), hv', ?_⟩
    rw [takeBlock, blockBits_put_of_ne (by simp [blockBitmapBlock]; omega), blockBits_setBlockBits,
      hbits]
    funext i
    by_cases hi : i = bitIdx (22 + k)
    · subst hi
      simp [hidx (22 + k) (by omega), dataBlockStart]
    have hne : i.val ≠ 22 + k := fun h => hi (Fin.ext (h.trans (hidx _ (by omega)).symm))
    rw [update_of_ne hi, decide_eq_decide, dataBlockStart]
    omega

theorem respects_after_format :
    ∃ m, Used .mem 64 m ∧ Respects 64 (shown m) .mem (exec (machine disks) (allocBlock .mem) m).1 := by
  obtain ⟨m, vol, hm, hv, hbits⟩ := exists_used 0 (by omega)
  refine ⟨m, hm, (alloc_respects_iff hm).mpr (.inl ⟨22, le_rfl, by decide, ?_⟩)⟩
  rw [shown_eq hv, hbits]
  decide

/-- **A block past the end is handed out** when the 42 data blocks of a volume of 64 blocks are
taken. -/
theorem alloc_past_end :
    ∃ m, Used .mem 64 m ∧ ¬Respects 64 (shown m) .mem (exec (machine disks) (allocBlock .mem) m).1 := by
  obtain ⟨m, vol, hm, hv, hbits⟩ := exists_used 42 le_rfl
  have hfree : freeLba vol .mem = some 64 := by
    rw [freeLba, List.find?_range'_eq_some, hbits]
    refine ⟨by decide, by decide, fun l hl hlt => ?_⟩
    simp [bitIdx, Nat.mod_eq_of_lt (show l < 32768 by omega), dataBlockStart, hlt]
  refine ⟨m, hm, fun hr => ?_⟩
  rw [(exec_machine (allocBlock .mem) hv).1, exec_allocBlock_some hfree] at hr
  exact absurd hr.2.1 (by decide)

end ProjectZero.Fs.Capacity
