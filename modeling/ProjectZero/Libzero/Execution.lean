import ProjectZero.Libzero.Resource

/-! # Identifiers of executions

`derive_deterministic_execution_id` hashes the workload and the number of the attempt byte by byte.
The multiplier is `2 ^ 40 + 435`. Two hashes of one workload differ by a number with four small
digits to that base, and such a number is no multiple of `2 ^ 64` unless all its digits are zero. -/

namespace ProjectZero.Libzero.Execution

open Resource

/-- `to_le_bytes` of a word of so many bytes. -/
def toLeBytes (len n : ℕ) : List ℕ := (List.range len).map fun i => n / 256 ^ i % 256

def absorb (hash : BitVec 64) (b : ℕ) : BitVec 64 := hash * 0x100000001b3#64 ^^^ BitVec.ofNat 64 b

/-- The bytes of the name space of executions. -/
def ns : List ℕ :=
  [0x5A, 0x30, 0x45, 0x58, 0x45, 0x43, 0x5F, 0x4E, 0x53, 0x5F, 0x30, 0x31, 0x76, 0x31, 0x30, 0x31]

def deriveDeterministicExecutionId (workloadId : DistributedId) (attemptNumber : BitVec 32) :
    DistributedId :=
  let node := toLeBytes 8 workloadId.nodeId
  let attempt := toLeBytes 4 attemptNumber.toNat
  let hash := ns.foldl absorb 0xcbf29ce484222325#64
  let hash := (node ++ toLeBytes 8 workloadId.localSeq).foldl absorb hash
  let hash := attempt.foldl absorb hash
  let seqHash := (attempt ++ node).foldl absorb 0x84222325cbf29ce4#64
  ⟨hash.toNat, (seqHash &&& 0xFFFFFFFFFFFF0FFF#64 ||| 0x0000000000005000#64).toNat⟩

/-! ### Digits -/

lemma absorb_div (hash : BitVec 64) {b : ℕ} (hb : b < 256) :
    (absorb hash b).toNat / 256 = hash.toNat * 1099511628211 % 2 ^ 64 / 256 := by
  have hzero : b % 2 ^ 64 / 2 ^ 8 = 0 := by omega
  rw [absorb, BitVec.toNat_xor, BitVec.toNat_ofNat, BitVec.toNat_mul]
  exact (Nat.xor_div_two_pow (n := 8)).trans (by rw [hzero, Nat.xor_zero]; rfl)

lemma absorb_inj {hash : BitVec 64} {b c : ℕ} (hb : b < 256) (hc : c < 256)
    (h : absorb hash b = absorb hash c) : b = c := by
  have heq := congrArg (fun x => (hash * 0x100000001b3#64 ^^^ x).toNat) h
  simp only [absorb, ← BitVec.xor_assoc, BitVec.xor_self, BitVec.zero_xor,
    BitVec.toNat_ofNat] at heq
  omega

/-- The difference of two hashes is multiplied, and gets a digit. -/
lemma exists_digit (h h' : BitVec 64) {b c : ℕ} (hb : b < 256) (hc : c < 256) :
    ∃ d q : ℤ, ((absorb h b).toNat : ℤ) - (absorb h' c).toNat =
        1099511628211 * (h.toNat - h'.toNat) + d + 18446744073709551616 * q ∧
      |d| ≤ 510 ∧ (h = h' ∨ absorb h b = absorb h' c → |d| ≤ 255) := by
  have h1 := absorb_div h hb
  have h2 := absorb_div h' hc
  simp only [abs_le]
  refine ⟨(absorb h b).toNat % 256 - (h.toNat * 1099511628211 % 2 ^ 64 % 256 : ℕ) -
      ((absorb h' c).toNat % 256 - (h'.toNat * 1099511628211 % 2 ^ 64 % 256 : ℕ)),
    (h'.toNat * 1099511628211 / 2 ^ 64 : ℕ) - (h.toNat * 1099511628211 / 2 ^ 64 : ℕ),
    by omega, by omega, ?_⟩
  rintro (rfl | he)
  · omega
  · rw [he]
    omega

/-- Four small digits of a multiple of `2 ^ 64` are zero: its parts below and above `2 ^ 40` are. -/
lemma digits_zero {d₀ d₁ d₂ d₃ q : ℤ} (h₀ : |d₀| ≤ 255) (h₁ : |d₁| ≤ 510) (h₂ : |d₂| ≤ 510)
    (h₃ : |d₃| ≤ 255) (h : 1099511628211 * (1099511628211 * (1099511628211 * d₀ + d₁) + d₂) + d₃ =
      18446744073709551616 * q) : d₀ = 0 ∧ d₁ = 0 ∧ d₂ = 0 := by
  rw [abs_le] at h₀ h₁ h₂ h₃
  obtain ⟨low, hlow⟩ : ∃ x, x = 435 * (435 * (435 * d₀ + d₁) + d₂) + d₃ := ⟨_, rfl⟩
  obtain ⟨high, hhigh⟩ : ∃ x, x = 567675 * d₀ + 870 * d₁ + d₂ := ⟨_, rfl⟩
  obtain ⟨r, hr⟩ : ∃ r, low = 1099511627776 * (16777216 * r - high) :=
    ⟨q - (72057594037927936 + 1305 * 65536) * d₀ - 65536 * d₁, by
      linear_combination hlow + h + 1099511627776 * hhigh⟩
  clear h
  have hzero : low = 0 := by omega
  obtain ⟨w, hw⟩ : ∃ w, w = 435 * d₀ + d₁ := ⟨_, rfl⟩
  have hd₂ : d₂ = -435 * w := by omega
  have hzero' : high = 0 := by omega
  omega

/-- The hash after some bytes of a number. -/
abbrev hashed (s : BitVec 64) (n i : ℕ) : BitVec 64 := (toLeBytes i n).foldl absorb s

variable {s : BitVec 64} {m n : ℕ}

lemma hashed_succ (n i : ℕ) : hashed s n (i + 1) = absorb (hashed s n i) (n / 256 ^ i % 256) := by
  rw [hashed, toLeBytes, List.range_succ, List.map_append, List.foldl_append]
  rfl

lemma hashed_eq (h : hashed s m 4 = hashed s n 4) : ∀ i ≤ 4, hashed s m i = hashed s n i := by
  have hdigit := fun i => exists_digit (hashed s m i) (hashed s n i)
    (Nat.mod_lt (m / 256 ^ i) (by decide)) (Nat.mod_lt (n / 256 ^ i) (by decide))
  simp only [← hashed_succ] at hdigit
  choose d q heq hd hsmall using hdigit
  have hsum := congrArg (fun x => (x.toNat : ℤ)) h
  have hzero : ((hashed s m 0).toNat : ℤ) = (hashed s n 0).toNat := rfl
  obtain ⟨hd₀, hd₁, hd₂⟩ := digits_zero (q := -q 3 - 1099511628211 * (q 2 + 1099511628211 *
    (q 1 + 1099511628211 * q 0))) (hsmall 0 (.inl rfl)) (hd 1) (hd 2) (hsmall 3 (.inr h)) (by
      linear_combination hsum - heq 3 - 1099511628211 * (heq 2 + 1099511628211 *
        (heq 1 + 1099511628211 * (heq 0 + 1099511628211 * hzero))))
  have hnext : ∀ i, hashed s m i = hashed s n i → d i = 0 →
      hashed s m (i + 1) = hashed s n (i + 1) := fun i hi hd => by
    have := heq i
    rw [hi, hd] at this
    exact BitVec.eq_of_toNat_eq (by omega)
  have h1 := hnext 0 rfl hd₀
  have h2 := hnext 1 h1 hd₁
  have h3 := hnext 2 h2 hd₂
  exact fun
    | 0, _ => rfl
    | 1, _ => h1
    | 2, _ => h2
    | 3, _ => h3
    | 4, _ => h

/-- **Attempts have different executions.** -/
theorem executionId_inj (workloadId : DistributedId) (a b : BitVec 32)
    (h : deriveDeterministicExecutionId workloadId a =
      deriveDeterministicExecutionId workloadId b) : a = b := by
  have hash := hashed_eq (BitVec.eq_of_toNat_eq (congrArg DistributedId.nodeId h))
  have hbyte : ∀ i < 4, a.toNat / 256 ^ i % 256 = b.toNat / 256 ^ i % 256 := fun i hi => by
    have := hash (i + 1) hi
    rw [hashed_succ, hashed_succ, hash i hi.le] at this
    exact absorb_inj (Nat.mod_lt _ (by decide)) (Nat.mod_lt _ (by decide)) this
  have h0 := hbyte 0 (by decide)
  have h1 := hbyte 1 (by decide)
  have h2 := hbyte 2 (by decide)
  have h3 := hbyte 3 (by decide)
  exact BitVec.eq_of_toNat_eq (by omega)

theorem executionId_inj_second : (2 : BitVec 32) = 2 := executionId_inj ⟨1, 100⟩ 2 2 rfl

end ProjectZero.Libzero.Execution
