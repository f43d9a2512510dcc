import ProjectZero.Net.Ports

/-! # The table of ports over whole histories

Ports are bound and unbound in any order. At most 32 ports are in use at a time, so the search for an
ephemeral port comes to a free one before it has seen 33 of them. -/

namespace ProjectZero.Net.Bindings

open Net.Tables Ports

variable {n n' : Stack} {protocol socketId pid : ℕ} {ip : Ip} {p : Port} {config : Bool}

/-! ### Unbinding one port -/

/-- The first binding of the socket for the port is removed; the wildcard stands for any address. -/
def unbindPort (protocol : ℕ) (ip : Ip) (port : Port) (socketId : ℕ) (n : Stack) :
    Except SyscallError Unit × Stack :=
  match (List.finRange 32).find? fun i => (n.port i).occupied && (n.port i).protocol = protocol &&
    (n.port i).port = port && (n.port i).socketId = socketId &&
    (ip = 0 || (n.port i).ipAddr = ip) with
  | none => (.error .invalidArgument, n)
  | some i => (.ok (), { n with port := update n.port i .empty })

lemma unbindPort_separate (h : Separate n.port) :
    Separate (unbindPort protocol ip p socketId n).2.port := by
  unfold unbindPort
  split
  · exact h
  rename_i i _
  refine h.mono fun j hj => ?_
  dsimp only at hj ⊢
  by_cases hji : j = i
  · rw [hji, update_self] at hj
    cases hj
  · exact update_of_ne hji ..

/-! ### The search for an ephemeral port -/

/-- The ephemeral ports as a ring. -/
def ringPort (o : ℕ) : Port := BitVec.ofNat 16 (49152 + o % 16384)

lemma ringPort_toNat (o : ℕ) : (ringPort o).toNat = 49152 + o % 16384 := by
  unfold ringPort
  rw [BitVec.toNat_ofNat]
  omega

lemma ringPort_succ (o : ℕ) :
    (if ringPort o = 65535 then (49152 : Port) else ringPort o + 1) = ringPort (o + 1) := by
  have ho := ringPort_toNat o
  apply BitVec.eq_of_toNat_eq
  rw [ringPort_toNat]
  split
  next hlast =>
    rw [hlast] at ho
    change 49152 = _
    have : 65535 = 49152 + o % 16384 := ho
    omega
  rename_i hlast
  have hne : (ringPort o).toNat ≠ 65535 := fun hc => hlast (BitVec.eq_of_toNat_eq hc)
  rw [BitVec.toNat_add, ho]
  change (_ + 1) % 65536 = _
  omega

lemma ringPort_ne {o i j : ℕ} (hij : i < j) (hj : j < i + 16384) :
    ringPort (o + i) ≠ ringPort (o + j) := fun hc => by
  have h := congrArg BitVec.toNat hc
  rw [ringPort_toNat, ringPort_toNat] at h
  omega

lemma searchEphemeral_none {inUse : Port → Bool} {start : Port} :
    ∀ {k o : ℕ}, searchEphemeral inUse start k (ringPort o) = none →
      ∀ j < k, (∀ i < j, ringPort (o + (i + 1)) ≠ start) → inUse (ringPort (o + j))
  | 0, _, _, _, hj, _ => absurd hj (Nat.not_lt_zero _)
  | k + 1, o, h, j, hj, hback => by
    unfold searchEphemeral at h
    rw [ringPort_succ] at h
    split at h
    · cases h
    rename_i huse
    cases j with
    | zero => simpa using huse
    | succ j =>
      rw [if_neg (hback 0 j.succ_pos)] at h
      have hrest := searchEphemeral_none h j (Nat.lt_of_succ_lt_succ hj) fun i hi => by
        rw [add_right_comm, add_assoc]
        exact hback (i + 1) (Nat.succ_lt_succ hi)
      rwa [add_right_comm, add_assoc] at hrest

lemma exists_of_portInUse (h : portInUse n protocol ip p) : ∃ i, (n.port i).port = p := by
  obtain ⟨i, -, hi⟩ := List.any_eq_true.mp h
  exact ⟨i, (collides_eq_true.mp hi).2.2.1⟩

/-- The search finds a port: 33 ports in use would have two bindings in one slot. -/
lemma searchEphemeral_ne_none (o : ℕ) :
    searchEphemeral (portInUse n protocol ip) (ringPort o) 16384 (ringPort o) ≠ none := by
  intro h
  have hused (j : Fin 33) : ∃ i, (n.port i).port = ringPort (o + j) := by
    refine exists_of_portInUse (searchEphemeral_none h j (by omega) fun i hi => ?_)
    exact (ringPort_ne (i := 0) (by omega) (by omega)).symm
  choose slot hslot using hused
  obtain ⟨a, b, hab, hs⟩ := Fintype.exists_ne_map_eq_of_card_lt slot (by decide)
  have heq : ringPort (o + a) = ringPort (o + b) := by rw [← hslot a, ← hslot b, hs]
  rcases Nat.lt_or_gt_of_ne (Fin.val_ne_of_ne hab) with hlt | hlt
  · exact ringPort_ne hlt (by omega) heq
  · exact ringPort_ne hlt (by omega) heq.symm

/-- **An ephemeral port** is refused only when the table is full. -/
lemma bindPort_full {e : SyscallError}
    (h : bindPort protocol ip 0 socketId pid config n = (.error e, n')) (i : Fin 32) :
    (n.port i).occupied := by
  unfold bindPort ephemeralPort at h
  have hstart : ∃ o, (if n.nextEphemeral < 49152 then (49152 : Port) else n.nextEphemeral) =
      ringPort o := by
    split
    · exact ⟨0, rfl⟩
    rename_i hlt
    refine ⟨n.nextEphemeral.toNat - 49152, BitVec.eq_of_toNat_eq ?_⟩
    have hle : 49152 ≤ n.nextEphemeral.toNat := BitVec.not_lt.mp hlt
    rw [ringPort_toNat]
    omega
  obtain ⟨o, ho⟩ := hstart
  rw [if_pos rfl, ho] at h
  split at h
  next hfail =>
    dsimp only at hfail
    split at hfail
    next hnone =>
      exact absurd hnone (searchEphemeral_ne_none o)
    · cases hfail
  rename_i m hsome
  have hport : m.port = n.port := by
    dsimp only at hsome
    split at hsome
    · cases hsome
    cases hsome
    rfl
  unfold enterBinding at h
  split at h
  next hall =>
    rw [hport] at hall
    simpa using List.find?_eq_none.mp hall i (List.mem_finRange i)
  · cases h

/-! ### What refuses a port -/

/-- There is no slot left for a binding. -/
def Full (n : Stack) : Prop := ∀ i, (n.port i).occupied
  deriving Decidable

/-- The table is full, or the port is given, and it is privileged or stands in the way of another. -/
def Refused (n : Stack) (protocol : ℕ) (ip : Ip) (p : Port) (config : Bool) : Prop :=
  Full n ∨ p ≠ 0 ∧ (p < 1024 ∧ config = false ∨ ∃ i, collides protocol ip p (n.port i))
  deriving Decidable

/-- **`bind_port` fails** exactly if the port is refused. -/
lemma bindPort_error_iff : (∃ e, (bindPort protocol ip p socketId pid config n).1 = .error e) ↔
    Refused n protocol ip p config := by
  generalize hb : bindPort protocol ip p socketId pid config n = x
  obtain ⟨r, n'⟩ := x
  obtain ⟨next, ⟨-, e, rfl⟩ | ⟨i, q, hi, rfl, hfree, -, hq⟩⟩ := bindPort_cases hb
  · refine iff_of_true ⟨e, rfl⟩ ?_
    by_cases hp : p = 0
    · subst hp
      exact .inl (bindPort_full hb)
    by_contra hno
    unfold Refused Full at hno
    push Not at hno
    obtain ⟨⟨i, hi⟩, hno⟩ := hno
    obtain ⟨hpriv, hcol⟩ := hno hp
    have huse : portInUse n protocol ip p = false := by
      rw [portInUse, List.any_eq_false]
      exact fun j _ => by simpa using hcol j
    unfold bindPort enterBinding at hb
    rw [if_neg hp, if_neg fun hc => hpriv hc.1 hc.2, if_neg (by simp [huse])] at hb
    split at hb
    next hnone => simpa [hi] using List.find?_eq_none.mp hnone i (List.mem_finRange i)
    · cases hb
  refine iff_of_false (fun ⟨e, he⟩ => by cases he) ?_
  rintro (hfull | ⟨hp, hpriv | ⟨j, hj⟩⟩)
  · exact absurd (hfull i) (by simp [hi])
  all_goals
    rw [if_neg hp] at hq
    obtain ⟨rfl, hconfig⟩ := hq
  · exact absurd (hconfig hpriv.1) (by simp [hpriv.2])
  · rw [hfree j] at hj
    cases hj

/-! ### Histories -/

/-- The operations on the table. -/
inductive PortOp where
  | bind (protocol : ℕ) (ip : Ip) (requested : Port) (socketId pid : ℕ) (config : Bool)
  | unbind (protocol : ℕ) (ip : Ip) (port : Port) (socketId : ℕ)
  | unbindSocket (socketId : ℕ)
  | unbindPid (pid : ℕ)

def PortOp.run (n : Stack) : PortOp → Stack
  | .bind protocol ip requested socketId pid config =>
    (bindPort protocol ip requested socketId pid config n).2
  | .unbind protocol ip port socketId => (unbindPort protocol ip port socketId n).2
  | .unbindSocket socketId => unbindAllBySocket socketId n
  | .unbindPid pid => unbindAllByPid pid n

lemma PortOp.run_separate (op : PortOp) (h : Separate n.port) : Separate (op.run n).port := by
  cases op with
  | bind protocol ip requested socketId pid config =>
    have hb : bindPort protocol ip requested socketId pid config n =
      (_, (PortOp.bind protocol ip requested socketId pid config).run n) := rfl
    obtain ⟨next, ⟨hn, -⟩ | ⟨i, p, -, -, hfree, hn, -⟩⟩ := bindPort_cases hb
    · rw [hn]
      exact h
    rw [hn]
    exact h.enter rfl hfree
  | unbind protocol ip port socketId => exact unbindPort_separate h
  | unbindSocket | unbindPid => exact h.unbind

lemma separate_of_run (ops : List PortOp) (h : Separate n.port) :
    Separate (ops.foldl PortOp.run n).port := by
  induction ops generalizing n with
  | nil => exact h
  | cons op ops ih => exact ih (op.run_separate h)

/-- **Port bindings.** After every history no two bindings stand in each other's way; an ephemeral
port that is bound stood in nobody's way, and is refused only by a full table; a bind that fails
changes no binding; and the lookup finds the one binding for an address, exact or by the wildcard. -/
theorem bindings_never_conflict (ops : List PortOp) :
    let n := ops.foldl PortOp.run .boot
    Separate n.port ∧
    (∀ protocol ip requested socketId pid config r n',
      bindPort protocol ip requested socketId pid config n = (r, n') →
        (∀ p, r = .ok p → requested = 0 →
          49152 ≤ p ∧ ∀ j, collides protocol ip p (n.port j) = false) ∧
        ∀ e, r = .error e → n'.port = n.port ∧ (requested = 0 → ∀ j, (n.port j).occupied)) ∧
    ∀ protocol ip p,
      (∀ i, Bound (n.port i) protocol ip p →
        lookupSocket n protocol ip p = some (n.port i).socketId ∧
        ∀ j, Bound (n.port j) protocol ip p → j = i) ∧
      ((∀ i, ¬Bound (n.port i) protocol ip p) → lookupSocket n protocol ip p = none) := by
  intro n
  have hsep : Separate n.port := separate_of_run ops fun _ _ _ hb => by cases hb
  refine ⟨hsep, fun protocol ip requested socketId pid config r n' hb => ?_, fun protocol ip p => ?_⟩
  · obtain ⟨next, ⟨hn, e, rfl⟩ | ⟨i, p, -, rfl, hfree, -, hrange⟩⟩ := bindPort_cases hb
    · refine ⟨nofun, fun e' _ => ⟨by rw [hn], ?_⟩⟩
      rintro rfl
      exact bindPort_full hb
    refine ⟨fun p' hp hzero => ?_, nofun⟩
    cases hp
    rw [if_pos hzero] at hrange
    exact ⟨hrange, hfree⟩
  refine ⟨fun i hi => ⟨hsep.lookupSocket_eq hi, fun j hj => hsep.bound_unique hj hi⟩, fun hno => ?_⟩
  by_contra hsome
  obtain ⟨id, hid⟩ := Option.ne_none_iff_exists'.mp hsome
  obtain ⟨i, hi, -⟩ := lookupSocket_some hid
  exact hno i hi

end ProjectZero.Net.Bindings
