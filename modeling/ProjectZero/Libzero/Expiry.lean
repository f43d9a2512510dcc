import ProjectZero.Libzero.LeaseEngine

/-! # A dead lease

A lease is dead when its deadline has come or it has left the state `Active`. Nothing in the engine
gives a dead lease life again but two calls: `renew_lease` looks at the state and not at the deadline,
and `reconcile_surviving_lease` at the deadline and not at the state. A call keeps dead leases dead if
and only if it is not one of these (`careful_iff`). -/

namespace ProjectZero.Libzero.Expiry

open Resource LeaseEngine

variable {n n' : Node} {s : Fin 256} {l l' : ResourceLease}

/-! ### Dead leases -/

def Dead (tick : ℕ) (l : ResourceLease) : Prop := l.state ≠ .active ∨ l.expirationTick ≤ tick

/-- The tick that a call carries; the others happen at the tick of the call before. -/
def tickOf (now : ℕ) : Call → ℕ
  | .request q => q.currentTick
  | .renew _ _ _ tick => tick
  | .reconcile _ tick _ => tick
  | _ => now

/-- The call is a renewal or a reconciliation of the lease in the place `s`, and succeeds. -/
def Revives (n : Node) (s : Fin 256) : Call → Prop
  | .renew id gen dur tick => ∃ l x, n.findLease id = some (s, l) ∧
      (renewLease id gen dur tick n).1 = .ok x
  | .reconcile id tick window => ∃ l x, n.findLease id = some (s, l) ∧
      (reconcileSurvivingLease id tick window n).1 = .ok x
  | _ => False

/-- The call does not renew a lease after its deadline, and does not reconcile one that is not active
before it. -/
def Careful (n : Node) : Call → Prop
  | .renew id gen dur tick => ∀ s l, n.findLease id = some (s, l) → l.expirationTick ≤ tick →
      l.generation ≠ gen ∨ l.state ≠ .active ∨ 2 ^ 64 ≤ tick + dur
  | .reconcile id tick _ => ∀ s l, n.findLease id = some (s, l) → l.state ≠ .active →
      l.expirationTick ≤ tick
  | _ => True

/-- **Dead leases stay dead** over the call. -/
def KeepsDead (n : Node) (now : ℕ) (c : Call) : Prop :=
  ∀ s l, n.leases s = some l → Dead (tickOf now c) l → ¬Revives n s c ∧
    ∀ l', (c.run n).2.leases s = some l' →
      l'.expirationTick ≤ l.expirationTick ∧ Dead (tickOf now c) l'

/-! ### What a call does to a lease -/

/-- The same lease, with the same deadline, and not made active. -/
structure Aged (l l' : ResourceLease) : Prop where
  leaseId : l'.leaseId = l.leaseId
  granted : l'.grantedTick = l.grantedTick
  expiration : l'.expirationTick = l.expirationTick
  state : l'.state = l.state ∨ l'.state ≠ .active

lemma Aged.refl (l : ResourceLease) : Aged l l := ⟨rfl, rfl, rfl, .inl rfl⟩

lemma Aged.trans {l'' : ResourceLease} (h : Aged l l') (h' : Aged l' l'') : Aged l l'' := by
  refine ⟨h'.leaseId.trans h.leaseId, h'.granted.trans h.granted,
    h'.expiration.trans h.expiration, ?_⟩
  rcases h'.state with he | he
  · rw [he]
    exact h.state
  · exact .inr he

lemma Aged.dead {tick : ℕ} (h : Aged l l') (hd : Dead tick l) : Dead tick l' := by
  rcases hd with hst | hexp
  · rcases h.state with he | he
    · exact .inl (by rw [he]; exact hst)
    · exact .inl he
  · exact .inr (by rw [h.expiration]; exact hexp)

lemma setLease_self (n : Node) (s : Fin 256) (o : Option ResourceLease) :
    (n.setLease s o).leases s = o := update_self _ _ _

lemma setLease_other (n : Node) {s t : Fin 256} (h : t ≠ s) (o : Option ResourceLease) :
    (n.setLease s o).leases t = n.leases t := update_of_ne h _ _

lemma aged_loseLease (affected : ResourceLease → Bool) {st : LeaseState} (hst : st ≠ .active)
    (reason : ℕ) (quarantine : Bool) (k : Fin 256) (hs : n.leases s = some l) :
    ∃ l', (loseLease affected st reason quarantine n k).leases s = some l' ∧ Aged l l' := by
  unfold loseLease
  cases hk : n.leases k with
  | none => exact ⟨l, hs, .refl l⟩
  | some lk =>
    dsimp only
    split
    · by_cases hsk : s = k
      · subst hsk
        rw [hs] at hk
        cases hk
        exact ⟨_, setLease_self n s _, rfl, rfl, rfl, .inr hst⟩
      · exact ⟨l, (setLease_other n hsk _).trans hs, .refl l⟩
    · exact ⟨l, hs, .refl l⟩

lemma aged_of_foldl {affected : ResourceLease → Bool} {st : LeaseState} (hst : st ≠ .active)
    {reason : ℕ} {quarantine : Bool} {is : List (Fin 256)} (hs : n.leases s = some l)
    (h : (is.foldl (loseLease affected st reason quarantine) n).leases s = some l') : Aged l l' := by
  induction is generalizing n l with
  | nil =>
    change n.leases s = some l' at h
    rw [hs] at h
    cases h
    exact .refl _
  | cons k is ih =>
    obtain ⟨l1, hl1, haged⟩ := aged_loseLease affected hst reason quarantine k hs
    exact haged.trans (ih hl1 h)

lemma leases_admitRequest (q : LeaseRequest) (n : Node) :
    (admitRequest q n).2.leases = n.leases := by
  unfold admitRequest
  split
  · rfl
  split <;> rfl

lemma aged_requestLease (q : LeaseRequest) (hs : n.leases s = some l) :
    (requestLease q n).2.leases s = some l := by
  unfold requestLease
  split
  · exact hs
  split
  · exact hs
  have hadm := leases_admitRequest q n
  generalize admitRequest q n = r at hadm
  obtain ⟨r, n1⟩ := r
  cases r with
  | error e => rw [hadm]; exact hs
  | ok u =>
    dsimp only at hadm ⊢
    cases hslot : n1.freeSlot with
    | none =>
      change n1.leases s = some l
      rw [hadm]
      exact hs
    | some k =>
      have hfree := List.find?_some hslot
      have hsk : s ≠ k := by
        rintro rfl
        rw [hadm, hs] at hfree
        cases hfree
      rw [setLease_other _ hsk, hadm]
      exact hs

variable (id : DistributedId)

lemma aged_releaseLease (gen : BitVec 32) (hs : n.leases s = some l)
    (h : (releaseLease id gen n).2.leases s = some l') : Aged l l' := by
  have hsame : n.leases s = some l' → Aged l l' := by
    intro he
    rw [hs] at he
    cases he
    exact .refl l
  unfold releaseLease at h
  cases hfind : n.findLease id with
  | none =>
    rw [hfind] at h
    exact hsame h
  | some r =>
    obtain ⟨k, lk⟩ := r
    rw [hfind] at h
    have hk := (Node.findLease_some hfind).1
    dsimp only at h
    iterate 2
      split at h
      · exact hsame h
    split at h
    · by_cases hsk : s = k
      · subst hsk
        rw [setLease_self] at h
        rw [hs] at hk
        cases hk
        cases h
        exact ⟨rfl, rfl, rfl, .inr LeaseState.noConfusion⟩
      rw [setLease_other _ hsk] at h
      exact hsame h
    change ((n.setLease k (some { lk with state := .released })).setLease k none).leases s =
      some l' at h
    by_cases hsk : s = k
    · subst hsk
      rw [setLease_self] at h
      cases h
    rw [setLease_other _ hsk, setLease_other _ hsk] at h
    exact hsame h

/-! ### Renewal and reconciliation -/

lemma renewLease_cases (gen : BitVec 32) (dur tick : ℕ) (n : Node) :
    ((∃ e, (renewLease id gen dur tick n).1 = .error e) ∧ (renewLease id gen dur tick n).2 = n ∧
      ∀ s l, n.findLease id = some (s, l) →
        l.generation ≠ gen ∨ l.state ≠ .active ∨ 2 ^ 64 ≤ tick + dur) ∨
    ∃ s l, n.findLease id = some (s, l) ∧ l.generation = gen ∧ l.state = .active ∧
      tick + dur < 2 ^ 64 ∧ renewLease id gen dur tick n = (.ok (tick + dur), n.setLease s
        (some { l with expirationTick := tick + dur, generation := l.generation + 1 })) := by
  unfold renewLease
  cases hfind : n.findLease id with
  | none => exact .inl ⟨⟨_, rfl⟩, rfl, fun s l he => by cases he⟩
  | some r =>
    obtain ⟨s, l⟩ := r
    dsimp only
    by_cases hgen : l.generation = gen
    · rw [if_neg (not_not.mpr hgen)]
      by_cases hst : l.state = .active
      · rw [if_neg (not_not.mpr hst)]
        by_cases hlt : tick + dur < 2 ^ 64
        · have hadd : checkedAdd tick dur = some (tick + dur) := if_pos hlt
          rw [hadd]
          exact .inr ⟨s, l, rfl, hgen, hst, hlt, rfl⟩
        have hadd : checkedAdd tick dur = none := if_neg hlt
        rw [hadd]
        refine .inl ⟨⟨_, rfl⟩, rfl, fun s' l' he => ?_⟩
        exact .inr (.inr (Nat.le_of_not_lt hlt))
      rw [if_pos hst]
      refine .inl ⟨⟨_, rfl⟩, rfl, fun s' l' he => ?_⟩
      cases he
      exact .inr (.inl hst)
    rw [if_pos hgen]
    refine .inl ⟨⟨_, rfl⟩, rfl, fun s' l' he => ?_⟩
    cases he
    exact .inl hgen

lemma reconcile_cases (tick window : ℕ) (n : Node) :
    ((∃ e, (reconcileSurvivingLease id tick window n).1 = .error e) ∧
      (reconcileSurvivingLease id tick window n).2 = n ∧
      ∀ s l, n.findLease id = some (s, l) → l.expirationTick ≤ tick) ∨
    ∃ s l, n.findLease id = some (s, l) ∧ tick < l.expirationTick ∧
      reconcileSurvivingLease id tick window n =
        (.ok (min (l.expirationTick - tick) window),
          n.setLease s (some { l with generation := l.generation + 1 })) := by
  unfold reconcileSurvivingLease
  cases hfind : n.findLease id with
  | none => exact .inl ⟨⟨_, rfl⟩, rfl, fun s l he => by cases he⟩
  | some r =>
    obtain ⟨s, l⟩ := r
    dsimp only
    by_cases hlt : tick < l.expirationTick
    · rw [if_neg (Nat.not_le.mpr hlt)]
      refine .inr ⟨s, l, rfl, hlt, ?_⟩
      congr 2
      split <;> omega
    rw [if_pos (Nat.le_of_not_lt hlt)]
    refine .inl ⟨⟨_, rfl⟩, rfl, fun s' l' he => ?_⟩
    cases he
    exact Nat.le_of_not_lt hlt

/-- **The window** that a reconciliation grants ends with the lease. -/
lemma reconcile_window {id : DistributedId} {tick window x : ℕ}
    (hfind : n.findLease id = some (s, l))
    (h : (reconcileSurvivingLease id tick window n).1 = .ok x) : tick + x ≤ l.expirationTick := by
  rcases reconcile_cases id tick window n with ⟨⟨e, he⟩, -⟩ | ⟨s', l', hfind', hlt, he⟩
  · rw [he] at h
    cases h
  rw [hfind] at hfind'
  cases hfind'
  rw [he] at h
  cases h
  omega

/-! ### One call -/

/-- A careful call leaves a dead lease in its place only as it was, or with another dead state. -/
lemma aged_of_careful {now : ℕ} {c : Call} (hc : Careful n c) (hs : n.leases s = some l)
    (hd : Dead (tickOf now c) l) :
    ¬Revives n s c ∧ ∀ l', (c.run n).2.leases s = some l' → Aged l l' := by
  have hsame : ∀ l', n.leases s = some l' → Aged l l' := by
    intro l' he
    rw [hs] at he
    cases he
    exact .refl l
  -- a call that fails, and one that changes another place
  have hstay : ∀ {r : Except ZeroError ℕ × Node} {id}, (∃ e, r.1 = .error e) ∧ r.2 = n ∨
      (∃ k lk o, n.findLease id = some (k, lk) ∧ s ≠ k ∧ r.2 = n.setLease k o) →
      (¬∃ l x, n.findLease id = some (s, l) ∧ r.1 = .ok x) ∧
        ∀ l', r.2.leases s = some l' → Aged l l' := by
    rintro r id (⟨⟨e, he⟩, hn⟩ | ⟨k, lk, o, hfind, hsk, hr⟩)
    · refine ⟨?_, hn ▸ hsame⟩
      rintro ⟨-, x, -, hx⟩
      cases he.symm.trans hx
    rw [hr]
    refine ⟨?_, fun l' h => hsame l' ((setLease_other n hsk _).symm.trans h)⟩
    rintro ⟨l1, x, hfind1, -⟩
    cases hfind.symm.trans hfind1
    exact hsk rfl
  cases c with
  | registerDomain | setQuota | reserve => exact ⟨id, hsame⟩
  | confirmDriverRelease resId amount =>
    refine ⟨id, fun l' h => hsame l' ?_⟩
    change (confirmDriverRelease resId amount n).2.leases s = some l' at h
    unfold confirmDriverRelease at h
    split at h <;> exact h
  | request q =>
    refine ⟨id, fun l' h => ?_⟩
    have hkept := aged_requestLease q hs
    change (requestLease q n).2.leases s = some l' at h
    rw [hkept] at h
    cases h
    exact .refl l
  | release leaseId gen => exact ⟨id, fun l' h => aged_releaseLease leaseId gen hs h⟩
  | timeAuthorityLoss =>
    refine ⟨id, fun l' h => ?_⟩
    dsimp only [Call.run, handleTimeAuthorityLoss] at h
    exact aged_of_foldl LeaseState.noConfusion hs h
  | providerLoss resId =>
    refine ⟨id, fun l' h => ?_⟩
    dsimp only [Call.run, handleProviderLoss] at h
    refine aged_of_foldl LeaseState.noConfusion ?_ h
    exact hs
  | peerClosed handle =>
    refine ⟨id, fun l' h => ?_⟩
    dsimp only [Call.run, handlePeerClosed] at h
    exact aged_of_foldl LeaseState.noConfusion hs h
  | renew leaseId gen dur tick =>
    rcases renewLease_cases leaseId gen dur tick n with
      ⟨he, hn, -⟩ | ⟨k, lk, hfind, hgen, hst, hlt, he⟩
    · exact hstay (.inl ⟨he, hn⟩)
    -- the renewed lease is active and, by care, not yet due: it is not the dead one
    have hsk : s ≠ k := by
      rintro rfl
      have hk := (Node.findLease_some hfind).1
      rw [hs] at hk
      cases hk
      rcases hd with hdead | hdue
      · exact hdead hst
      rcases hc s l hfind hdue with h | h | h
      · exact h hgen
      · exact h hst
      · omega
    exact hstay (.inr ⟨k, lk, _, hfind, hsk, congrArg Prod.snd he⟩)
  | reconcile leaseId tick window =>
    change Dead tick l at hd
    rcases reconcile_cases leaseId tick window n with
      ⟨he, hn, -⟩ | ⟨k, lk, hfind, hlt, he⟩
    · exact hstay (.inl ⟨he, hn⟩)
    have hsk : s ≠ k := by
      rintro rfl
      have hk := (Node.findLease_some hfind).1
      rw [hs] at hk
      cases hk
      rcases hd with hdead | hdue
      · have hdue := hc s l hfind hdead
        omega
      · omega
    exact hstay (.inr ⟨k, lk, _, hfind, hsk, congrArg Prod.snd he⟩)

lemma keepsDead_iff (n : Node) (now : ℕ) (c : Call) : KeepsDead n now c ↔ Careful n c := by
  constructor
  · intro hkeeps
    cases c with
    | renew leaseId gen dur tick =>
      intro s l hfind hdue
      have hs := (Node.findLease_some hfind).1
      have hnot := (hkeeps s l hs (.inr hdue)).1
      rcases renewLease_cases leaseId gen dur tick n with
        ⟨-, -, hwhy⟩ | ⟨k, lk, hfind', -, -, -, he⟩
      · exact hwhy s l hfind
      · exact absurd ⟨l, _, hfind, by rw [he]⟩ hnot
    | reconcile leaseId tick window =>
      intro s l hfind hst
      have hs := (Node.findLease_some hfind).1
      have hnot := (hkeeps s l hs (.inl hst)).1
      rcases reconcile_cases leaseId tick window n with
        ⟨-, -, hwhy⟩ | ⟨k, lk, hfind', -, he⟩
      · exact hwhy s l hfind
      · exact absurd ⟨l, _, hfind, by rw [he]⟩ hnot
    | _ => trivial
  intro hc s l hs hd
  obtain ⟨hnot, haged⟩ := aged_of_careful hc hs hd
  exact ⟨hnot, fun l' hl' => ⟨(haged l' hl').expiration.le, (haged l' hl').dead hd⟩⟩

/-! ### Runs -/

lemma Dead.mono {t t' : ℕ} (h : Dead t l) (hle : t ≤ t') : Dead t' l := by
  rcases h with hst | hexp
  · exact .inl hst
  · exact .inr (hexp.trans hle)

/-- A careful call at a later tick, after which the place `s` still holds a lease. -/
def CarefulStep (s : Fin 256) (a b : Node × ℕ) : Prop :=
  ∃ c : Call, a.2 ≤ tickOf a.2 c ∧ Careful a.1 c ∧ b = ((c.run a.1).2, tickOf a.2 c) ∧
    (b.1.leases s).isSome

/-- Along careful calls, a dead lease that keeps its place is the same lease with the same deadline,
and dead. -/
lemma aged_of_run {a b : Node × ℕ} (h : Relation.ReflTransGen (CarefulStep s) a b)
    (hs : a.1.leases s = some l) (hd : Dead a.2 l) :
    ∃ l', b.1.leases s = some l' ∧ Aged l l' ∧ Dead b.2 l' := by
  induction h with
  | refl => exact ⟨l, hs, .refl l, hd⟩
  | tail _ hstep ih =>
    obtain ⟨l1, hl1, haged1, hd1⟩ := ih
    obtain ⟨c, hle, hc, rfl, hsome⟩ := hstep
    obtain ⟨l2, hl2⟩ := Option.isSome_iff_exists.mp hsome
    have hd1' := hd1.mono hle
    have haged2 := (aged_of_careful hc hl1 hd1').2 l2 hl2
    exact ⟨l2, hl2, haged1.trans haged2, haged2.dead hd1'⟩

/-- **A dead lease stays dead under careful calls.** A window granted by a reconciliation never goes
beyond the deadline. A call revives no dead lease, moves no deadline of one and leaves it dead if and
only if it does not renew a lease after its deadline and does not reconcile one that is not active
before it. Along every run of such calls at non-decreasing ticks a dead lease is, for as long as it
is in the table, dead and with the same deadline, and no renewal or reconciliation of it succeeds. -/
theorem dead_stays (n : Node) (now : ℕ) :
    (∀ s l id tick window x, n.findLease id = some (s, l) →
      (reconcileSurvivingLease id tick window n).1 = .ok x → tick + x ≤ l.expirationTick) ∧
    (∀ c, KeepsDead n now c ↔ Careful n c) ∧
    ∀ (s : Fin 256) l b, n.leases s = some l → Dead now l →
      Relation.ReflTransGen (CarefulStep s) (n, now) b →
      ∃ l', b.1.leases s = some l' ∧ l'.leaseId = l.leaseId ∧
        l'.expirationTick = l.expirationTick ∧ Dead b.2 l' ∧
        ∀ c, b.2 ≤ tickOf b.2 c → Careful b.1 c → ¬Revives b.1 s c := by
  refine ⟨fun s l id tick window x hfind h => reconcile_window hfind h, keepsDead_iff n now, ?_⟩
  intro s l b hs hd hrun
  obtain ⟨l', hl', haged, hd'⟩ := aged_of_run hrun hs hd
  exact ⟨l', hl', haged.leaseId, haged.expiration, hd',
    fun c hle hc => (aged_of_careful hc hl' (hd'.mono hle)).1⟩

/-- The node with one unit of a resource, leased at tick 5 until tick 15. -/
def leasedNode : Node :=
  let q : LeaseRequest :=
    { leaseId := ⟨1, 2⟩, resourceId := ⟨1, 1⟩, entityId := 7, clientChannelHandle := 3,
      requestedAmount := .single 1, durationTicks := 10, currentTick := 5, callerHasCoverage := true,
      coupling := none }
  ((Call.request q).run ((Call.registerDomain ⟨1, 1⟩ (.single 1)).run .new).2).2

/-- **Revived.** The lease that ended at tick 15 is renewed at tick 20 until tick 70. And when the
time authority was lost, the lease is reconciled at tick 10 all the same. -/
theorem dead_lease_revived :
    (leasedNode.leases 0).map (·.expirationTick) = some 15 ∧
    (renewLease ⟨1, 2⟩ 1 50 20 leasedNode).1.toOption = some 70 ∧
    ((Call.timeAuthorityLoss.run leasedNode).2.leases 0).map (·.state) =
      some .timeAuthorityLost ∧
    (reconcileSurvivingLease ⟨1, 2⟩ 10 100 (Call.timeAuthorityLoss.run leasedNode).2).1.toOption =
      some 5 := by
  decide +kernel

/-- The lease that was lost with the time authority at tick 6. -/
theorem dead_stays_lost : let n := (Call.timeAuthorityLoss.run leasedNode).2
    ∃ l, n.leases 0 = some l ∧ l.state ≠ .active ∧
      ∀ c, 6 ≤ tickOf 6 c → Careful n c → ¬Revives n 0 c := by
  intro n
  have hsome : (n.leases 0).map (·.state) = some .timeAuthorityLost := by decide +kernel
  obtain ⟨l, hl, hst⟩ := Option.map_eq_some_iff.mp hsome
  have hdead : l.state ≠ .active := by
    rw [hst]
    exact LeaseState.noConfusion
  clear_value n
  obtain ⟨l', -, -, -, -, hnot⟩ := (dead_stays n 6).2.2 0 l (n, 6) hl (Or.inl hdead) .refl
  exact ⟨l, hl, hdead, hnot⟩

end ProjectZero.Libzero.Expiry
