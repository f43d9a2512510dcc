import ProjectZero.Lib.Run
import ProjectZero.Libzero.Domain
import ProjectZero.Libzero.LeaseEngine

/-! # Lease accounting is exact

Whatever is called, and whether it succeeds or fails, the four columns of every domain add up to the
physical capacity, the allocated one is the sum over the active leases, and a call that fails leaves
the columns as they were (`accounting_exact`). -/

namespace ProjectZero.Libzero.Conservation

open Lib.Run Lib.Update Resource Accounting LeaseEngine Domain
open DimensionCapacityVector AccountingDomain AccountingManager

variable {n n' : Node} {m m' : AccountingManager} {id : DistributedId} {j k : Fin 64}

/-! ### The domains of the manager -/

/-- The domains are those of different resources, balanced, and not locked. -/
structure Books (m : AccountingManager) : Prop where
  distinct : ∀ j k : Fin 64, j.val < m.domainCount → k.val < m.domainCount →
    (m.domains j).resourceId = (m.domains k).resourceId → j = k
  balanced : ∀ j : Fin 64, j.val < m.domainCount → Balanced (m.domains j)
  unlocked : ∀ j : Fin 64, j.val < m.domainCount → (m.domains j).writerLocked = false

/-- The domains are the same; quotas and the ledger may differ. -/
def SameDomains (m m' : AccountingManager) : Prop :=
  m'.domains = m.domains ∧ m'.domainCount = m.domainCount

lemma sameDomains_checkAndChargeQuota (e : ℕ) (amount : DimensionCapacityVector)
    (m : AccountingManager) : SameDomains m (m.checkAndChargeQuota e amount).2 := by
  unfold checkAndChargeQuota
  iterate 2
    split
    · exact ⟨rfl, rfl⟩
  split <;> exact ⟨rfl, rfl⟩

lemma sameDomains_releaseQuota (e : ℕ) (amount : DimensionCapacityVector)
    (m : AccountingManager) : SameDomains m (m.releaseQuota e amount).2 := by
  unfold releaseQuota
  split
  · exact ⟨rfl, rfl⟩
  split <;> exact ⟨rfl, rfl⟩

lemma sameDomains_setQuota (e : ℕ) (amount : DimensionCapacityVector) (m : AccountingManager) :
    SameDomains m (m.setQuota e amount).2 := by
  unfold setQuota
  split
  · exact ⟨rfl, rfl⟩
  split <;> exact ⟨rfl, rfl⟩

lemma sameDomains_recordQuarantine (r : QuarantineRecord) (m : AccountingManager) :
    SameDomains m (m.recordQuarantine r).2 := by
  unfold recordQuarantine
  split <;> exact ⟨rfl, rfl⟩

lemma findDomain_some (h : m.findDomain id = some j) :
    j.val < m.domainCount ∧ (m.domains j).resourceId = id := by
  have hj := List.find?_some h
  simpa using hj

lemma findDomain_none (h : m.findDomain id = none) (hj : j.val < m.domainCount) :
    (m.domains j).resourceId ≠ id := by
  have hall := List.find?_eq_none.mp h j (List.mem_finRange j)
  intro he
  exact hall (by simp [hj, he])

/-- One domain is changed. -/
def replace (m : AccountingManager) (j : Fin 64) (d : AccountingDomain) : AccountingManager :=
  { m with domains := update m.domains j d }

lemma replace_self : replace m j (m.domains j) = m := by
  rw [replace, update_eq_self]

lemma onDomain_cases (id : DistributedId)
    (f : AccountingDomain → Except ZeroError Unit × AccountingDomain) (m : AccountingManager) :
    (m.onDomain id f = (none, m) ∧ ∀ j : Fin 64, j.val < m.domainCount →
        (m.domains j).resourceId ≠ id) ∨
      ∃ j : Fin 64, j.val < m.domainCount ∧ (m.domains j).resourceId = id ∧
        m.onDomain id f = (some (f (m.domains j)).1, replace m j (f (m.domains j)).2) := by
  unfold onDomain
  cases hfind : m.findDomain id with
  | none => exact .inl ⟨rfl, fun j hj => findDomain_none hfind hj⟩
  | some j =>
    obtain ⟨hj, hid⟩ := findDomain_some hfind
    exact .inr ⟨j, hj, hid, rfl⟩

variable {d d' : AccountingDomain}

lemma Books.replace (h : Books m) (hid : d.resourceId =
    (m.domains j).resourceId) (hb : Balanced d) (hu : d.writerLocked = false) :
    Books (replace m j d) := by
  have hsame : ∀ k, ((Conservation.replace m j d).domains k).resourceId =
      (m.domains k).resourceId := update_keep AccountingDomain.resourceId hid
  refine ⟨fun k l hk hl he => ?_, ?_, ?_⟩
  · rw [hsame, hsame] at he
    exact h.distinct k l hk hl he
  · exact update_all (P := fun k d => k.val < m.domainCount → Balanced d) (fun _ => hb)
      fun k _ => h.balanced k
  exact update_all (P := fun k (d : AccountingDomain) => k.val < m.domainCount →
    d.writerLocked = false) (fun _ => hu) fun k _ => h.unlocked k

lemma Books.congr (h : Books m) (hm : SameDomains m m') : Books m' := by
  obtain ⟨hd, hc⟩ := hm
  refine ⟨?_, ?_, ?_⟩
  · rw [hd, hc]
    exact h.distinct
  · rw [hd, hc]
    exact h.balanced
  rw [hd, hc]
  exact h.unlocked

/-! ### What is leased -/

/-- What a place of the table contributes to the allocated capacity of a resource. -/
def share (id : DistributedId) (i : Fin 8) : Option ResourceLease → ℕ
  | some l => if l.state = .active ∧ l.resourceId = id then l.allocatedCapacity.dimensions i else 0
  | none => 0

def leased (n : Node) (id : DistributedId) (i : Fin 8) : ℕ := ∑ s, share id i (n.leases s)

lemma leased_congr (h : n'.leases = n.leases) (id : DistributedId) (i : Fin 8) :
    leased n' id i = leased n id i := by
  rw [leased, leased, h]

lemma share_le_leased (n : Node) (s : Fin 256) (id : DistributedId) (i : Fin 8) :
    share id i (n.leases s) ≤ leased n id i := by
  rw [leased]
  exact Finset.single_le_sum (f := fun t => share id i (n.leases t)) (fun _ _ => Nat.zero_le _)
    (Finset.mem_univ s)

lemma leased_setLease (n : Node) (s : Fin 256) (o : Option ResourceLease) (id : DistributedId)
    (i : Fin 8) : leased (n.setLease s o) id i + share id i (n.leases s) =
      leased n id i + share id i o := by
  have hsplit := fun f : Fin 256 → ℕ => Finset.add_sum_erase Finset.univ f (Finset.mem_univ s)
  have hrest : ∑ t ∈ Finset.univ.erase s, share id i ((n.setLease s o).leases t) =
      ∑ t ∈ Finset.univ.erase s, share id i (n.leases t) := by
    refine Finset.sum_congr rfl fun t ht => ?_
    rw [Node.setLease]
    dsimp only
    rw [update_of_ne (Finset.ne_of_mem_erase ht)]
  have hself : (n.setLease s o).leases s = o := update_self _ _ _
  rw [leased, leased, ← hsplit fun t => share id i ((n.setLease s o).leases t),
    ← hsplit fun t => share id i (n.leases t), hrest, hself]
  omega

variable {o : Option ResourceLease}

lemma setLease_all {P : ResourceLease → Prop} {s : Fin 256}
    (ho : ∀ l, o = some l → P l) (h : ∀ t l, n.leases t = some l → P l) (t : Fin 256) :
    ∀ l, (n.setLease s o).leases t = some l → P l :=
  update_all (P := fun _ x => ∀ l, x = some l → P l) ho (fun t _ => h t) t

/-! ### The invariant -/

/-- The books are in order, the leases are on resources that are registered, and the allocated
capacity is what is leased. -/
structure Inv (n : Node) : Prop where
  books : Books n.accounting
  shaped : ∀ s l, n.leases s = some l → Shaped l.allocatedCapacity
  registered : ∀ s l, n.leases s = some l → ∃ j : Fin 64, j.val < n.accounting.domainCount ∧
    (n.accounting.domains j).resourceId = l.resourceId
  exact : ∀ j : Fin 64, j.val < n.accounting.domainCount → ∀ i,
    ((n.accounting.domains j).capacity .alloc).dimensions i =
      leased n (n.accounting.domains j).resourceId i

lemma Inv.congr (h : Inv n) (hl : n'.leases = n.leases)
    (hm : SameDomains n.accounting n'.accounting) : Inv n' := by
  have hbooks := h.books.congr hm
  obtain ⟨hd, hc⟩ := hm
  refine ⟨hbooks, ?_, ?_, ?_⟩
  · rw [hl]
    exact h.shaped
  · rw [hl, hd, hc]
    exact h.registered
  rw [hd, hc]
  intro j hj i
  rw [leased_congr hl]
  exact h.exact j hj i

/-- One domain changes, together with what is leased of its resource. -/
lemma Inv.change (h : Inv n) (hj : j.val < n.accounting.domainCount)
    (hid : d.resourceId = (n.accounting.domains j).resourceId) (hb : Balanced d)
    (hu : d.writerLocked = false) (hm : SameDomains (replace n.accounting j d) n'.accounting)
    (hshaped : ∀ s l, n'.leases s = some l → Shaped l.allocatedCapacity ∧
      (l.resourceId = (n.accounting.domains j).resourceId ∨
        ∃ s l', n.leases s = some l' ∧ l'.resourceId = l.resourceId))
    (hself : ∀ i, (d.capacity .alloc).dimensions i =
      leased n' (n.accounting.domains j).resourceId i)
    (hother : ∀ id, id ≠ (n.accounting.domains j).resourceId → ∀ i,
      leased n' id i = leased n id i) : Inv n' := by
  have hbooks := (h.books.replace (j := j) hid hb hu).congr hm
  obtain ⟨hd, hc⟩ := hm
  have hids : ∀ k, (n'.accounting.domains k).resourceId = (n.accounting.domains k).resourceId := by
    rw [hd]
    exact update_keep AccountingDomain.resourceId hid
  have hcount : n'.accounting.domainCount = n.accounting.domainCount := hc
  refine ⟨hbooks, fun s l hs => (hshaped s l hs).1, fun s l hs => ?_, fun k hk i => ?_⟩
  · rcases (hshaped s l hs).2 with hres | ⟨s', l', hs', hres⟩
    · exact ⟨j, by rw [hcount]; exact hj, by rw [hids, hres]⟩
    obtain ⟨k, hk, hkid⟩ := h.registered s' l' hs'
    exact ⟨k, by rw [hcount]; exact hk, by rw [hids, hkid, hres]⟩
  rw [hcount] at hk
  rw [hids, hd]
  change ((update n.accounting.domains j d k).capacity .alloc).dimensions i = _
  by_cases hkj : k = j
  · rw [hkj, update_self]
    exact hself i
  have hne : (n.accounting.domains k).resourceId ≠ (n.accounting.domains j).resourceId :=
    fun he => hkj (h.books.distinct k j hk hj he)
  rw [update_of_ne hkj, hother _ hne]
  exact h.exact k hk i

/-! ### Leases that end -/

/-- A lease with another state, or none. -/
def Ended (l : ResourceLease) (o : Option ResourceLease) : Prop :=
  (∀ id i, share id i o = 0) ∧ ∀ l', o = some l' →
    l'.allocatedCapacity = l.allocatedCapacity ∧ l'.resourceId = l.resourceId

variable {s : Fin 256} {l : ResourceLease}

lemma leased_ended
    (hs : n.leases s = some l) (hact : l.state = .active) (ho : Ended l o) (i : Fin 8) :
    leased (n.setLease s o) l.resourceId i + l.allocatedCapacity.dimensions i =
      leased n l.resourceId i ∧
    ∀ id ≠ l.resourceId, leased (n.setLease s o) id i = leased n id i := by
  constructor
  · have hset := leased_setLease n s o l.resourceId i
    rw [hs, ho.1, share, if_pos ⟨hact, rfl⟩] at hset
    omega
  intro id hid
  have hset := leased_setLease n s o id i
  rw [hs, ho.1, share, if_neg fun hc => hid hc.2.symm] at hset
  omega

variable {dst : Column}

/-- **An active lease ends**: its amount leaves the allocated column, which does not fail. -/
lemma inv_ended (h : Inv n) (hs : n.leases s = some l) (hact : l.state = .active) (ho : Ended l o)
    (hdst : Column.alloc ≠ dst) :
    ∃ m, n.accounting.onDomain l.resourceId (move .alloc dst l.allocatedCapacity) =
        (some (.ok ()), m) ∧
      ∀ n' : Node, n'.leases = (n.setLease s o).leases → SameDomains m n'.accounting → Inv n' := by
  have hamt := h.shaped s l hs
  rcases onDomain_cases l.resourceId (move .alloc dst l.allocatedCapacity) n.accounting with
    ⟨-, hnone⟩ | ⟨j, hj, hid, he⟩
  · obtain ⟨j, hj, hid⟩ := h.registered s l hs
    exact absurd hid (hnone j hj)
  have hbal := h.books.balanced j hj
  have hthere : ∀ i, l.allocatedCapacity.dimensions i ≤
      ((n.accounting.domains j).capacity .alloc).dimensions i := by
    intro i
    have hshare := share_le_leased n s l.resourceId i
    rw [hs, share, if_pos ⟨hact, rfl⟩] at hshare
    rw [h.exact j hj i, hid]
    exact hshare
  rcases move_cases hbal hamt hdst with ⟨hc, -⟩ | ⟨d', hmove, hm⟩
  · exact absurd hthere hc
  rw [hmove] at he
  refine ⟨_, he, fun n' hl hsame => ?_⟩
  have hleased : ∀ id i, leased n' id i = leased (n.setLease s o) id i := fun id i =>
    leased_congr hl id i
  refine h.change hj (hm.resourceId) (hm.balanced hbal hdst)
    (hm.locked.trans (h.books.unlocked j hj)) hsame ?_ (fun i => ?_) (fun id hne i => ?_)
  · rw [hl]
    refine setLease_all (fun l' hl' => ?_) fun t l' ht => ⟨h.shaped t l' ht, .inr ⟨t, l', ht, rfl⟩⟩
    obtain ⟨hcap, hres⟩ := ho.2 l' hl'
    exact ⟨by rw [hcap]; exact hamt, .inr ⟨s, l, hs, hres.symm⟩⟩
  · have hleft := hm.left i
    have hexact := h.exact j hj i
    have hend := (leased_ended hs hact ho i).1
    rw [hid] at hexact ⊢
    rw [hleased]
    omega
  rw [hleased]
  exact (leased_ended hs hact ho i).2 id (by rw [← hid]; exact hne)

variable {st : LeaseState}

lemma ended_state (hst : st ≠ .active) : Ended l (some { l with state := st }) := by
  refine ⟨fun id i => if_neg fun hc => hst hc.1, fun l' he => ?_⟩
  cases he
  exact ⟨rfl, rfl⟩

lemma ended_none : Ended l none := by
  refine ⟨fun _ _ => rfl, fun l' he => ?_⟩
  cases he

lemma inv_loseLease (h : Inv n) {affected : ResourceLease → Bool}
    (haff : ∀ l, affected l → l.state = .active) (hst : st ≠ .active) (reason : ℕ)
    (s : Fin 256) : Inv (loseLease affected st reason true n s) := by
  unfold loseLease
  cases hs : n.leases s with
  | none => exact h
  | some l =>
    dsimp only
    split
    next hl =>
      obtain ⟨m, hm, hinv⟩ := inv_ended h hs (haff l hl) (ended_state hst)
        (by decide : Column.alloc ≠ Column.unavail)
      rw [if_pos rfl, quarantineAllocation, hm]
      exact hinv _ rfl (sameDomains_recordQuarantine _ _)
    · exact h

lemma inv_handleTimeAuthorityLoss (h : Inv n) : Inv (handleTimeAuthorityLoss n) :=
  List.foldlRecOn (motive := Inv) _ _ h fun _ hn s _ =>
    inv_loseLease hn (fun l hl => by simpa using hl) (by decide) 1 s

lemma inv_handlePeerClosed (h : Inv n) (handle : ℕ) : Inv (handlePeerClosed handle n) :=
  List.foldlRecOn (motive := Inv) _ _ h fun _ hn s _ =>
    inv_loseLease hn (fun l hl => by simp at hl; exact hl.2) (by decide) 3 s

lemma inv_releaseLease (h : Inv n) (id : DistributedId) (gen : BitVec 32) :
    Inv (releaseLease id gen n).2 ∧
      ∀ e, (releaseLease id gen n).1 = .error e → (releaseLease id gen n).2 = n := by
  unfold releaseLease
  cases hfind : n.findLease id with
  | none => exact ⟨h, fun _ _ => rfl⟩
  | some r =>
    obtain ⟨s, l⟩ := r
    have hs : n.leases s = some l := (Node.findLease_some hfind).1
    dsimp only
    iterate 2
      split
      · exact ⟨h, fun _ _ => rfl⟩
    rename_i hstate
    obtain ⟨m, hm, hinv⟩ := inv_ended h hs (not_not.mp hstate) ended_none
      (by decide : Column.alloc ≠ Column.avail)
    have haccounting : (n.setLease s (some { l with state := .released })).accounting =
        n.accounting := rfl
    rw [haccounting, releaseAllocation, hm]
    refine ⟨hinv _ ?_ (sameDomains_releaseQuota _ _ _), fun e he => by cases he⟩
    exact update_idem _ _ _

/-! ### The loss of the provider -/

/-- Without quarantine the losses change the state of the leases only. -/
lemma foldl_loseLease (affected : ResourceLease → Bool) (st : LeaseState) (reason : ℕ)
    (is : List (Fin 256)) (hnd : is.Nodup) (n : Node) :
    SameDomains n.accounting (is.foldl (loseLease affected st reason false) n).accounting ∧
      ∀ s, (is.foldl (loseLease affected st reason false) n).leases s =
        if s ∈ is then
          (n.leases s).map fun l => if affected l then { l with state := st } else l
        else n.leases s := by
  induction is generalizing n with
  | nil => exact ⟨⟨rfl, rfl⟩, fun s => by simp⟩
  | cons k is ih =>
    obtain ⟨hk, hnd⟩ := List.nodup_cons.mp hnd
    have hstep : SameDomains n.accounting (loseLease affected st reason false n k).accounting ∧
        (loseLease affected st reason false n k).leases = update n.leases k
          ((n.leases k).map fun l => if affected l then { l with state := st } else l) := by
      unfold loseLease
      cases hs : n.leases k with
      | none => exact ⟨⟨rfl, rfl⟩, eq_update_self_iff.mpr hs⟩
      | some l =>
        dsimp only
        split
        next hl =>
          exact ⟨sameDomains_recordQuarantine _ _, by rw [Option.map_some, if_pos hl]; rfl⟩
        rename_i hl
        exact ⟨⟨rfl, rfl⟩, eq_update_self_iff.mpr (by rw [hs, Option.map_some, if_neg hl])⟩
    obtain ⟨hsame, hleases⟩ := hstep
    obtain ⟨hsame', hleases'⟩ := ih hnd (loseLease affected st reason false n k)
    rw [List.foldl_cons]
    refine ⟨⟨hsame'.1.trans hsame.1, hsame'.2.trans hsame.2⟩, fun s => ?_⟩
    rw [hleases' s, hleases]
    by_cases hsk : s = k
    · subst hsk
      rw [if_neg hk, update_self, if_pos List.mem_cons_self]
    rw [update_of_ne hsk]
    simp only [List.mem_cons, hsk, false_or]

lemma inv_handleProviderLoss (h : Inv n) (res : DistributedId) :
    Inv (handleProviderLoss res n) := by
  unfold handleProviderLoss
  obtain ⟨hsame, hleases⟩ := foldl_loseLease (fun l => l.resourceId = res && l.state = .active)
    .providerLost 2 (List.finRange 256) (List.nodup_finRange 256)
    { n with accounting := (n.accounting.onDomain res quarantineOnProviderLost).2 }
  set n' := (List.finRange 256).foldl (loseLease (fun l => l.resourceId = res &&
    l.state = .active) .providerLost 2 false)
    { n with accounting := (n.accounting.onDomain res quarantineOnProviderLost).2 } with hn'
  have hl : ∀ s, n'.leases s = (n.leases s).map fun l =>
      if (l.resourceId = res && l.state = .active) = true then { l with state := .providerLost }
      else l := by
    intro s
    rw [hleases s, if_pos (List.mem_finRange s)]
  have hshare : ∀ id i s, share id i (n'.leases s) =
      if id = res then 0 else share id i (n.leases s) := by
    intro id i s
    rw [hl s]
    cases hs : n.leases s with
    | none => simp [share]
    | some l =>
      rw [Option.map_some]
      by_cases hlost : l.resourceId = res ∧ l.state = .active
      · rw [if_pos (by simpa using hlost), share, share, if_neg (by simp)]
        split
        · rfl
        rename_i hid
        exact (if_neg fun hc => hid (hc.2.symm.trans hlost.1)).symm
      rw [if_neg (by simpa using hlost)]
      split
      next hid =>
        exact if_neg fun hc => hlost ⟨hc.2.trans hid, hc.1⟩
      · rfl
  rcases onDomain_cases res quarantineOnProviderLost n.accounting with ⟨he, hnone⟩ | ⟨j, hj, hid, he⟩
  · rw [he] at hsame
    refine h.congr (funext fun s => ?_) hsame
    rw [hl s]
    cases hs : n.leases s with
    | none => rfl
    | some l =>
      obtain ⟨j, hj, hid⟩ := h.registered s l hs
      rw [Option.map_some, if_neg]
      intro hc
      simp only [Bool.and_eq_true, decide_eq_true_eq] at hc
      exact hnone j hj (hid.trans hc.1)
  have hbal := h.books.balanced j hj
  obtain ⟨d', hlost, hb, hres, hlock, hzero⟩ := quarantineOnProviderLost_ok hbal
  rw [he, hlost] at hsame
  refine h.change hj hres hb (hlock.trans (h.books.unlocked j hj)) hsame (fun s l hs => ?_)
    (fun i => ?_) (fun id hne i => ?_)
  · rw [hl s] at hs
    obtain ⟨l', hs', hmap⟩ := Option.map_eq_some_iff.mp hs
    have hsame : l.allocatedCapacity = l'.allocatedCapacity ∧ l.resourceId = l'.resourceId := by
      rw [← hmap]
      split <;> exact ⟨rfl, rfl⟩
    refine ⟨?_, .inr ⟨s, l', hs', hsame.2.symm⟩⟩
    rw [hsame.1]
    exact h.shaped s l' hs'
  · rw [hzero i, hid, leased]
    refine (Finset.sum_eq_zero fun s _ => ?_).symm
    rw [hshare, if_pos rfl]
  rw [leased, leased]
  refine Finset.sum_congr rfl fun s _ => ?_
  rw [hshare, if_neg (by rw [← hid]; exact hne)]

/-! ### Requests -/

/-- The entries of all columns are as they were; `dimension_count` of a column may have grown. -/
structure Kept (m m' : AccountingManager) : Prop where
  count : m'.domainCount = m.domainCount
  columns : ∀ j, (m'.domains j).physCapacity = (m.domains j).physCapacity ∧
    ∀ c i, ((m'.domains j).capacity c).dimensions i = ((m.domains j).capacity c).dimensions i

lemma SameDomains.kept (h : SameDomains m m') : Kept m m' := by
  obtain ⟨hd, hc⟩ := h
  refine ⟨hc, fun j => ?_⟩
  rw [hd]
  exact ⟨rfl, fun _ _ => rfl⟩

variable {q : LeaseRequest}

variable {amount phys : DimensionCapacityVector}

/-- The amount is in the allocated column of the domain `j`. -/
structure Admitted (n n' : Node) (id : DistributedId) (amount : DimensionCapacityVector) (j : Fin 64)
    (d' : AccountingDomain) : Prop where
  leases : n'.leases = n.leases
  valid : j.val < n.accounting.domainCount
  resourceId : (n.accounting.domains j).resourceId = id
  moved : Moved .avail .alloc amount (n.accounting.domains j) d'
  same : SameDomains (replace n.accounting j d') n'.accounting

/-- **A request** is refused, or its amount is moved to the allocated column. -/
lemma admitRequest_cases (h : Inv n) (hq : Shaped q.requestedAmount) :
    (∃ e n', admitRequest q n = (.error e, n') ∧ n'.leases = n.leases ∧
        SameDomains n.accounting n'.accounting) ∨
      ∃ n' j d', admitRequest q n = (.ok (), n') ∧
        Admitted n n' q.resourceId q.requestedAmount j d' := by
  unfold admitRequest
  have hquota := sameDomains_checkAndChargeQuota q.entityId q.requestedAmount n.accounting
  generalize n.accounting.checkAndChargeQuota q.entityId q.requestedAmount = r at hquota
  obtain ⟨r, m⟩ := r
  obtain ⟨hd, hc⟩ : m.domains = n.accounting.domains ∧ m.domainCount = n.accounting.domainCount :=
    hquota
  cases r with
  | error e => exact .inl ⟨e, _, rfl, rfl, hd, hc⟩
  | ok u =>
    dsimp only
    rcases onDomain_cases q.resourceId (admitAllocation q.requestedAmount q.coupling) m with
      ⟨he, -⟩ | ⟨j, hj, hid, he⟩
    · rw [he]
      exact .inl ⟨_, _, rfl, rfl, hd, hc⟩
    rw [hc] at hj
    rw [hd] at hid he
    rw [he]
    rcases admitAllocation_cases (h.books.balanced j hj) (h.books.unlocked j hj) hq q.coupling with
      ⟨e, hadm⟩ | ⟨d', hadm, hm⟩
    · rw [hadm]
      have hback := sameDomains_releaseQuota q.entityId q.requestedAmount
        (replace m j (n.accounting.domains j))
      rw [← hd, replace_self] at hback
      refine .inl ⟨e, _, rfl, rfl, ?_⟩
      rw [← hd, replace_self]
      exact ⟨hback.1.trans hd, hback.2.trans hc⟩
    rw [hadm]
    refine .inr ⟨_, j, d', rfl, rfl, hj, hid, hm, ?_, hc⟩
    dsimp only [replace]
    rw [hd]

lemma moved_back {d'' : AccountingDomain}
    (h : Moved .avail .alloc amount d d') (h' : Moved .alloc .avail amount d' d'') (c : Column)
    (i : Fin 8) : (d''.capacity c).dimensions i = (d.capacity c).dimensions i := by
  have h1 := h.left i
  have h2 := h.entered i
  have h3 := h'.left i
  have h4 := h'.entered i
  cases c with
  | avail => omega
  | alloc => omega
  | resv => rw [h'.other .resv (by decide) (by decide), h.other .resv (by decide) (by decide)]
  | unavail =>
    rw [h'.other .unavail (by decide) (by decide), h.other .unavail (by decide) (by decide)]

/-- The table of leases is full: the amount goes back. -/
lemma inv_withdrawRequest (h : Inv n) (hq : Shaped q.requestedAmount)
    (ha : Admitted n n' q.resourceId q.requestedAmount j d') :
    Inv (withdrawRequest q n') ∧ Kept n.accounting (withdrawRequest q n').accounting := by
  obtain ⟨hl, hj, hid, hm, hd, hc⟩ := ha
  have hbal := hm.balanced (h.books.balanced j hj) (by decide)
  have hu : d'.writerLocked = false := hm.locked.trans (h.books.unlocked j hj)
  have hbooks := h.books.replace hm.resourceId hbal hu
  have hself : (replace n.accounting j d').domains j = d' := update_self _ _ _
  -- the domain that is found is the one that was charged
  have hback : ∃ d'', Moved .alloc .avail q.requestedAmount d' d'' ∧
      (n'.accounting.onDomain q.resourceId (releaseAllocation q.requestedAmount)).2 =
        replace n'.accounting j d'' := by
    rcases onDomain_cases q.resourceId (releaseAllocation q.requestedAmount) n'.accounting with
      ⟨-, hnone⟩ | ⟨k, hk, hkid, he⟩
    · refine absurd ?_ (hnone j (by rw [hc]; exact hj))
      rw [hd, hself, hm.resourceId, hid]
    rw [hc] at hk
    rw [hd] at hkid he
    have hkj : k = j := hbooks.distinct k j hk hj (by rw [hkid, hself, hm.resourceId, hid])
    subst hkj
    rw [hself] at he
    rcases move_cases hbal hq (by decide : Column.alloc ≠ Column.avail) with
      ⟨hno, -⟩ | ⟨d'', hmove, hm'⟩
    · refine absurd (fun i => ?_) hno
      rw [hm.entered i]
      exact Nat.le_add_left _ _
    rw [releaseAllocation, hmove] at he
    exact ⟨d'', hm', by rw [releaseAllocation, he]⟩
  obtain ⟨d'', hm', he⟩ := hback
  have hcols := moved_back hm hm'
  have hfinal : SameDomains (replace n.accounting j d'') (withdrawRequest q n').accounting := by
    unfold withdrawRequest
    rw [he]
    obtain ⟨hrd, hrc⟩ := sameDomains_releaseQuota q.entityId q.requestedAmount
      (replace n'.accounting j d'')
    refine ⟨hrd.trans ?_, hrc.trans hc⟩
    dsimp only [replace]
    rw [hd]
    dsimp only [replace]
    rw [update_idem]
  have hleases : (withdrawRequest q n').leases = n.leases := hl
  constructor
  · refine h.change hj (hm'.resourceId.trans hm.resourceId) (hm'.balanced hbal (by decide))
      (hm'.locked.trans hu) hfinal (fun s l hs => ?_) (fun i => ?_) (fun id _ i => ?_)
    · rw [hleases] at hs
      exact ⟨h.shaped s l hs, .inr ⟨s, l, hs, rfl⟩⟩
    · rw [hcols, leased_congr hleases]
      exact h.exact j hj i
    · exact leased_congr hleases id i
  obtain ⟨hfd, hfc⟩ := hfinal
  refine ⟨hfc, fun k => ?_⟩
  rw [hfd]
  dsimp only [replace]
  by_cases hk : k = j
  · rw [hk, update_self]
    exact ⟨hm'.phys.trans hm.phys, hcols⟩
  rw [update_of_ne hk]
  exact ⟨rfl, fun _ _ => rfl⟩

lemma inv_grant (h : Inv n) (hl : Shaped l.allocatedCapacity)
    (hact : l.state = .active) (ha : Admitted n n' l.resourceId l.allocatedCapacity j d')
    (hs : n.leases s = none) (count : ℕ) :
    Inv { n'.setLease s (some l) with leaseCount := count } := by
  obtain ⟨hleases, hj, hid, hm, hsame⟩ := ha
  have hset : ∀ id i, leased { n'.setLease s (some l) with leaseCount := count } id i =
      leased n id i + share id i (some l) := by
    intro id i
    have hchange := leased_setLease n s (some l) id i
    have hnone : share id i none = 0 := rfl
    rw [hs, hnone, Nat.add_zero] at hchange
    rw [← hchange]
    refine leased_congr ?_ id i
    change update n'.leases s (some l) = update n.leases s (some l)
    rw [hleases]
  refine h.change hj hm.resourceId (hm.balanced (h.books.balanced j hj) (by decide))
    (hm.locked.trans (h.books.unlocked j hj)) hsame ?_ (fun i => ?_) (fun id hne i => ?_)
  · refine setLease_all (n := n') (fun l' hl' => ?_) (fun t l' ht => ?_)
    · cases hl'
      exact ⟨hl, .inl hid.symm⟩
    rw [hleases] at ht
    exact ⟨h.shaped t l' ht, .inr ⟨t, l', ht, rfl⟩⟩
  · rw [hset, hm.entered i, h.exact j hj i, hid, share, if_pos ⟨hact, rfl⟩]
  · rw [hset, share, if_neg fun hc => hne (hc.2.symm.trans hid.symm), Nat.add_zero]

lemma inv_requestLease (h : Inv n) (hq : Shaped q.requestedAmount) :
    Inv (requestLease q n).2 ∧ ∀ e, (requestLease q n).1 = .error e →
      Kept n.accounting (requestLease q n).2.accounting := by
  have hkept : Kept n.accounting n.accounting := SameDomains.kept ⟨rfl, rfl⟩
  unfold requestLease
  iterate 2
    split
    · exact ⟨h, fun _ _ => hkept⟩
  rcases admitRequest_cases h hq with ⟨e, n', he, hl, hsame⟩ | ⟨n', j, d', he, ha⟩
  · rw [he]
    exact ⟨h.congr hl hsame, fun _ _ => hsame.kept⟩
  rw [he]
  dsimp only
  cases hslot : n'.freeSlot with
  | none =>
    obtain ⟨hinv, hback⟩ := inv_withdrawRequest h hq ha
    exact ⟨hinv, fun _ _ => hback⟩
  | some s =>
    have hempty : n.leases s = none := by
      have hfree := List.find?_some hslot
      rw [ha.leases] at hfree
      simpa using hfree
    exact ⟨inv_grant h (l := q.lease _) hq rfl ha hempty _, nofun⟩

/-! ### The other calls -/

/-- A call that moves an amount outside the allocated column. -/
lemma inv_onDomain_move (h : Inv n) (ha : Shaped amount)
    {src : Column} (hne : src ≠ dst) (hsrc : .alloc ≠ src) (hdst : .alloc ≠ dst)
    (res : DistributedId) :
    Inv { n with accounting := (n.accounting.onDomain res (move src dst amount)).2 } ∧
      ∀ e, (n.accounting.onDomain res (move src dst amount)).1.getD (.error .notFound) = .error e →
        (n.accounting.onDomain res (move src dst amount)).2 = n.accounting := by
  rcases onDomain_cases res (move src dst amount) n.accounting with ⟨he, -⟩ | ⟨j, hj, hid, he⟩
  · rw [he]
    exact ⟨h.congr rfl ⟨rfl, rfl⟩, fun _ _ => rfl⟩
  have hbal := h.books.balanced j hj
  rw [he]
  rcases move_cases hbal ha hne with ⟨-, e, hmove⟩ | ⟨d', hmove, hm⟩
  · rw [hmove, replace_self]
    exact ⟨h.congr rfl ⟨rfl, rfl⟩, fun _ _ => rfl⟩
  rw [hmove]
  refine ⟨?_, fun e he => by cases he⟩
  refine h.change hj hm.resourceId (hm.balanced hbal hne)
    (hm.locked.trans (h.books.unlocked j hj)) ⟨rfl, rfl⟩ (fun s l hs => ?_) (fun i => ?_)
    (fun _ _ _ => rfl)
  · exact ⟨h.shaped s l hs, .inr ⟨s, l, hs, rfl⟩⟩
  rw [hm.other .alloc hsrc hdst]
  exact h.exact j hj i

lemma balanced_new (hphys : Shaped phys)
    (h : AccountingDomain.new id phys = .ok d) : Balanced d ∧ d.resourceId = id ∧
      d.writerLocked = false ∧ d.capacity .alloc = .empty := by
  unfold AccountingDomain.new at h
  split at h
  · cases h
  obtain ⟨_, -, hd⟩ := bind_eq_ok h
  cases hd
  refine ⟨⟨hphys, fun c => ?_, fun i => ?_⟩, rfl, rfl, rfl⟩
  · dsimp only
    split
    · exact hphys
    · exact shaped_empty
  · simp [total, DimensionCapacityVector.empty]

lemma leased_unregistered (h : Inv n) (hid : ∀ j : Fin 64, j.val < n.accounting.domainCount →
    (n.accounting.domains j).resourceId ≠ id) (i : Fin 8) : leased n id i = 0 := by
  rw [leased]
  refine Finset.sum_eq_zero fun s _ => ?_
  cases hs : n.leases s with
  | none => rfl
  | some l =>
    obtain ⟨j, hj, hj'⟩ := h.registered s l hs
    exact if_neg fun hc => hid j hj (hj'.trans hc.2)

lemma inv_registerDomain (h : Inv n) (hphys : Shaped phys)
    (hid : ∀ j : Fin 64, j.val < n.accounting.domainCount →
      (n.accounting.domains j).resourceId ≠ id) :
    Inv { n with accounting := (n.accounting.registerDomain id phys).2 } ∧
      ∀ e, (n.accounting.registerDomain id phys).1 = .error e →
        (n.accounting.registerDomain id phys).2 = n.accounting := by
  unfold registerDomain
  split
  next hroom =>
    split
    · exact ⟨h.congr rfl ⟨rfl, rfl⟩, fun _ _ => rfl⟩
    rename_i d hnew
    obtain ⟨hb, hres, hu, hzero⟩ := balanced_new hphys hnew
    refine ⟨?_, fun e he => by cases he⟩
    -- a domain is an old one or the new one, which is the last
    have hold : ∀ k : Fin 64, k.val < n.accounting.domainCount →
        update n.accounting.domains ⟨n.accounting.domainCount, hroom⟩ d k =
          n.accounting.domains k := by
      intro k hk
      exact update_of_ne (fun he => by rw [he] at hk; simp at hk) _ _
    have hdom : ∀ {P : Fin 64 → AccountingDomain → Prop}, P ⟨n.accounting.domainCount, hroom⟩ d →
        (∀ k : Fin 64, k.val < n.accounting.domainCount → P k (n.accounting.domains k)) →
        ∀ k : Fin 64, k.val < n.accounting.domainCount + 1 →
          P k (update n.accounting.domains ⟨n.accounting.domainCount, hroom⟩ d k) :=
      fun hd h k hk => update_all (P := fun k x => k.val < n.accounting.domainCount + 1 → _)
        (fun _ => hd) (fun k hne hk => h k (Nat.lt_of_le_of_ne (Nat.le_of_lt_succ hk)
          fun he => hne (Fin.ext he))) k hk
    refine ⟨⟨fun k l hk => hdom (P := fun l x => _ = x.resourceId → k = l) ?_ ?_ l, hdom hb
      h.books.balanced, hdom (P := fun _ x => x.writerLocked = false) hu h.books.unlocked⟩,
      h.shaped, fun s l hs => ?_, fun k hk i => ?_⟩
    · exact hdom (P := fun k x => x.resourceId = d.resourceId → k = _) (fun _ => rfl)
        (fun k hk he => absurd (he.trans hres) (hid k hk)) k hk
    · intro l hl
      exact hdom (P := fun k x => x.resourceId = _ → k = l)
        (fun he => absurd (he.symm.trans hres) (hid l hl))
        (fun k hk' he => h.books.distinct k l hk' hl he) k hk
    · obtain ⟨k, hk, hk'⟩ := h.registered s l hs
      exact ⟨k, Nat.lt_succ_of_lt hk, by dsimp only; rw [hold k hk, hk']⟩
    refine Eq.trans ?_ (leased_congr (n := n) rfl _ i).symm
    refine hdom (P := fun _ x => (x.capacity .alloc).dimensions i = leased n x.resourceId i)
      ?_ (fun k hk => h.exact k hk i) k hk
    rw [hres, leased_unregistered h hid, hzero]
    rfl
  · exact ⟨h.congr rfl ⟨rfl, rfl⟩, fun _ _ => rfl⟩

lemma inv_touch (h : Inv n) {l' : ResourceLease} (hs : n.leases s = some l)
    (hres : l'.resourceId = l.resourceId) (hstate : l'.state = l.state)
    (hcap : l'.allocatedCapacity = l.allocatedCapacity) : Inv (n.setLease s (some l')) := by
  have hleased : ∀ id i, leased (n.setLease s (some l')) id i = leased n id i := by
    intro id i
    have hset := leased_setLease n s (some l') id i
    have hshare : share id i (some l') = share id i (n.leases s) := by
      rw [hs, share, share, hres, hstate, hcap]
    omega
  refine ⟨h.books, setLease_all ?_ h.shaped, setLease_all ?_ h.registered, fun j hj i => ?_⟩
  · rintro _ ⟨⟩
    rw [hcap]
    exact h.shaped s l hs
  · rintro _ ⟨⟩
    rw [hres]
    exact h.registered s l hs
  rw [hleased]
  exact h.exact j hj i

lemma inv_renewLease (h : Inv n) (id : DistributedId) (gen : BitVec 32) (dur tick : ℕ) :
    Inv (renewLease id gen dur tick n).2 ∧
      (renewLease id gen dur tick n).2.accounting = n.accounting := by
  unfold renewLease
  cases hfind : n.findLease id with
  | none => exact ⟨h, rfl⟩
  | some r =>
    obtain ⟨s, l⟩ := r
    dsimp only
    iterate 3
      split
      · exact ⟨h, rfl⟩
    · exact ⟨inv_touch h (Node.findLease_some hfind).1 rfl rfl rfl, rfl⟩

lemma inv_reconcile (h : Inv n) (id : DistributedId) (tick window : ℕ) :
    Inv (reconcileSurvivingLease id tick window n).2 ∧
      (reconcileSurvivingLease id tick window n).2.accounting = n.accounting := by
  unfold reconcileSurvivingLease
  cases hfind : n.findLease id with
  | none => exact ⟨h, rfl⟩
  | some r =>
    obtain ⟨s, l⟩ := r
    dsimp only
    split
    · exact ⟨h, rfl⟩
    · exact ⟨inv_touch h (Node.findLease_some hfind).1 rfl rfl rfl, rfl⟩

/-! ### Runs -/

/-- The call registers a new resource, and its vectors are well formed. -/
def Admissible (n : Node) : Call → Prop
  | .registerDomain id phys => Shaped phys ∧ ∀ j : Fin 64, j.val < n.accounting.domainCount →
      (n.accounting.domains j).resourceId ≠ id
  | .request q => Shaped q.requestedAmount
  | .confirmDriverRelease _ amount => Shaped amount
  | .reserve _ amount => Shaped amount
  | _ => True

/-- **One call** keeps the books; if it fails, the columns stay as they were. -/
lemma inv_run (h : Inv n) {c : Call} (hc : Admissible n c) :
    Inv (c.run n).2 ∧ ∀ e, (c.run n).1 = .error e → Kept n.accounting (c.run n).2.accounting := by
  have hkept : Kept n.accounting n.accounting := SameDomains.kept ⟨rfl, rfl⟩
  have hsame : ∀ m : AccountingManager, m = n.accounting → Kept n.accounting m := fun m hm => by
    rw [hm]
    exact hkept
  cases c with
  | registerDomain id phys =>
    obtain ⟨hinv, hfail⟩ := inv_registerDomain h hc.1 hc.2
    refine ⟨hinv, fun e he => hsame _ ?_⟩
    cases hr : (n.accounting.registerDomain id phys).1 with
    | error e' => exact hfail e' hr
    | ok j =>
      rw [Call.run] at he
      dsimp only at he
      rw [hr] at he
      cases he
  | setQuota e cap =>
    have hquota := sameDomains_setQuota e cap n.accounting
    exact ⟨h.congr rfl hquota, fun _ _ => hquota.kept⟩
  | request q =>
    obtain ⟨hinv, hfail⟩ := inv_requestLease h hc
    refine ⟨hinv, fun e he => ?_⟩
    rw [Call.run] at he ⊢
    cases hr : (requestLease q n).1 with
    | error e' => exact hfail e' hr
    | ok l =>
      rw [hr] at he
      cases he
  | release id gen =>
    obtain ⟨hinv, hfail⟩ := inv_releaseLease h id gen
    refine ⟨hinv, fun e he => ?_⟩
    rw [Call.run, hfail e he]
    exact hkept
  | renew id gen dur tick =>
    obtain ⟨hinv, hacc⟩ := inv_renewLease h id gen dur tick
    exact ⟨hinv, fun _ _ => hsame _ hacc⟩
  | timeAuthorityLoss =>
    rw [Call.run]
    dsimp only
    exact ⟨inv_handleTimeAuthorityLoss h, nofun⟩
  | providerLoss res =>
    rw [Call.run]
    dsimp only
    exact ⟨inv_handleProviderLoss h res, nofun⟩
  | peerClosed handle =>
    rw [Call.run]
    dsimp only
    exact ⟨inv_handlePeerClosed h handle, nofun⟩
  | confirmDriverRelease res amount =>
    obtain ⟨hinv, hfail⟩ := inv_onDomain_move h hc (by decide : Column.unavail ≠ Column.avail)
      (by decide) (by decide) res
    rw [Call.run, LeaseEngine.confirmDriverRelease, confirmPhysicalRelease]
    generalize n.accounting.onDomain res (move .unavail .avail amount) = r at hinv hfail
    obtain ⟨r, m⟩ := r
    cases r with
    | none | some => exact ⟨hinv, fun e he => hsame _ (hfail e he)⟩
  | reserve res amount =>
    obtain ⟨hinv, hfail⟩ := inv_onDomain_move h hc (by decide : Column.avail ≠ Column.resv)
      (by decide) (by decide) res
    exact ⟨hinv, fun e he => hsame _ (hfail e he)⟩
  | reconcile id tick window =>
    obtain ⟨hinv, hacc⟩ := inv_reconcile h id tick window
    exact ⟨hinv, fun _ _ => hsame _ hacc⟩

abbrev Reachable : Node → Prop :=
  Reach (· = Node.new) fun n n' => ∃ c : Call, Admissible n c ∧ n' = (c.run n).2

lemma inv_new : Inv Node.new := by
  have hno : ∀ {P : Prop} {j : Fin 64}, j.val < Node.new.accounting.domainCount → P := fun hj =>
    absurd hj (Nat.not_lt_zero _)
  exact ⟨⟨fun _ _ => hno, fun _ => hno, fun _ => hno⟩, nofun, nofun, fun _ => hno⟩

lemma Reachable.inv (h : Reachable n) : Inv n := by
  refine Reach.invariant (I := Inv) (fun n hn => ?_) (fun n n' hi hs => ?_) h
  · rw [hn]
    exact inv_new
  obtain ⟨c, hc, rfl⟩ := hs
  exact (inv_run hi hc).1

/-- **Lease accounting is exact.** After any run of calls, the columns of every registered domain add
up to its physical capacity, the allocated one is the sum over its active leases, and no domain is
locked; and a call that fails leaves the columns of all domains as they were. -/
theorem accounting_exact (h : Reachable n) :
    (∀ j : Fin 64, j.val < n.accounting.domainCount → ∀ i,
      total (n.accounting.domains j) i = (n.accounting.domains j).physCapacity.dimensions i ∧
      ((n.accounting.domains j).capacity .alloc).dimensions i =
        leased n (n.accounting.domains j).resourceId i ∧
      (n.accounting.domains j).writerLocked = false) ∧
    ∀ c : Call, Admissible n c → ∀ e, (c.run n).1 = .error e →
      Kept n.accounting (c.run n).2.accounting := by
  have hinv := Reachable.inv h
  exact ⟨fun j hj i => ⟨(hinv.books.balanced j hj).sum_eq i, hinv.exact j hj i,
    hinv.books.unlocked j hj⟩, fun c hc => (inv_run hinv hc).2⟩

open scoped DimensionCapacityVector

lemma shaped_single {amount : ℕ} (h : amount < 2 ^ 64) : Shaped (.single amount) := by
  refine ⟨show 1 ≤ 8 by decide, fun i hi => if_neg ?_, fun i => ?_⟩
  · rintro rfl
    exact absurd hi (show ¬1 ≤ 0 by decide)
  dsimp only [DimensionCapacityVector.single]
  split
  · exact h
  · exact Nat.two_pow_pos 64

/-- Four units of ten are leased. -/
theorem accounting_exact_leased : let q : LeaseRequest :=
      { leaseId := ⟨1, 2⟩, resourceId := ⟨1, 1⟩, entityId := 5, clientChannelHandle := 3,
        requestedAmount := .single 4, durationTicks := 100, currentTick := 7,
        callerHasCoverage := true, coupling := none }
    let n := ((Call.request q).run ((Call.registerDomain ⟨1, 1⟩ (.single 10)).run .new).2).2
    ((n.accounting.domains 0).capacity .alloc).dimensions 0 = 4 ∧ leased n ⟨1, 1⟩ 0 = 4 := by
  intro q n
  have hreg : Reachable ((Call.registerDomain ⟨1, 1⟩ (.single 10)).run .new).2 :=
    .next (.start rfl) ⟨.registerDomain ⟨1, 1⟩ (.single 10), ⟨shaped_single (by decide),
      fun j hj => absurd hj (Nat.not_lt_zero _)⟩, rfl⟩
  have hn : Reachable n := .next hreg ⟨.request q, shaped_single (by decide), rfl⟩
  have halloc : ((n.accounting.domains 0).capacity .alloc).dimensions 0 = 4 := by decide +kernel
  have hid : (n.accounting.domains 0).resourceId = ⟨1, 1⟩ := by decide +kernel
  have hexact := ((accounting_exact hn).1 0 (by decide +kernel) 0).2.1
  rw [hid, halloc] at hexact
  exact ⟨halloc, hexact.symm⟩

end ProjectZero.Libzero.Conservation
