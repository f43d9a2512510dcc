import ProjectZero.Cap.Invariant

/-! # The operations keep the invariant

One lemma per operation: it ends, the tables it leaves are well-formed, and it only grants what its
source already had (`Grants`): an entry occupied before and after is the same entry, and a newly
occupied entry is a new root or inherits from the source. -/

namespace ProjectZero.Cap.Calls

open Lib.Tree Lib.Run Tables Cap.Node Ops Relink RevokeLoop Invariant Ipc.Object

/-- The tables hold well-formed capabilities. -/
abbrev Sound (k : Kernel) : Prop := WellFormed k.entry k.node

/-- Where the capability comes from that a call installs. -/
inductive Source
  | created (i : ObjIdx) (rights : Rights) (endpoint : ℕ)
  | slot (q : Slot)
  | nothing

/-- The entry is one that the source can give. -/
def Source.Gives (k : Kernel) (e : HandleEntry) : Source → Prop
  | .created i rights endpoint =>
    e.objectIndex = i ∧ e.objectGeneration = (k.object i).generation ∧ e.rights = rights ∧
      e.endpoint = endpoint
  | .slot q => Live k.entry q ∧ Inherits e (k.entry q)
  | .nothing => False

/-- From `k` to `k'`, occupied entries stay the same or are vacated, and a new entry is given by the
source. -/
def Grants (src : Source) (k k' : Kernel) : Prop :=
  ∀ s, Live k'.entry s → (Live k.entry s ∧ k'.entry s = k.entry s) ∨
    (¬ Live k.entry s ∧ src.Gives k (k'.entry s))

/-- A call from `k` that keeps the invariant. -/
structure Safe (src : Source) (k k' : Kernel) : Prop where
  sound : Sound k'
  grants : Grants src k k'

variable {k k' : Kernel}

lemma Sound.of_same (h : Sound k) (hs : SameHandles k k') : Sound k' := by
  unfold Sound
  rw [hs.entry, hs.node]
  exact h

variable {src : Source}

lemma grants_of_entry (h : k'.entry = k.entry) : Grants src k k' := by
  intro s hs
  rw [h] at hs ⊢
  exact .inl ⟨hs, rfl⟩

lemma Safe.refl (h : Sound k) : Safe src k k :=
  ⟨h, grants_of_entry rfl⟩

lemma Safe.of_same {k'' : Kernel} (h : Safe src k k')
    (hs : SameHandles k' k'') : Safe src k k'' := by
  refine ⟨h.sound.of_same hs, fun s hl => ?_⟩
  rw [hs.entry] at hl ⊢
  exact h.grants s hl

/-! ### Installation -/

lemma allocateCapabilityId_cases (k : Kernel) :
    (∃ e, allocateCapabilityId k = (.error e, k)) ∨
      ∃ id, allocateCapabilityId k =
        (.ok id, { k with nextCapabilityId := k.nextCapabilityId + 1 }) := by
  unfold allocateCapabilityId
  split
  · exact .inl ⟨_, rfl⟩
  · exact .inr ⟨_, rfl⟩

lemma addHandleRef_same (k : Kernel) (i : ObjIdx) (s : Slot) :
    Ends (fun r => SameHandles k r.2) (addHandleRef k i s) := by
  unfold addHandleRef
  simp only
  split
  · exact .refl k
  · exact ⟨rfl, rfl, rfl⟩

lemma grants_fill {d : Slot} (hd : ¬Live k.entry d)
    {e : HandleEntry} (he : k'.entry = update k.entry d e) (hsrc : src.Gives k e) :
    Grants src k k' := by
  intro s hs
  by_cases hsd : s = d
  · subst hsd
    rw [he, update_self]
    exact .inr ⟨hd, hsrc⟩
  unfold Live at hs
  rw [he, update_of_ne hsd] at hs ⊢
  exact .inl ⟨hs, rfl⟩

abbrev takeId (k : Kernel) : Kernel := { k with nextCapabilityId := k.nextCapabilityId + 1 }

lemma transferMove_cases (k : Kernel) (src : Slot) (dst : PSlot) :
    (∃ e, transferMoveLocked k src dst = fail e k) ∨ ∃ d id,
      transferMoveLocked k src dst = installMovedCapabilityLocked (takeId k) (dst, d) src id := by
  unfold transferMoveLocked
  simp only
  iterate 4
    split
    · exact .inl ⟨_, rfl⟩
  rename_i d _
  rcases allocateCapabilityId_cases k with ⟨e, he⟩ | ⟨id, hid⟩
  · rw [he]
    exact .inl ⟨e, rfl⟩
  · rw [hid]
    exact .inr ⟨d, id, rfl⟩

lemma installRoot_cases (k : Kernel) (s : Slot) (i : ObjIdx) (rights : Rights) (endpoint : ℕ) :
    (∃ e, installRootCapabilityLocked k s i rights endpoint = fail e k) ∨
    installRootCapabilityLocked k s i rights endpoint = .error .panic ∨
    ∃ id, (k.object i).occupied ∧ ¬Live k.entry s ∧
      installRootCapabilityLocked k s i rights endpoint =
        addHandleRef (plantRoot (takeId k) s i rights endpoint id) i s := by
  unfold installRootCapabilityLocked
  split
  · exact .inr (.inl rfl)
  rename_i hi
  rcases allocateCapabilityId_cases k with ⟨e, he⟩ | ⟨id, hid⟩
  · rw [he]
    exact .inl ⟨e, rfl⟩
  rw [hid]
  simp only
  split
  · exact .inr (.inl rfl)
  rename_i hocc
  exact .inr (.inr ⟨id, by simpa using hi, hocc, rfl⟩)

/-- The checks that a derivation from `q` passes. -/
structure Derivable (k : Kernel) (q : Slot) (rights : Rights) : Prop where
  live : Live k.entry q
  unrevoked : (k.node q).isRevoked = false
  duplicable : (k.entry q).rights &&& (CapRights.duplicate ||| HandleRights.duplicate) ≠ 0
  rights : RightsSubset rights (k.entry q).rights
  depth : (k.node q).derivationDepth < maxDerivationDepth
  object : (k.object (k.entry q).objectIndex).occupied
  generation : (k.object (k.entry q).objectIndex).generation = (k.entry q).objectGeneration

/-- What the installation of a derived capability does: it is refused exactly when a check fails or
there is no identifier left. -/
lemma installDerived_cases (k : Kernel) (d q : Slot) (rights : Rights) :
    (∃ e, (Derivable k q rights → k.nextCapabilityId = 2 ^ 64 - 1) ∧
      installDerivedCapabilityLocked k d q rights = fail e k) ∨
    Live k.entry d ∧ installDerivedCapabilityLocked k d q rights = .error .panic ∨
    Derivable k q rights ∧ k.nextCapabilityId ≠ 2 ^ 64 - 1 ∧ ¬Live k.entry d ∧
      installDerivedCapabilityLocked k d q rights =
        addHandleRef (plantDerived (takeId k) d q rights k.nextCapabilityId)
          (k.entry q).objectIndex d := by
  unfold installDerivedCapabilityLocked allocateCapabilityId
  simp only
  split
  next hocc =>
    exact .inl ⟨_, fun hq => absurd hq.live (by simp [Live, hocc]), rfl⟩
  split
  next hrev =>
    exact .inl ⟨_, fun hq => by simp [hq.unrevoked] at hrev, rfl⟩
  split
  next hdup =>
    exact .inl ⟨_, fun hq => absurd hdup hq.duplicable, rfl⟩
  split
  next hsub =>
    exact .inl ⟨_, fun hq => absurd hq.rights hsub, rfl⟩
  split
  next hdepth =>
    exact .inl ⟨_, fun hq => absurd hq.depth (not_lt.mpr hdepth), rfl⟩
  split
  next hobj =>
    exact .inl ⟨_, fun hq => by simp [hq.object, hq.generation] at hobj, rfl⟩
  rename_i hocc hrev hdup hsub hdepth hobj
  split
  next hid =>
    split at hid
    next hlast =>
      cases hid
      exact .inl ⟨_, fun _ => hlast, rfl⟩
    · cases hid
  rename_i hid
  split at hid
  · cases hid
  rename_i hlast
  cases hid
  simp only [not_or, Bool.not_eq_false, not_not] at hobj
  split
  next hd =>
    exact .inr (.inl ⟨hd, rfl⟩)
  rename_i hd
  exact .inr (.inr ⟨⟨by simpa [Live] using hocc, by simpa using hrev, hdup,
    by simpa [RightsSubset] using hsub, by omega, hobj.1, hobj.2⟩, hlast, hd, rfl⟩)

/-- The tables after the capability of `x` was handed on to `d`. -/
def plantMoved (k : Kernel) (d x : Slot) (node : NodeTable) : Kernel :=
  incrCount { invalidate (fillEntry k d (k.entry x).objectIndex (k.entry x).objectGeneration
    (k.entry x).rights (k.entry x).endpoint) x with node := node } d.1

lemma installMoved_cases (h : Sound k) (d x : Slot) (id : ℕ) :
    installMovedCapabilityLocked k d x id = .error .panic ∨
    ∃ node, Live k.entry x ∧ ¬Live k.entry d ∧
      (Moved (Live k.entry) k.node node d x (k.entry d).handleGeneration id ∧
        Relabelled (Live k.entry) k.node node d x) ∧
      installMovedCapabilityLocked k d x id =
        done (Handle.new (BitVec.ofNat 16 d.2) (k.entry d).handleGeneration)
          (plantMoved k d x node) := by
  unfold installMovedCapabilityLocked
  simp only
  split
  · exact .inl rfl
  rename_i hc
  simp only [not_or, Bool.not_eq_false] at hc
  obtain ⟨hx, -, hd⟩ := hc
  obtain ⟨node, hn, hm⟩ := moveNode_spec h.forest hd hx (k.entry d).handleGeneration id
  rw [hn]
  exact .inr ⟨node, hx, hd, hm, rfl⟩

section Moved

variable {k : Kernel} {d x : Slot} (node : NodeTable)

lemma plantMoved_dst (hx : Live k.entry x) (hd : ¬Live k.entry d) :
    (plantMoved k d x node).entry d =
      { k.entry x with handleGeneration := (k.entry d).handleGeneration } := by
  have hxd : d ≠ x := fun e => hd (e ▸ hx)
  have hx' : (k.entry x).occupied := hx
  simp only [plantMoved, incrCount, invalidate, fillEntry, update_of_ne hxd, update_self]
  rw [← hx']

lemma plantMoved_src (hx : Live k.entry x) (hd : ¬Live k.entry d) :
    (plantMoved k d x node).entry x = vacate (k.entry x) := by
  have hxd : x ≠ d := fun e => hd (e ▸ hx)
  simp [plantMoved, incrCount, invalidate, fillEntry, hxd]

lemma plantMoved_of_ne {s : Slot} (hsd : s ≠ d) (hsx : s ≠ x) :
    (plantMoved k d x node).entry s = k.entry s := by
  simp [plantMoved, incrCount, invalidate, fillEntry, hsd, hsx]

lemma plantMoved_live (hx : Live k.entry x) (hd : ¬Live k.entry d) (s : Slot) :
    Live (plantMoved k d x node).entry s ↔ s = d ∨ (Live k.entry s ∧ s ≠ x) := by
  by_cases hsd : s = d
  · subst hsd
    have hx' : (k.entry x).occupied := hx
    simp [Live, plantMoved_dst node hx hd, hx']
  by_cases hsx : s = x
  · subst hsx
    simp [Live, plantMoved_src node hx hd, vacate, hsd]
  · simp [Live, plantMoved_of_ne node hsd hsx, hsd, hsx]

end Moved

/-! ### The changes of the handle tables -/

/-- What happens to the slots in a change of the handle tables. -/
inductive EditKind
  | fill | move | vacate
  deriving DecidableEq

/-- A change of the handle tables: a capability is installed, handed on or closed, or its descendants
are revoked. -/
inductive Edit (k : Kernel) : EditKind → Kernel → Prop
  | root {s : Slot} (vacant : ¬Live k.entry s) (i : ObjIdx) (rights : Rights) (endpoint id : ℕ) :
      Edit k .fill (plantRoot (takeId k) s i rights endpoint id)
  | derived {d q : Slot} {rights : Rights} (derivable : Derivable k q rights)
      (vacant : ¬Live k.entry d) (id : ℕ) : Edit k .fill (plantDerived (takeId k) d q rights id)
  | moved {d x : Slot} {node : NodeTable} {id : ℕ} (live : Live k.entry x)
      (vacant : ¬Live k.entry d)
      (moved : Moved (Live k.entry) k.node node d x (k.entry d).handleGeneration id) (n : ℕ) :
      Edit k .move (plantMoved { k with nextCapabilityId := n } d x node)
  | closed {s : Slot} {node : NodeTable} (live : Live k.entry s)
      (unlinked : Unlinked (Live k.entry) k.node node s) :
      Edit k .vacate { invalidate k s with node := update node s .empty }
  | pruned {x : Slot} {dn : List Slot} {k' : Kernel} (live : Live k.entry x)
      (desc : ∀ s, s ∈ dn ↔ Desc (Live k.entry) (links k.node) x s)
      (pruned : Pruned k.entry k.node x dn k') : Edit k .vacate k'

/-- **Every change** keeps the tables well-formed. -/
lemma Edit.sound {c : EditKind} (h : Sound k) (he : Edit k c k') : Sound k' := by
  cases he with
  | root vacant i rights endpoint id => exact h.root vacant rfl rfl rfl rfl
  | derived derivable vacant id =>
    refine h.derived vacant derivable.live rfl ?_ rfl rfl rfl rfl
    exact ⟨rfl, rfl, rfl, derivable.rights⟩
  | @moved d x node _ live vacant moved n =>
    have hdst := plantMoved_dst (k := { k with nextCapabilityId := n }) node live vacant
    refine h.moved vacant live moved ?_ ?_ (plantMoved_live node live vacant) ?_
      fun s hsd hsx => plantMoved_of_ne node hsd hsx
    · rw [hdst]
      exact ⟨rfl, rfl, rfl, .refl _⟩
    · rw [hdst]
      exact ⟨rfl, rfl, rfl, .refl _⟩
    · rw [hdst]
  | closed live unlinked => exact h.closed live unlinked rfl
  | pruned live desc pruned => exact h.pruned live desc pruned

lemma Edit.fill_cases (h : Edit k .fill k') :
    ∃ d e, k'.entry = update k.entry d e ∧ ¬Live k.entry d ∧ e.occupied ∧
      e.handleGeneration = (k.entry d).handleGeneration ∧
      ∀ s ≠ d, ¬Live k.entry s → k'.node s = k.node s := by
  cases h with
  | @root d vacant i rights endpoint id =>
    exact ⟨d, _, rfl, vacant, rfl, rfl, fun s hs _ => update_of_ne hs _ _⟩
  | @derived d q rights derivable vacant id =>
    refine ⟨d, _, rfl, vacant, rfl, rfl, fun s hs hl => ?_⟩
    have hsq : s ≠ q := fun e : s = q => hl (e ▸ derivable.live)
    simp [plantDerived, incrCount, addChildLocked, fillEntry, hs, hsq]

/-! ### Installation is safe -/

lemma installRoot_safe (h : Sound k) (s : Slot) (i : ObjIdx) (rights : Rights) (endpoint : ℕ) :
    Ends (fun r => Safe (.created i rights endpoint) k r.2)
      (installRootCapabilityLocked k s i rights endpoint) := by
  rcases installRoot_cases k s i rights endpoint with
    ⟨e, he⟩ | he | ⟨id, -, hs, he⟩
  · rw [he]; exact .refl h
  · rw [he]; rfl
  rw [he]
  exact (addHandleRef_same _ i s).mono fun r hr => .of_same
    ⟨(Edit.root hs i rights endpoint id).sound h, grants_fill hs rfl ⟨rfl, rfl, rfl, rfl⟩⟩ hr

lemma installDerived_safe (h : Sound k) (d q : Slot) (rights : Rights) :
    Ends (fun r => Safe (.slot q) k r.2) (installDerivedCapabilityLocked k d q rights) := by
  rcases installDerived_cases k d q rights with
    ⟨e, -, he⟩ | ⟨-, he⟩ | ⟨hq, -, hd, he⟩
  · rw [he]; exact .refl h
  · rw [he]; rfl
  rw [he]
  exact (addHandleRef_same _ _ d).mono fun r hr => .of_same
    ⟨(Edit.derived hq hd _).sound h, grants_fill hd rfl ⟨hq.live, rfl, rfl, rfl, hq.rights⟩⟩ hr

lemma installMoved_safe (h : Sound k) (d x : Slot) (id : ℕ) :
    Ends (fun r => Safe (.slot x) k r.2) (installMovedCapabilityLocked k d x id) := by
  rcases installMoved_cases h d x id with he | ⟨node, hx, hd, ⟨hm, -⟩, he⟩
  · rw [he]; rfl
  rw [he]
  refine ⟨(Edit.moved hx hd hm k.nextCapabilityId).sound h, fun s hs => ?_⟩
  rcases (plantMoved_live node hx hd s).mp hs with rfl | ⟨hsl, hsx⟩
  · refine .inr ⟨hd, hx, ?_⟩
    rw [plantMoved_dst node hx hd]
    exact ⟨rfl, rfl, rfl, .refl _⟩
  · exact .inl ⟨hsl, plantMoved_of_ne node (fun e => hd (e ▸ hsl)) hsx⟩

/-! ### Derivation and transfer -/

/-- The slot a handle of the process `p` points to, as a source. -/
def handleSource (p : PSlot) (h : Handle) : Source :=
  if hs : h.slotIndex < 32 then .slot (p, ⟨h.slotIndex, hs⟩) else .nothing

section

variable (h : Sound k)

include h

lemma capabilityDerive_safe (p : PSlot) (hd : Handle) (rights : Rights) :
    Ends (fun r => Safe (handleSource p hd) k r.2) (capabilityDerive k p hd rights) := by
  unfold capabilityDerive
  split
  next hs =>
    have hsrc : handleSource p hd = .slot (p, ⟨hd.slotIndex, hs⟩) := dif_pos hs
    rw [hsrc]
    split
    · exact .refl h
    · exact installDerived_safe h _ _ _
  · exact .refl h

lemma capabilityDuplicate_safe (p : PSlot) (hd : Handle) :
    Ends (fun r => Safe (handleSource p hd) k r.2) (capabilityDuplicate k p hd) := by
  unfold capabilityDuplicate
  split
  next hs =>
    have hsrc : handleSource p hd = .slot (p, ⟨hd.slotIndex, hs⟩) := dif_pos hs
    rw [hsrc]
    simp only
    iterate 2
      split
      · exact .refl h
    · exact installDerived_safe h _ _ _
  · exact .refl h

lemma transferMove_safe (src : Slot) (dst : PSlot) :
    Ends (fun r => Safe (.slot src) k r.2) (transferMoveLocked k src dst) := by
  rcases transferMove_cases k src dst with ⟨e, he⟩ | ⟨d, id, he⟩
  · rw [he]; exact .refl h
  rw [he]
  have ht : Sound (takeId k) := h
  exact (installMoved_safe ht _ src id).mono fun r hr => ⟨hr.sound, hr.grants⟩

lemma transferDelegate_safe (src : Slot) (dst : PSlot) (rights : Rights) :
    Ends (fun r => Safe (.slot src) k r.2) (transferDelegateLocked k src dst rights) := by
  unfold transferDelegateLocked
  simp only
  iterate 7
    split
    · exact .refl h
  · exact installDerived_safe h _ src rights

/-! ### Revocation -/

variable (s : Slot)

lemma revokeTree_pruned :
    Ends (fun r => r.2 = k ∨ ∃ dn, Live k.entry s ∧
      (∀ t, t ∈ dn ↔ Desc (Live k.entry) (links k.node) s t) ∧ Pruned k.entry k.node s dn r.2)
      (revokeDescendantsTreeLocked k s) := by
  by_cases hs : Live k.entry s
  · have hspec := revokeTree_spec (E := (· = .panic)) (Q := fun _ _ => True)
      h.forest hs trivial fun dn c k' _ _ _ _ =>
        (releaseRevoked_same (cutAt k' c) _ _).mono fun _ _ => trivial
    refine hspec.mono fun r ⟨dn, _, hdn, hP, _, _⟩ => ?_
    exact .inr ⟨dn, hs, hdn, hP⟩
  rw [revokeTree_leaf (h.vacant s hs)]
  exact .inl rfl

lemma revokeTree_safe : Ends (fun r => Safe .nothing k r.2) (revokeDescendantsTreeLocked k s) := by
  refine (revokeTree_pruned h s).mono fun r hr => ?_
  rcases hr with he | ⟨dn, hs, hdn, hP⟩
  · rw [he]
    exact .refl h
  refine ⟨(Edit.pruned hs hdn hP).sound h, fun t ht => ?_⟩
  by_cases htd : t ∈ dn
  · rw [Live, hP.entry_in t htd] at ht
    simp [vacate] at ht
  rw [Live, hP.entry_out t htd] at ht
  exact .inl ⟨ht, hP.entry_out t htd⟩

lemma revokeDescendants_safe :
    Ends (fun r => Safe .nothing k r.2) (capabilityRevokeDescendantsLocked k s) := by
  unfold capabilityRevokeDescendantsLocked
  iterate 3
    split
    · exact .refl h
  · exact .bind (revokeTree_safe h s) fun r hr => hr

/-! ### Close -/

lemma capabilityClose_cases :
    (¬Live k.entry s ∧ capabilityCloseLocked k s = fail .invalidHandle k) ∨
    ∃ node, Live k.entry s ∧ Unlinked (Live k.entry) k.node node s ∧
      capabilityCloseLocked k s = done ((k.entry s).objectIndex, (k.entry s).endpoint)
        (if (k.object (k.entry s).objectIndex).occupied then
          dropHandleRef { invalidate k s with node := update node s .empty } (k.entry s).objectIndex
        else { invalidate k s with node := update node s .empty }) := by
  unfold capabilityCloseLocked
  simp only
  split
  next hs =>
    exact .inl ⟨by simp [Live, hs], rfl⟩
  rename_i hs
  have hl : Live k.entry s := by simpa [Live] using hs
  obtain ⟨node, hn, hu⟩ := unlinkNode_spec h.forest hl
  rw [hn]
  exact .inr ⟨node, hl, hu, rfl⟩

lemma capabilityClose_safe : Ends (fun r => Safe .nothing k r.2) (capabilityCloseLocked k s) := by
  rcases capabilityClose_cases h s with ⟨-, he⟩ | ⟨node, hs, hu, he⟩
  · rw [he]; exact .refl h
  rw [he]
  obtain ⟨k', hk'⟩ : ∃ k', k' = { invalidate k s with
    node := update node s CapabilityNode.empty } := ⟨_, rfl⟩
  have hsafe : Safe .nothing k k' := by
    refine ⟨hk' ▸ (Edit.closed hs hu).sound h, fun t ht => ?_⟩
    by_cases hts : t = s
    · subst hts
      rw [hk'] at ht
      simp [Live, invalidate, vacate] at ht
    have het : k'.entry t = k.entry t := by rw [hk']; simp [invalidate, hts]
    rw [Live, het] at ht
    exact .inl ⟨ht, het⟩
  rw [← hk']
  refine hsafe.of_same ?_
  split
  · exact ⟨rfl, rfl, rfl⟩
  · exact .refl k'

end

lemma dropEndpointRef_same (k : Kernel) (i : ObjIdx) (endpoint : ℕ) :
    Ends (SameHandles k) (dropEndpointRef k i endpoint) := by
  unfold dropEndpointRef
  simp only
  split
  · exact (wakeAllWaiters_same _ _ _).mono fun _ h => ⟨h.entry, h.node, h.count⟩
  · exact ⟨rfl, rfl, rfl⟩

lemma releaseEndpoint_same (k : Kernel) (i : ObjIdx) (endpoint : ℕ) :
    Ends (SameHandles k) (releaseEndpoint k i endpoint) :=
  Holds.bind (dropEndpointRef_same k i endpoint) fun k' h =>
    (reclaimChannel_same k' i).mono fun _ h' => h.trans h'

lemma closeAndReclaim_safe (h : Sound k) (s : Slot) :
    Ends (fun r => Safe .nothing k r.2) (closeAndReclaimCapabilityLocked k s) := by
  refine .bind (capabilityClose_safe h s) fun ⟨res, k'⟩ hr => ?_
  simp only at hr ⊢
  split
  · exact hr
  split
  · split
    · exact .bind (releaseEndpoint_same k' _ _) fun _ hs => hr.of_same hs
    · exact .bind (reclaimShm_same k' _) fun _ hs => hr.of_same hs
    · exact hr
  · exact hr

end ProjectZero.Cap.Calls
