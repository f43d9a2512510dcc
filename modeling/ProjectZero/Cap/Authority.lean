import ProjectZero.Cap.Calls

/-! # Runs of the capability operations

The states of the handle tables and the node table that any sequence of capability operations reaches
from the empty tables, with any arguments and with any other activity of the kernel in between that
leaves these two tables alone. The derivation tree is well-formed in all of them, and authority only
shrinks along it. -/

namespace ProjectZero.Cap.Authority

open Lib.Linked Lib.Tree Lib.Run Tables Cap.Node Ops RevokeLoop Invariant Calls Ipc.Object

/-- A call of a capability operation with its arguments. -/
inductive Call
  | installRoot (s : Slot) (i : ObjIdx) (rights : Rights) (endpoint : ℕ)
  | installDerived (dst parent : Slot) (rights : Rights)
  | derive (p : PSlot) (h : Handle) (rights : Rights)
  | duplicate (p : PSlot) (h : Handle)
  | delegate (src : Slot) (dst : PSlot) (rights : Rights)
  | move (src : Slot) (dst : PSlot)
  | revokeTree (s : Slot)
  | revoke (s : Slot)
  | close (s : Slot)
  | closeAndReclaim (s : Slot)

/-- The tables that the call leaves. -/
def Call.exec (k : Kernel) : Call → Except Halt Kernel
  | .installRoot s i rights endpoint =>
    Prod.snd <$> installRootCapabilityLocked k s i rights endpoint
  | .installDerived dst parent rights =>
    Prod.snd <$> installDerivedCapabilityLocked k dst parent rights
  | .derive p h rights => Prod.snd <$> capabilityDerive k p h rights
  | .duplicate p h => Prod.snd <$> capabilityDuplicate k p h
  | .delegate src dst rights => Prod.snd <$> transferDelegateLocked k src dst rights
  | .move src dst => Prod.snd <$> transferMoveLocked k src dst
  | .revokeTree s => Prod.snd <$> revokeDescendantsTreeLocked k s
  | .revoke s => Prod.snd <$> capabilityRevokeDescendantsLocked k s
  | .close s => Prod.snd <$> capabilityCloseLocked k s
  | .closeAndReclaim s => Prod.snd <$> closeAndReclaimCapabilityLocked k s

/-- Where the capability comes from that the call installs. -/
def Call.source : Call → Source
  | .installRoot _ i rights endpoint => .created i rights endpoint
  | .installDerived _ parent _ => .slot parent
  | .derive p h _ => handleSource p h
  | .duplicate p h => handleSource p h
  | .delegate src _ _ => .slot src
  | .move src _ => .slot src
  | _ => .nothing

lemma ends_snd {α : Type} {Q : Kernel → Prop} {x : Except Halt (α × Kernel)}
    (h : Ends (fun r => Q r.2) x) : Ends Q (Prod.snd <$> x) := by
  cases x with
  | error e => exact h
  | ok r => exact h

variable {k : Kernel}

/-- **Every call** ends, keeps the invariant, and grants only what its source has. -/
lemma Call.exec_safe (h : Sound k) (c : Call) : Ends (Safe c.source k) (c.exec k) := by
  cases c with
  | installRoot s i rights endpoint =>
    exact ends_snd (installRoot_safe h s i rights endpoint)
  | installDerived dst parent rights =>
    exact ends_snd (installDerived_safe h dst parent rights)
  | derive p hd rights => exact ends_snd (capabilityDerive_safe h p hd rights)
  | duplicate p hd => exact ends_snd (capabilityDuplicate_safe h p hd)
  | delegate src dst rights => exact ends_snd (transferDelegate_safe h src dst rights)
  | move src dst => exact ends_snd (transferMove_safe h src dst)
  | revokeTree s => exact ends_snd (revokeTree_safe h s)
  | revoke s => exact ends_snd (revokeDescendants_safe h s)
  | close s => exact ends_snd (capabilityClose_safe h s)
  | closeAndReclaim s => exact ends_snd (closeAndReclaim_safe h s)

/-! ### Reachable states -/

/-- The two tables are empty; everything else is arbitrary. -/
def Boot (k : Kernel) : Prop := (∀ s, k.entry s = .empty) ∧ ∀ s, k.node s = .empty

/-- A capability operation, or a step of the kernel that leaves the handle tables alone. -/
inductive Step (k k' : Kernel) : Prop
  | call (c : Call) (h : c.exec k = .ok k')
  | other (h : SameHandles k k')

lemma boot_sound (h : Boot k) : Sound k :=
  wellFormed_empty (fun s => by rw [h.1 s]; rfl) (fun s => by rw [h.2 s]; rfl)

lemma step_sound {k' : Kernel} (h : Sound k) (hs : Step k k') : Sound k' := by
  cases hs with
  | call c hc => exact ((c.exec_safe h).of_ok hc).sound
  | other hs => exact h.of_same hs

lemma reach_sound (h : Reach Boot Step k) : Sound k :=
  Reach.invariant (I := Sound) (fun _ => boot_sound) (fun _ _ => step_sound) h

/-- **The derivation tree is well-formed in every reachable state.** -/
theorem derivation_tree_wellFormed (h : Reach Boot Step k) :
    -- the parent of an occupied slot is occupied, not revoked, current, and names the same object
    (∀ s p, Live k.entry s → (k.node s).parent = some p →
      Live k.entry p ∧ (k.node p).isRevoked = false ∧
      (k.entry p).handleGeneration = (k.node s).parentGen ∧
      (k.entry p).objectIndex = (k.entry s).objectIndex ∧
      (k.entry p).objectGeneration = (k.entry s).objectGeneration) ∧
    -- an occupied slot is on its parent's chain once, and on no other chain
    (∀ s p, Live k.entry s → (k.node s).parent = some p →
      (∃ l, Chain (links k.node).next (k.node p).firstChild l ∧ l.count s = 1) ∧
      ∀ q l, Live k.entry q → q ≠ p → Chain (links k.node).next (k.node q).firstChild l → s ∉ l) ∧
    -- what is on the chain of an occupied slot is occupied and has it as parent
    (∀ p l, Live k.entry p → Chain (links k.node).next (k.node p).firstChild l →
      ∀ c ∈ l, Live k.entry c ∧ (k.node c).parent = some p) ∧
    -- every chain is finite, and no loop over a chain fails to end
    (∀ p, ∃ l, Chain (links k.node).next (k.node p).firstChild l) ∧
    ∀ c : Call, c.exec k ≠ .error .hang := by
  have hs := reach_sound h
  have hchain : ∀ p l, Live k.entry p → Chain (links k.node).next (k.node p).firstChild l →
      ∀ c ∈ l, Live k.entry c ∧ (k.node c).parent = some p := by
    intro p l hp hl c hc
    obtain ⟨l', hl', hm⟩ := hs.forest.down p hp
    rw [chain_unique hl hl'] at hc
    exact (hm c).mp hc
  refine ⟨fun s p hl hp => ?_, fun s p hl hp => ⟨?_, fun q l hq hqp hql hsl => ?_⟩, hchain,
    fun p => ?_, fun c hc => ?_⟩
  · have hc : Child (Live k.entry) (links k.node) p s := ⟨hl, hp⟩
    have hpl := hs.forest.up s p hc
    have hi := hs.inherits p s hc
    exact ⟨hpl, hs.unrevoked p hpl, (hs.parentGen p s hc).symm, hi.objectIndex.symm,
      hi.objectGeneration.symm⟩
  · have hc : Child (Live k.entry) (links k.node) p s := ⟨hl, hp⟩
    obtain ⟨l, hcl, hm⟩ := hs.forest.down p (hs.forest.up s p hc)
    exact ⟨l, hcl, List.count_eq_one_of_mem (chain_nodup hcl) ((hm s).mpr hc)⟩
  · have := (hchain q l hq hql s hsl).2
    rw [hp] at this
    exact hqp (Option.some.inj this).symm
  · by_cases hp : Live k.entry p
    · obtain ⟨l, hl, -⟩ := hs.forest.down p hp
      exact ⟨l, hl⟩
    · exact ⟨[], hs.vacant p hp⟩
  have := (c.exec_safe hs).of_error hc
  simp at this

/-- The tables at boot, with one object. -/
def oneObject : Kernel :=
  let k := Kernel.boot
    { initialized := false, trackedFrames := 0, state := fun _ => .unusable, freeFrames := 0,
      allocatedFrames := 0 }
    { physicalBits := 36, virtualBits := 48, nxEnabled := true, physicalBits_range := range36,
      virtualBits_range := range48 }
    (fun _ _ => 0)
    (fun _ => { occupied := false, processId := 0, priority := 0, state := .free })
    (fun _ => { occupied := false, id := 0, state := .free, addressSpace := 0 })
  let o : KernelObjectSlot :=
    { occupied := true, objType := .shmObject, generation := 1, poolIndex := 0, header := .empty }
  { k with object := update k.object 0 o }

/-- A root for the object, a delegation of it to the process 1, and a derivation of that. -/
def delegated : List Call :=
  [.installRoot (0, 0) 0 0xFFFF#16 0, .delegate (0, 0) 1 0xFFFF#16,
    .derive 1 (Handle.new 0 1) 0x0300#16]

lemma reach_calls {cs : List Call} (h : cs.foldlM Call.exec oneObject = .ok k) :
    Reach Boot Step k :=
  Reach.foldlM (fun _ c _ hc => .call c hc) (.start ⟨fun _ => rfl, fun _ => rfl⟩) h

/-- The delegated capability is moved, and the one derived from it follows. -/
theorem derivation_tree_wellFormed_moved :
    ∃ k, Reach Boot Step k ∧ (k.node (1, 1)).parent = some (2, 0) ∧ Live k.entry (1, 1) ∧
      Live k.entry (2, 0) := by
  obtain ⟨k, hk, hp, hl⟩ : ∃ k : Kernel,
      (delegated ++ [Call.move (1, 0) 2]).foldlM Call.exec oneObject = .ok k ∧
      (k.node (1, 1)).parent = some (2, 0) ∧ (k.entry (1, 1)).occupied = true :=
    exists_ok (by decide +kernel)
  have hr := reach_calls hk
  exact ⟨k, hr, hp, hl, ((derivation_tree_wellFormed hr).1 (1, 1) (2, 0) hl hp).1⟩

/-! ### Authority -/

/-- The origins after the call: a newly occupied entry is an origin itself when a root is created, and
has the origin of the source when it is derived or moved. -/
def Call.origin (c : Call) (k k' : Kernel) (o : Slot → HandleEntry) (s : Slot) : HandleEntry :=
  if (k.entry s).occupied then o s
  else
    match c.source with
    | .created _ _ _ => k'.entry s
    | .slot q => o q
    | .nothing => o s

/-- A run of the capability operations, with the origin of every capability: the entry of the root
from whose creation it descends by derivation and move. -/
inductive Run : Kernel → (Slot → HandleEntry) → Prop
  | boot {k : Kernel} {o : Slot → HandleEntry} : Boot k → Run k o
  | call {k k' : Kernel} {o : Slot → HandleEntry} (c : Call) :
      Run k o → c.exec k = .ok k' → Run k' (c.origin k k' o)
  | other {k k' : Kernel} {o : Slot → HandleEntry} : Run k o → SameHandles k k' → Run k' o

variable {o : Slot → HandleEntry}

lemma run_invariant (h : Run k o) : Sound k ∧ ∀ s, Live k.entry s → Inherits (k.entry s) (o s) := by
  induction h with
  | boot hb =>
    refine ⟨boot_sound hb, fun s hs => ?_⟩
    rw [Live, hb.1 s] at hs
    cases hs
  | @call k k' o c _ hc ih =>
    obtain ⟨hsound, horigin⟩ := ih
    have hsafe := (c.exec_safe hsound).of_ok hc
    refine ⟨hsafe.sound, fun s hs => ?_⟩
    unfold Call.origin
    rcases hsafe.grants s hs with ⟨hl, he⟩ | ⟨hl, hsrc⟩
    · have hocc : (k.entry s).occupied = true := hl
      rw [if_pos hocc, he]
      exact horigin s hl
    have hocc : ¬(k.entry s).occupied = true := hl
    rw [if_neg hocc]
    cases hcs : c.source with
    | created i rights endpoint => exact .refl _
    | slot q =>
      rw [hcs] at hsrc
      exact hsrc.2.trans (horigin q hsrc.1)
    | nothing =>
      rw [hcs] at hsrc
      exact hsrc.elim
  | other _ hs ih =>
    refine ⟨ih.1.of_same hs, fun s hl => ?_⟩
    rw [hs.entry] at hl ⊢
    exact ih.2 s hl

lemma inherits_ancestor (h : Sound k) {a s : Slot}
    (hd : Desc (Live k.entry) (links k.node) a s) : Inherits (k.entry s) (k.entry a) := by
  induction hd with
  | single hc => exact h.inherits _ _ hc
  | tail _ hc ih => exact (h.inherits _ _ hc).trans ih

/-- **Authority is monotone**: in every state a run reaches, a capability has no right that one of its
ancestors lacks or that its root was not created with, and all of them name one object, one object
generation and one endpoint. -/
theorem authority_monotone {o : Slot → HandleEntry} (h : Run k o) :
    (∀ a s, Live k.entry s → Desc (Live k.entry) (links k.node) a s →
      RightsSubset (k.entry s).rights (k.entry a).rights ∧
      (k.entry s).objectIndex = (k.entry a).objectIndex ∧
      (k.entry s).objectGeneration = (k.entry a).objectGeneration ∧
      (k.entry s).endpoint = (k.entry a).endpoint) ∧
    ∀ s, Live k.entry s →
      RightsSubset (k.entry s).rights (o s).rights ∧
      (k.entry s).objectIndex = (o s).objectIndex ∧
      (k.entry s).objectGeneration = (o s).objectGeneration ∧
      (k.entry s).endpoint = (o s).endpoint := by
  obtain ⟨hs, ho⟩ := run_invariant h
  refine ⟨fun a s _ hd => ?_, fun s hl => ?_⟩
  · have hi := inherits_ancestor hs hd
    exact ⟨hi.rights, hi.objectIndex, hi.objectGeneration, hi.endpoint⟩
  have hi := ho s hl
  exact ⟨hi.rights, hi.objectIndex, hi.objectGeneration, hi.endpoint⟩

lemma Run.foldlM : ∀ {cs : List Call} {k k' : Kernel} {o : Slot → HandleEntry}, Run k o →
    cs.foldlM Call.exec k = .ok k' → ∃ o', Run k' o'
  | [], k, k', o, hr, h => by
    rw [List.foldlM_nil] at h
    cases h
    exact ⟨o, hr⟩
  | c :: cs, k, k', o, hr, h => by
    rw [List.foldlM_cons] at h
    obtain ⟨k1, hc, h⟩ := bind_eq_ok h
    exact Run.foldlM (.call c hr hc) h

/-- A capability two derivations below the root. -/
theorem authority_monotone_delegated :
    ∃ k o, Run k o ∧ Desc (Live k.entry) (links k.node) (0, 0) (1, 1) ∧
      RightsSubset (k.entry (1, 1)).rights (k.entry (0, 0)).rights ∧
      RightsSubset (k.entry (1, 1)).rights (o (1, 1)).rights := by
  obtain ⟨k, hk, hl, hp, hl', hp'⟩ : ∃ k, delegated.foldlM Call.exec oneObject = .ok k ∧
      (k.entry (1, 1)).occupied = true ∧ (k.node (1, 1)).parent = some (1, 0) ∧
      (k.entry (1, 0)).occupied = true ∧ (k.node (1, 0)).parent = some (0, 0) :=
    exists_ok (by decide +kernel)
  obtain ⟨o, hr⟩ := Run.foldlM (.boot (o := fun _ => .empty) ⟨fun _ => rfl, fun _ => rfl⟩) hk
  have hd : Desc (Live k.entry) (links k.node) (0, 0) (1, 1) :=
    .tail (.single ⟨hl', hp'⟩) ⟨hl, hp⟩
  exact ⟨k, o, hr, hd, ((authority_monotone hr).1 (0, 0) (1, 1) hl hd).1,
    ((authority_monotone hr).2 (1, 1) hl).1⟩

end ProjectZero.Cap.Authority
