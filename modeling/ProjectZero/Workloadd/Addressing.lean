import ProjectZero.Workloadd.Effects

/-! # Which identifiers name a workload

A slot that was never used has the identifier `(0, 0)` and the state of a workload that was just
created. So `(0, 0)` is accepted as long as there is such a slot, and a creation takes the slot of a
workload that was created but not yet submitted. The identifiers handed out stay good as long as none
is created in between (`addressable_iff`). -/

namespace ProjectZero.Workloadd.Addressing

open Lib.Run Libzero.Resource Libzero.Identity Libzero.Message Libzero.Workload Daemon Effects

variable {d d' : WorkloadDaemon} {slot : Fin 8} {req resp : IpcMessage} {created : List DistributedId}

/-! ### Requests that name a workload -/

/-- The shortest payload of the requests that name a workload. -/
def leastLength (tag : BitVec 64) : Option ℕ :=
  if tag = opWorkloadQuery ∨ tag = opWorkloadCancel then some 16
  else if tag = opWorkloadSubmitDag ∨ tag = opWorkloadExtendDag then some 17
  else none

/-- The request names the workload `req.idAt 0`. -/
def Names (req : IpcMessage) : Prop :=
  ∃ n, leastLength req.tag = some n ∧ n ≤ req.payloadLen.toNat

/-- The response says that there is no such workload. -/
def Unknown (resp : IpcMessage) : Prop := resp.statusWord = BitVec.ofInt 32 (asI32 .notFound)
  deriving Decidable

variable {e : ZeroError}

lemma unknown_reply {tag : BitVec 64} {rest : List Lib.Layout.Byte} :
    Unknown (reply tag (status e ++ rest)) ↔ e = .notFound := by
  unfold Unknown
  rw [statusWord_reply]
  exact ⟨fun h => asI32_injective h, fun h => by rw [h]⟩

lemma unknown_answer {tag : BitVec 64} : Unknown (answer tag e) ↔ e = .notFound := by
  unfold answer
  rw [← List.append_nil (status e)]
  exact unknown_reply

lemma verifyAcyclic_error {dag : TaskDag} (h : dag.verifyAcyclic = .error e) : e ≠ .notFound := by
  unfold TaskDag.verifyAcyclic at h
  split at h
  · cases h
    exact nofun
  split at h
  · cases h
  cases h
  exact nofun

lemma namedSlot_cases {n : ℕ} (hn : n ≤ req.payloadLen.toNat) :
    findWorkloadSlot d (req.idAt 0) = none ∧ namedSlot d req n = .error .notFound ∨
      ∃ slot, findWorkloadSlot d (req.idAt 0) = some slot ∧ namedSlot d req n = .ok slot := by
  unfold namedSlot
  rw [if_neg (by omega)]
  cases hfind : findWorkloadSlot d (req.idAt 0) with
  | none => exact .inl ⟨rfl, rfl⟩
  | some slot => exact .inr ⟨slot, rfl, rfl⟩

lemma unknown_submit (hn : 17 ≤ req.payloadLen.toNat)
    (h : handleWorkloadSubmitDag d req = .ok (resp, d')) :
    Unknown resp ↔ findWorkloadSlot d (req.idAt 0) = none := by
  obtain ⟨r, hr, h⟩ := bind_eq_ok h
  unfold readSubmission at hr
  rw [if_neg (by omega)] at hr
  dsimp only at hr
  split at hr
  next hfind =>
    cases hr
    cases h
    exact iff_of_true (unknown_answer.mpr rfl) hfind
  rename_i hfind
  rw [hfind]
  refine iff_of_false ?_ (by simp)
  cases r with
  | error e =>
    cases h
    rw [unknown_answer]
    rintro rfl
    iterate 2
      split at hr
      · cases hr
    split at hr
    next he =>
      cases hr
      exact verifyAcyclic_error he rfl
    · cases hr
  | ok s =>
    obtain ⟨d1, -, h⟩ := bind_eq_ok h
    cases h
    rw [unknown_answer]
    simp

lemma unknown_extend (hn : 17 ≤ req.payloadLen.toNat)
    (h : handleWorkloadExtendDag d req = .ok (resp, d')) :
    Unknown resp ↔ findWorkloadSlot d (req.idAt 0) = none := by
  unfold handleWorkloadExtendDag at h
  rcases namedSlot_cases hn with ⟨hfind, hslot⟩ | ⟨slot, hfind, hslot⟩
  · have hread : readExtension d req = .error .notFound := by
      unfold readExtension
      rw [hslot]
    rw [hread] at h
    cases h
    exact iff_of_true (unknown_answer.mpr rfl) hfind
  rw [hfind]
  refine iff_of_false ?_ (by simp)
  split at h
  next hread =>
    cases h
    rw [unknown_answer]
    rintro rfl
    unfold readExtension at hread
    rw [hslot] at hread
    dsimp only at hread
    iterate 3
      split at hread
      · cases hread
    · cases hread
  split at h
  · cases h
  split at h
  next he =>
    cases h
    rw [unknown_answer]
    exact verifyAcyclic_error he
  obtain ⟨d1, -, h⟩ := bind_eq_ok h
  cases h
  rw [unknown_answer]
  simp

lemma unknown_query (hn : 16 ≤ req.payloadLen.toNat) :
    Unknown (handleWorkloadQuery d req) ↔ findWorkloadSlot d (req.idAt 0) = none := by
  unfold handleWorkloadQuery
  rcases namedSlot_cases hn with ⟨hfind, hslot⟩ | ⟨slot, hfind, hslot⟩
  · rw [hslot, hfind]
    exact iff_of_true (unknown_answer.mpr rfl) rfl
  rw [hslot, hfind]
  exact iff_of_false (fun h => nomatch unknown_reply.mp h) nofun

lemma unknown_cancel (hn : 16 ≤ req.payloadLen.toNat) :
    Unknown (handleWorkloadCancel d req).1 ↔ findWorkloadSlot d (req.idAt 0) = none := by
  unfold handleWorkloadCancel
  rcases namedSlot_cases hn with ⟨hfind, hslot⟩ | ⟨slot, hfind, hslot⟩
  · rw [hslot, hfind]
    exact iff_of_true (unknown_answer.mpr rfl) rfl
  rw [hslot, hfind]
  exact iff_of_false (fun h => nomatch unknown_answer.mp h) nofun

/-- **A request is answered with `NotFound` if and only if no slot has its identifier.** -/
lemma unknown_iff (hn : Names req) (h : dispatch d req = .ok (resp, d')) :
    Unknown resp ↔ findWorkloadSlot d (req.idAt 0) = none := by
  obtain ⟨n, hleast, hn⟩ := hn
  unfold leastLength at hleast
  unfold dispatch at h
  by_cases hquery : req.tag = opWorkloadQuery
  · rw [hquery] at h hleast
    cases hleast
    cases h
    exact unknown_query hn
  by_cases hcancel : req.tag = opWorkloadCancel
  · rw [hcancel] at h hleast
    cases hleast
    have hresp : (handleWorkloadCancel d req).1 = resp := congrArg Prod.fst (Except.ok.inj h)
    rw [← hresp]
    exact unknown_cancel hn
  rw [if_neg (by simp [hquery, hcancel])] at hleast
  by_cases hsubmit : req.tag = opWorkloadSubmitDag
  · rw [hsubmit] at h hleast
    cases hleast
    exact unknown_submit hn h
  by_cases hextend : req.tag = opWorkloadExtendDag
  · rw [hextend] at h hleast
    cases hleast
    exact unknown_extend hn h
  rw [if_neg (by simp [hsubmit, hextend])] at hleast
  cases hleast

/-! ### The identifiers handed out -/

/-- The identifier that a response hands out. -/
def handedOut (req resp : IpcMessage) : List DistributedId :=
  if req.tag = opWorkloadCreate ∧ resp.statusWord = BitVec.ofInt 32 (asI32 .success) then
    [resp.idAt 4]
  else []

abbrev Log := WorkloadDaemon × List DistributedId

def BootLog (s : Log) : Prop := Boot s.1 ∧ s.2 = []

abbrev idOf (d : WorkloadDaemon) (slot : Fin 8) : DistributedId := (d.workloads slot).workloadId

def used (d : WorkloadDaemon) : Finset (Fin 8) := Finset.univ.filter fun slot => idOf d slot ≠ nil

lemma mem_used : slot ∈ used d ↔ idOf d slot ≠ nil := by simp [used]

/-- **The condition.** No workload is created while another one is still to be submitted. -/
def Careful (d : WorkloadDaemon) (req : IpcMessage) : Prop :=
  req.tag = opWorkloadCreate → ∀ slot, (d.workloads slot).state = .creating → idOf d slot = nil
  deriving Decidable

def StepLog (s s' : Log) : Prop := ∃ req resp, Careful s.1 req ∧
  dispatch s.1 req = .ok (resp, s'.1) ∧ s'.2 = handedOut req resp ++ s.2

/-- What holds of the identifiers between two requests. -/
structure Registered (s : Log) : Prop where
  orderly : Orderly s.1
  known : ∀ slot ∈ used s.1, idOf s.1 slot ∈ s.2
  distinct : Set.InjOn (idOf s.1) (used s.1)
  nodup : s.2.Nodup
  node : s.1.allocator.nodeId < 2 ^ 64
  seq : s.1.allocator.currentSeq < 2 ^ 64
  range : ∀ id ∈ s.2, id.nodeId < 2 ^ 64 ∧ 0 < id.localSeq ∧
    id.localSeq ≤ s.1.allocator.currentSeq

variable (a : DistributedIdAllocator)

/-- What an attempt to allocate leads to. -/
def Allocates
    (r : Except ZeroError DistributedId × DistributedIdAllocator × ℕ) : Prop :=
  r.2.1.nodeId = a.nodeId ∧
    (r.1 = .error .identifierExhausted ∧ r.2.1.currentSeq = a.currentSeq ∨
      r.1 = .ok ⟨a.nodeId, a.currentSeq + 1⟩ ∧ r.2.1.currentSeq = a.currentSeq + 1 ∧
        a.currentSeq + 1 < 2 ^ 64)

lemma allocates_nextId (ceiling : ℕ) : Allocates a ((nextId a).1, (nextId a).2, ceiling) := by
  unfold Allocates nextId
  cases hadd : checkedAdd a.currentSeq 1 with
  | none => exact ⟨rfl, .inl ⟨rfl, rfl⟩⟩
  | some seq =>
    obtain ⟨rfl, hlt⟩ := checkedAdd_eq_some hadd
    exact ⟨rfl, .inr ⟨rfl, rfl, hlt⟩⟩

lemma allocates_allocateId (ceiling : ℕ) : Allocates a (allocateId a none ceiling) := by
  unfold allocateId
  split
  · cases checkedAdd a.persistedCeiling a.batchSize with
    | none => exact ⟨rfl, .inl ⟨rfl, rfl⟩⟩
    | some c => exact allocates_nextId { a with persistedCeiling := c } c
  · exact allocates_nextId a ceiling

lemma Registered.congr (h : Registered (d, created)) (ho : Orderly d') (hid : idOf d' = idOf d)
    (hnode : d'.allocator.nodeId = d.allocator.nodeId)
    (hseq : d'.allocator.currentSeq = d.allocator.currentSeq) : Registered (d', created) := by
  have hused : used d' = used d := by
    unfold used
    rw [hid]
  refine ⟨ho, ?_, ?_, h.nodup, ?_, ?_, ?_⟩
  · rw [hused, hid]
    exact h.known
  · rw [hused, hid]
    exact h.distinct
  · rw [hnode]
    exact h.node
  · rw [hseq]
    exact h.seq
  rw [hseq]
  exact h.range

lemma Registered.insert (h : Registered (d, created)) (ho : Orderly d')
    (hid : idOf d' = update (idOf d) slot ⟨d.allocator.nodeId, d.allocator.currentSeq + 1⟩)
    (hnode : d'.allocator.nodeId = d.allocator.nodeId)
    (hseq : d'.allocator.currentSeq = d.allocator.currentSeq + 1)
    (hlt : d.allocator.currentSeq + 1 < 2 ^ 64) :
    Registered (d', ⟨d.allocator.nodeId, d.allocator.currentSeq + 1⟩ :: created) := by
  have hnew : ⟨d.allocator.nodeId, d.allocator.currentSeq + 1⟩ ∉ created := fun hmem => by
    have := (h.range _ hmem).2.2
    dsimp only at this
    omega
  have hold : ∀ other ≠ slot, other ∈ used d' → other ∈ used d ∧
      idOf d' other = idOf d other := fun other hne hmem => by
    have he : idOf d' other = idOf d other := by rw [hid, update_of_ne hne]
    rw [mem_used, he] at hmem
    exact ⟨mem_used.mpr hmem, he⟩
  have hslot : idOf d' slot = ⟨d.allocator.nodeId, d.allocator.currentSeq + 1⟩ := by
    rw [hid, update_self]
  -- a slot other than the new one has an old identifier
  have hapart : ∀ other ≠ slot, other ∈ used d' → idOf d' other ≠ idOf d' slot :=
    fun other hne hmem he => by
      obtain ⟨hused, hsame⟩ := hold other hne hmem
      refine hnew ?_
      rw [← hslot, ← he, hsame]
      exact h.known other hused
  refine ⟨ho, fun other hmem => ?_, fun s hs t ht he => ?_, List.nodup_cons.mpr ⟨hnew, h.nodup⟩, ?_,
    ?_, ?_⟩
  · by_cases hne : other = slot
    · subst hne
      rw [hslot]
      exact List.mem_cons_self
    obtain ⟨hused, hsame⟩ := hold other hne hmem
    rw [hsame]
    exact List.mem_cons_of_mem _ (h.known other hused)
  · by_cases hsn : s = slot
    · subst hsn
      by_contra hc
      exact hapart t (Ne.symm hc) ht he.symm
    by_cases htn : t = slot
    · subst htn
      exact absurd he (hapart s hsn hs)
    obtain ⟨hus, hes⟩ := hold s hsn hs
    obtain ⟨hut, het⟩ := hold t htn ht
    rw [hes, het] at he
    exact h.distinct hus hut he
  · rw [hnode]
    exact h.node
  · dsimp only
    omega
  rw [hseq]
  intro id hmem
  rcases List.mem_cons.mp hmem with rfl | hmem
  · exact ⟨h.node, Nat.succ_pos _, le_refl _⟩
  obtain ⟨hn, hpos, hle⟩ := h.range id hmem
  exact ⟨hn, hpos, hle.trans (Nat.le_succ _)⟩

/-- What a request does to the identifiers: nothing, or it gives a new one to the first free slot. -/
lemma dispatch_ids (h : Registered (d, created)) (hstep : dispatch d req = .ok (resp, d')) :
    (handedOut req resp = [] ∧ idOf d' = idOf d ∧
        d'.allocator.nodeId = d.allocator.nodeId ∧
        d'.allocator.currentSeq = d.allocator.currentSeq ∧
        ∀ slot, Free (d'.workloads slot) → Free (d.workloads slot)) ∨
      ∃ slot w, req.tag = opWorkloadCreate ∧ findFreeWorkloadSlot d = some slot ∧
        d'.workloads = update d.workloads slot w ∧
        w.workloadId = ⟨d.allocator.nodeId, d.allocator.currentSeq + 1⟩ ∧
        handedOut req resp = [⟨d.allocator.nodeId, d.allocator.currentSeq + 1⟩] ∧
        d'.allocator.nodeId = d.allocator.nodeId ∧
        d'.allocator.currentSeq = d.allocator.currentSeq + 1 ∧
        d.allocator.currentSeq + 1 < 2 ^ 64 := by
  by_cases htag : req.tag = opWorkloadCreate
  · have hrefused : ∀ tag e, e ≠ .success → handedOut req (answer tag e) = [] := by
      intro tag e he
      unfold handedOut answer
      rw [← List.append_nil (status e), statusWord_reply, if_neg fun hc => he (asI32_injective hc.2)]
    unfold dispatch handleWorkloadCreate at hstep
    rw [if_pos htag] at hstep
    split at hstep
    · cases hstep
      exact .inl ⟨hrefused _ _ nofun, rfl, rfl, rfl, fun _ hf => hf⟩
    rename_i slot hfree
    have halloc := allocates_allocateId d.allocator d.ceilingSlot
    generalize allocateId d.allocator none d.ceilingSlot = r at halloc hstep
    obtain ⟨r, a', c⟩ := r
    dsimp only [Allocates] at halloc
    obtain ⟨hnode, ⟨hr, hseq⟩ | ⟨hr, hseq, hlt⟩⟩ := halloc
    · cases hr
      cases hstep
      exact .inl ⟨hrefused _ _ nofun, rfl, hnode, hseq, fun _ hf => hf⟩
    cases hr
    cases hstep
    refine .inr ⟨slot, _, htag, hfree, rfl, rfl, ?_, hnode, hseq, hlt⟩
    unfold handedOut
    rw [if_pos ⟨htag, statusWord_reply ..⟩, ← List.append_nil (idBytes _),
      idAt_reply (length_status _) _ h.node hlt]
  have hcreate : ∀ slot, action d req ≠ .create slot := fun slot he => htag (action_create he)
  have hout : handedOut req resp = [] := if_neg fun hc => htag hc.1
  rcases acts_block (dispatch_acts hstep) with ⟨hw, ⟨-, ha⟩ | ⟨slot, hc⟩⟩ | ⟨slot, w, hw, hwritten, ha⟩
  · exact .inl ⟨hout, by unfold idOf; rw [hw], by rw [ha], by rw [ha], fun slot hf => hw ▸ hf⟩
  · exact absurd hc (hcreate slot)
  have ha := ha.resolve_left (hcreate slot)
  obtain ⟨hstarted, hsame, -⟩ := hwritten.started.resolve_left (hcreate slot)
  refine .inl ⟨hout, funext fun other => ?_, by rw [ha], by rw [ha], fun other hf => ?_⟩
  · unfold idOf
    rw [hw]
    by_cases hne : other = slot
    · rw [hne, update_self]
      exact hsame
    · rw [update_of_ne hne]
  · rw [hw] at hf
    by_cases hne : other = slot
    · rw [hne, update_self] at hf
      exact absurd hf hstarted
    · rwa [update_of_ne hne] at hf

lemma idOf_update {w : WorkloadControlBlock} (h : d'.workloads = update d.workloads slot w) :
    idOf d' = update (idOf d) slot w.workloadId := by
  unfold idOf
  rw [h]
  exact funext (Function.apply_update (fun _ => WorkloadControlBlock.workloadId) d.workloads slot w)

lemma registered_step (h : Registered (d, created)) (hstep : dispatch d req = .ok (resp, d')) :
    Registered (d', handedOut req resp ++ created) := by
  have ho := orderly_acts h.orderly (dispatch_acts hstep)
  rcases dispatch_ids h hstep with ⟨hout, hid, hnode, hseq, -⟩ |
    ⟨slot, w, -, -, hw, hid, hout, hnode, hseq, hlt⟩
  · rw [hout]
    exact h.congr ho hid hnode hseq
  · rw [hout]
    exact h.insert ho (hid ▸ idOf_update hw) hnode hseq hlt

/-- What holds besides if the condition is met: every identifier handed out has its slot, and a
workload that is still to be submitted is in the first free one. -/
structure Placed (s : Log) : Prop extends Registered s where
  length : s.2.length = (used s.1).card
  first : ∀ slot ∈ used s.1, Free (s.1.workloads slot) → ∀ other, Free (s.1.workloads other) →
    slot ≤ other

lemma findFree_le (h : findFreeWorkloadSlot d = some slot) {other : Fin 8}
    (hf : Free (d.workloads other)) : slot ≤ other := by
  obtain ⟨-, i, hi, hget, hbefore⟩ := List.find?_eq_some_iff_getElem.mp h
  rw [List.getElem_finRange] at hget
  rw [← hget]
  by_contra hlt
  have hno := hbefore other.val (Fin.lt_def.mp (not_le.mp hlt))
  rw [List.getElem_finRange] at hno
  exact absurd hf (by simpa [Free] using hno)

lemma used_update {w : WorkloadControlBlock} (h : d'.workloads = update d.workloads slot w)
    (hw : w.workloadId ≠ nil) : used d' = insert slot (used d) := by
  ext other
  rw [Finset.mem_insert, mem_used, mem_used, idOf_update h]
  by_cases hne : other = slot
  · rw [hne, update_self]
    exact iff_of_true hw (.inl rfl)
  · rw [update_of_ne hne, or_iff_right hne]

lemma succ_ne_nil {nodeId seq : ℕ} : (⟨nodeId, seq + 1⟩ : DistributedId) ≠ nil :=
  fun h => Nat.succ_ne_zero seq (congrArg DistributedId.localSeq h)

lemma placed_step {s s' : Log} (h : Placed s) (hs : StepLog s s') : Placed s' := by
  obtain ⟨d, created⟩ := s
  obtain ⟨d', created'⟩ := s'
  obtain ⟨req, resp, hcareful, hstep, hlog⟩ := hs
  cases hlog
  refine ⟨registered_step h.toRegistered hstep, ?_, ?_⟩
  all_goals
    rcases dispatch_ids h.toRegistered hstep with ⟨hout, hid, -, -, hfree⟩ |
      ⟨slot, w, htag, hfind, hw, hid, hout, -⟩
    dsimp only
  · rw [hout, used, hid]
    exact h.length
  · have hnil := hcareful htag slot
      ((findFree_ok hfind).resolve_right (h.orderly slot).reclaimed)
    rw [hout, used_update hw (hid ▸ succ_ne_nil),
      Finset.card_insert_of_notMem fun hm => mem_used.mp hm hnil]
    exact congrArg (· + 1) h.length
  · intro slot hmem hf other hother
    rw [mem_used, hid, ← mem_used] at hmem
    exact h.first slot hmem (hfree _ hf) other (hfree _ hother)
  intro t hmem hf other hother
  rw [hw] at hf hother
  have hold : ∀ u, Free (update d.workloads slot w u) → u = slot ∨ Free (d.workloads u) :=
    fun u hu => by
      by_cases hne : u = slot
      · exact .inl hne
      · exact .inr (by rwa [update_of_ne hne] at hu)
  by_cases hne : t = slot
  · rw [hne]
    rcases hold other hother with rfl | hfree
    · exact le_rfl
    · exact findFree_le hfind hfree
  -- another slot in use is not free, since the condition was met
  rw [used_update hw (hid ▸ succ_ne_nil), Finset.mem_insert, or_iff_right hne] at hmem
  have hfree := (hold t hf).resolve_left hne
  exact absurd (hcareful htag t (hfree.resolve_right (h.orderly t).reclaimed)) (mem_used.mp hmem)

lemma placed_boot {s : Log} (h : BootLog s) : Placed s := by
  obtain ⟨d, created⟩ := s
  obtain ⟨hboot, rfl⟩ := h
  have ho := orderly_boot hboot
  have hunused : used d = ∅ := by
    refine Finset.filter_eq_empty_iff.mpr fun slot _ => not_not.mpr ?_
    unfold idOf
    rw [(boot_eq hboot).1 slot]
    rfl
  obtain ⟨nodeId, hnew⟩ := hboot
  cases hnew
  refine ⟨⟨ho, ?_, ?_, List.nodup_nil, nodeId.isLt, ?_, nofun⟩, ?_, ?_⟩
  · rw [hunused]
    exact nofun
  · rw [hunused]
    exact fun _ hs => absurd hs (Finset.notMem_empty _)
  · show 100 < 2 ^ 64
    decide
  · rw [hunused]
    rfl
  · rw [hunused]
    exact fun _ hs => absurd hs (Finset.notMem_empty _)

/-! ### Accepted identifiers -/

lemma id_within_payload : 0 + 16 ≤ 48 := by decide

/-- The identifiers handed out are accepted. -/
def Kept (d : WorkloadDaemon) (created : List DistributedId) : Prop := ∀ req resp d',
  Names req → dispatch d req = .ok (resp, d') → req.idAt 0 id_within_payload ∈ created → ¬Unknown resp

/-- No other identifier is accepted. -/
def Closed (d : WorkloadDaemon) (created : List DistributedId) : Prop := ∀ req resp d',
  Names req → dispatch d req = .ok (resp, d') → ¬Unknown resp → req.idAt 0 id_within_payload ∈ created

def idsInUse (d : WorkloadDaemon) : Finset DistributedId := (used d).image (idOf d)

variable {id : DistributedId}

lemma find_eq_none_iff (ho : Orderly d) :
    findWorkloadSlot d id = none ↔ ∀ slot, idOf d slot ≠ id := by
  unfold findWorkloadSlot
  simp only [List.find?_eq_none, List.mem_finRange, decide_eq_true_eq, forall_const, not_and, not_not]
  exact forall_congr' fun slot => ⟨fun h he => (ho slot).reclaimed (h he), fun h he => absurd he h⟩

def queryFor (id : DistributedId) : IpcMessage := reply opWorkloadQuery (idBytes id)

lemma names_queryFor (id : DistributedId) : Names (queryFor id) := by
  refine ⟨16, rfl, ?_⟩
  simp [queryFor, reply, idBytes]

lemma idAt_queryFor (hnode : id.nodeId < 2 ^ 64)
    (hseq : id.localSeq < 2 ^ 64) : (queryFor id).idAt 0 = id := by
  have h : (reply opWorkloadQuery ([] ++ (idBytes id ++ []))).idAt 0 = id :=
    idAt_reply rfl _ hnode hseq
  simpa [queryFor] using h

section

variable (h : Registered (d, created))

include h

lemma query_iff (hnode : id.nodeId < 2 ^ 64) (hseq : id.localSeq < 2 ^ 64) :
    Unknown (handleWorkloadQuery d (queryFor id)) ↔ ∀ slot, idOf d slot ≠ id := by
  have hiff := unknown_iff (d := d) (names_queryFor id) rfl
  rw [idAt_queryFor hnode hseq, find_eq_none_iff h.orderly] at hiff
  exact hiff

lemma card_idsInUse : (idsInUse d).card = (used d).card :=
  Finset.card_image_of_injOn h.distinct

lemma idsInUse_subset : idsInUse d ⊆ created.toFinset := by
  intro id hid
  obtain ⟨slot, hslot, rfl⟩ := Finset.mem_image.mp hid
  exact List.mem_toFinset.mpr (h.known slot hslot)

lemma ne_nil_of_mem (hid : id ∈ created) : id ≠ nil := by
  rintro rfl
  exact absurd (h.range _ hid).2.1 (Nat.lt_irrefl 0)

/-- **The identifiers handed out are accepted if and only if there are as many as used slots.** -/
lemma kept_iff : Kept d created ↔ created.length = (used d).card := by
  have hcard : created.toFinset.card = created.length := List.toFinset_card_of_nodup h.nodup
  have hsub : Kept d created ↔ created.toFinset ⊆ idsInUse d := by
    constructor
    · intro hkept id hid
      have hmem := List.mem_toFinset.mp hid
      obtain ⟨hnode, -, hle⟩ := h.range id hmem
      have hseq : id.localSeq < 2 ^ 64 := Nat.lt_of_le_of_lt hle h.seq
      have hknown := hkept (queryFor id) _ d (names_queryFor id) rfl
        (by rw [idAt_queryFor hnode hseq]; exact hmem)
      rw [query_iff h hnode hseq] at hknown
      push Not at hknown
      obtain ⟨slot, rfl⟩ := hknown
      exact Finset.mem_image_of_mem _ (mem_used.mpr (ne_nil_of_mem h hmem))
    intro hsub req resp d' hn hstep hmem
    rw [unknown_iff hn hstep, find_eq_none_iff h.orderly]
    obtain ⟨slot, -, he⟩ := Finset.mem_image.mp (hsub (List.mem_toFinset.mpr hmem))
    exact fun hall => hall slot he
  rw [hsub, ← hcard, ← card_idsInUse h]
  constructor
  · intro hs
    rw [Finset.Subset.antisymm hs (idsInUse_subset h)]
  intro he
  exact (Finset.eq_of_subset_of_card_le (idsInUse_subset h) (le_of_eq he)).ge

/-- **No other identifier is accepted if and only if every slot is used.** -/
lemma closed_iff : Closed d created ↔ (used d).card = 8 := by
  have hall : (used d).card = 8 ↔ ∀ slot, idOf d slot ≠ nil := by
    have huniv : (used d).card = 8 ↔ used d = Finset.univ := Finset.card_eq_iff_eq_univ (used d)
    rw [huniv, Finset.eq_univ_iff_forall]
    exact forall_congr' fun slot => mem_used
  rw [hall]
  constructor
  · intro hclosed slot hnil
    have hzero : (0 : ℕ) < 2 ^ 64 := Nat.two_pow_pos 64
    have hid := hclosed (queryFor nil) _ d (names_queryFor nil) rfl fun hu =>
      (query_iff h hzero hzero).mp hu slot hnil
    rw [idAt_queryFor hzero hzero] at hid
    exact ne_nil_of_mem h hid rfl
  intro hused req resp d' hn hstep hu
  rw [unknown_iff hn hstep, find_eq_none_iff h.orderly] at hu
  push Not at hu
  obtain ⟨slot, he⟩ := hu
  rw [← he]
  exact h.known slot (mem_used.mpr (hused slot))

end

/-- **Addressing.** After every sequence of requests that meet the condition the identifiers handed out
are accepted, and no other one is if and only if eight were handed out. The next creation keeps them
if and only if it meets the condition. -/
theorem addressable_iff (h : Reach BootLog StepLog (d, created)) :
    Kept d created ∧ (Closed d created ↔ created.length = 8) ∧
      ∀ req resp d', dispatch d req = .ok (resp, d') → handedOut req resp ≠ [] →
        (Kept d' (handedOut req resp ++ created) ↔ Careful d req) := by
  have hp : Placed (d, created) := h.invariant (I := Placed) (fun _ hs => placed_boot hs)
    fun _ _ hI hs => placed_step hI hs
  refine ⟨(kept_iff hp.toRegistered).mpr hp.length, ?_, fun req resp d' hstep hout => ?_⟩
  · rw [closed_iff hp.toRegistered, ← hp.length]
  rw [kept_iff (registered_step hp.toRegistered hstep)]
  have hnext : Careful d req → Placed (d', handedOut req resp ++ created) := fun hc =>
    placed_step hp ⟨req, resp, hc, hstep, rfl⟩
  refine ⟨fun hlength _ t ht => ?_, fun hc => (hnext hc).length⟩
  rcases dispatch_ids hp.toRegistered hstep with ⟨hnone, -⟩ | ⟨slot, w, -, hfind, hw, hid, hone, -⟩
  · exact absurd hnone hout
  -- the workload still to be submitted is in the slot that is taken
  by_contra hused
  have hslot : t = slot := le_antisymm
    (hp.first t (mem_used.mpr hused) (.inl ht) slot (findFree_ok hfind)) (findFree_le hfind (.inl ht))
  rw [hone, used_update hw (hid ▸ succ_ne_nil),
    Finset.insert_eq_of_mem (mem_used.mpr (hslot ▸ hused)), ← hp.length] at hlength
  exact Nat.succ_ne_self _ hlength

/-- The log after a request that meets the condition. -/
def serve (s : Log) (req : IpcMessage) : Except Unit Log :=
  match dispatch s.1 req with
  | .error _ => .error ()
  | .ok r => if Careful s.1 req then .ok (r.2, handedOut req r.1 ++ s.2) else .error ()

lemma step_of_serve (s : Log) (req : IpcMessage) (s' : Log) (h : serve s req = .ok s') :
    StepLog s s' := by
  unfold serve at h
  split at h
  · cases h
  next r hstep =>
    split at h
    next hc =>
      cases h
      exact ⟨req, r.1, hc, hstep, rfl⟩
    · cases h

/-- Two workloads, of which the first is submitted before the second is created. -/
theorem addressable_iff_submitted :
    ∃ s : Log, [createRequest 0, requestFirst opWorkloadSubmitDag [1], createRequest 0].foldlM serve
        (fresh, []) = .ok s ∧ s.2 = [⟨1, 102⟩, ⟨1, 101⟩] ∧ Kept s.1 s.2 ∧
      (Closed s.1 s.2 ↔ s.2.length = 8) ∧
      ∀ req resp d', dispatch s.1 req = .ok (resp, d') → handedOut req resp ≠ [] →
        (Kept d' (handedOut req resp ++ s.2) ↔ Careful s.1 req) := by
  obtain ⟨s, hs, hids⟩ := exists_ok (Q := fun s : Log => s.2 = [⟨1, 102⟩, ⟨1, 101⟩])
    (x := [createRequest 0, requestFirst opWorkloadSubmitDag [1], createRequest 0].foldlM serve
      (fresh, [])) (by decide +kernel)
  exact ⟨s, hs, hids, addressable_iff (Reach.foldlM step_of_serve (.start ⟨boot_fresh, rfl⟩) hs)⟩

/-- **A workload is displaced.** Of two workloads created in a row the first is not found any more,
while `(0, 0)` is. -/
theorem created_displaced :
    ∃ d, run fresh [createRequest 0, createRequest 0] = .ok d ∧
      (handleWorkloadCreate fresh (createRequest 0)).1.idAt 4 = ⟨1, 101⟩ ∧
      Unknown (handleWorkloadQuery d (queryFor ⟨1, 101⟩)) ∧
      ¬Unknown (handleWorkloadQuery d (queryFor ⟨1, 102⟩)) ∧
      ¬Unknown (handleWorkloadQuery d (queryFor nil)) :=
  exists_ok (by decide +kernel)

end ProjectZero.Workloadd.Addressing
