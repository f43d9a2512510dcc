import ProjectZero.Fs.Soundness

/-! # What directories hold

The results of the functions of `DirectoryManager` that only read, as functions of the volume, and the
changes that the others make to a directory. -/

namespace ProjectZero.Fs.Lookup

open Lib.Layout Lib.Program Fs.Types Store Journal Dir Inspect Replay Owners Fs.Mapping

variable {d : DeviceId} {s : Volume} {dir n : BitVec 32} {name : List Byte} {i : DiskInode} {b : ℕ}

/-! ### Directories -/

/-- What `read_dir_inode` finds. -/
def foundDir (s : Volume) (d : DeviceId) (dir : BitVec 32) : Except FsError DiskInode :=
  match foundInode s d dir with
  | .error e => .error e
  | .ok i => if i.fileType ≠ InodeType.directory.toU16 then .error .notDirectory else .ok i

@[simp] lemma exec_readDirInode :
    exec volume (readDirInode d dir) s = (some (foundDir s d dir), s) := by
  unfold readDirInode foundDir
  cases hf : foundInode s d dir with
  | error e => rw [exec_bind_error (by rw [exec_readInode, hf])]
  | ok i =>
    rw [exec_bind_ok (by rw [exec_readInode, hf])]
    dsimp only
    split
    · rfl
    · rfl

/-- The directory has inode `i` and its entries in block `b`. -/
structure DirAt (s : Volume) (d : DeviceId) (dir : BitVec 32) (i : DiskInode) (b : ℕ) : Prop where
  slot : IsSlot dir
  inode : inodeAt s d dir = i
  readable : Readable i
  isDir : i.fileType = InodeType.directory.toU16
  block : dir = rootDirInode ∧ b = rootDirBlock ∨
    dir ≠ rootDirInode ∧ i.directBlocks 0 ≠ 0 ∧ b = (i.directBlocks 0).toNat

lemma foundDir_eq_ok (h : foundDir s d dir = .ok i) :
    IsSlot dir ∧ inodeAt s d dir = i ∧ Readable i ∧ i.fileType = InodeType.directory.toU16 := by
  unfold foundDir at h
  cases hf : foundInode s d dir with
  | error e =>
    rw [hf] at h
    cases h
  | ok j =>
    rw [hf] at h
    dsimp only at h
    obtain ⟨hn, hr, hi⟩ := foundInode_eq_ok hf
    split at h
    · cases h
    rename_i ht
    cases h
    exact ⟨hn, hi, hr, not_not.mp ht⟩

lemma dirAt_of_found {missing : FsError} (h : foundDir s d dir = .ok i)
    (hb : dirBlockIdx dir i missing = .ok b) : DirAt s d dir i b := by
  obtain ⟨hn, hi, hr, ht⟩ := foundDir_eq_ok h
  refine ⟨hn, hi, hr, ht, ?_⟩
  unfold dirBlockIdx at hb
  split at hb
  · cases hb
    exact .inl ⟨‹_›, rfl⟩
  split at hb
  · cases hb
  cases hb
  exact .inr ⟨‹_›, ‹_›, rfl⟩

lemma DirAt.foundInode_eq (h : DirAt s d dir i b) : foundInode s d dir = .ok i := by
  rw [foundInode, if_pos h.slot, h.inode, if_pos h.readable]

lemma DirAt.dirBlockIdx_eq (h : DirAt s d dir i b) (missing : FsError) :
    dirBlockIdx dir i missing = .ok b := by
  unfold dirBlockIdx
  rcases h.block with ⟨hd, rfl⟩ | ⟨hd, h0, rfl⟩
  · rw [if_pos hd]
  · rw [if_neg hd, if_neg h0]

lemma exec_entriesBlock (h : DirAt s d dir i b) :
    exec volume (entriesBlock d dir) s = (some (.ok b), s) := by
  unfold entriesBlock
  rcases h.block with ⟨hd, rfl⟩ | ⟨hd, -, rfl⟩
  · rw [if_pos hd]
    rfl
  rw [if_neg hd, exec_bind_ok (by rw [exec_readInode, h.foundInode_eq])]
  rfl

lemma exec_bumpDir (h : foundInode s d dir = .ok i) :
    exec volume (bumpDir d dir) s =
      (some (.ok ()), setInode s d dir i.bumpGeneration.recomputeChecksum) := by
  unfold bumpDir
  rw [exec_bind_ok (by rw [exec_readInode, h]), exec_writeInode (foundInode_eq_ok h).1]

lemma DirAt.notPtrs (h : DirAt s d dir i b) (ho : Owned s d (inodeAt s d)) :
    rootDirBlock ≤ b ∧ NotPtrs s d (inodeAt s d) b := by
  rcases h.block with ⟨-, rfl⟩ | ⟨-, h0, rfl⟩
  · exact ⟨le_rfl, ho.notPtrs_low (by decide)⟩
  have hr : ref s d (inodeAt s d) dir (.direct 0) = some (i.directBlocks 0) :=
    ref_eq_some.mpr ⟨h.slot, by rw [h.inode]; rfl, h0⟩
  refine ⟨?_, fun m l hl he => ?_⟩
  · rcases ho.region' hr with hd | hd
    · have := hd.1
      simp only [dataBlockStart, rootDirBlock] at this ⊢
      omega
    rw [hd]
    decide
  have : l = i.directBlocks 0 := BitVec.eq_of_toNat_eq he
  subst this
  cases (ho.unshared hr hl).2

/-! ### Looking up a name -/

/-- The first slot of a block of entries with this name. -/
def slotOf (entries : Fin 64 → DiskDirEntry) (name : List Byte) : Option (Fin 64) :=
  (List.finRange 64).find? fun slot => Names name (entries slot)

/-- What `lookup` finds. -/
def lookedUp (s : Volume) (d : DeviceId) (dir : BitVec 32) (name : List Byte) :
    Except FsError (BitVec 32 × InodeType × Fin 64) := do
  validateFilename name
  let inode ← foundDir s d dir
  let block ← dirBlockIdx dir inode .notFound
  match slotOf (s.get d .dir block) name with
  | none => throw .notFound
  | some slot =>
    pure ((s.get d .dir block slot).inodeNum, inodeTypeOf (s.get d .dir block slot).fileType, slot)

@[simp] lemma exec_lookup :
    exec volume (lookup d dir name) s = (some (lookedUp s d dir name), s) := by
  unfold lookup lookedUp
  cases hv : validateFilename name with
  | error e => rfl
  | ok _ =>
    rw [exec_bind_ok (exec_result _)]
    cases hi : foundDir s d dir with
    | error e =>
      rw [exec_bind_error (by rw [exec_readDirInode, hi])]
      rfl
    | ok i =>
      rw [exec_bind_ok (by rw [exec_readDirInode, hi])]
      cases hb : dirBlockIdx dir i .notFound with
      | error e =>
        rw [exec_bind_error (by rw [exec_result])]
        simp [bind, Except.bind, hb]
      | ok b =>
        rw [exec_bind_ok (exec_result _), exec_bind_ok (exec_readBlock _ _ _)]
        simp only [bind, Except.bind, hb]
        rw [← slotOf]
        cases slotOf (s.get d .dir b) name <;> rfl

lemma lookedUp_eq_ok {t : BitVec 32} {ty : InodeType} {slot : Fin 64}
    (h : lookedUp s d dir name = .ok (t, ty, slot)) :
    ∃ i b, DirAt s d dir i b ∧ Names name (s.get d .dir b slot) ∧
      t = (s.get d .dir b slot).inodeNum ∧ ty = inodeTypeOf (s.get d .dir b slot).fileType := by
  unfold lookedUp at h
  cases hv : validateFilename name with
  | error e =>
    rw [hv] at h
    cases h
  | ok _ =>
    cases hi : foundDir s d dir with
    | error e =>
      rw [hv, hi] at h
      cases h
    | ok i =>
      cases hb : dirBlockIdx dir i .notFound with
      | error e =>
        simp only [hv, hi, bind, Except.bind, hb] at h
        cases h
      | ok b =>
        simp only [hv, hi, bind, Except.bind, hb] at h
        refine ⟨i, b, dirAt_of_found hi hb, ?_⟩
        split at h
        · cases h
        rename_i hs
        cases h
        exact ⟨by simpa using List.find?_some hs, rfl, rfl⟩

/-! ### Inserting a name -/

/-- The volume with an entry of a directory changed. -/
def withSlot (s : Volume) (d : DeviceId) (b : ℕ) (slot : Fin 64) (e : DiskDirEntry) : Volume :=
  s.put d b ((format .dir).symm (update (s.get d .dir b) slot e))

/-- The first free slot of a block of entries. -/
def freeSlot (entries : Fin 64 → DiskDirEntry) : Option (Fin 64) :=
  (List.finRange 64).find? fun slot => (entries slot).inodeNum = 0

/-- **What `insert` does**: an entry is written and the generation of the directory is raised. -/
lemma insert_spec (target : BitVec 32) (ty : InodeType) :
    EPost volume (Dir.insert d dir name target ty) s (fun _ s' => s' = s) fun r s' =>
      ∃ i b, DirAt s d dir i b ∧ (∀ x, lookedUp s d dir name ≠ .ok x) ∧
        freeSlot (s.get d .dir b) = some r.1 ∧ r.2 = newEntry target ty name ∧
        s' = setInode (withSlot s d b r.1 r.2) d dir i.bumpGeneration.recomputeChecksum := by
  unfold Dir.insert
  cases hv : validateFilename name with
  | error e => exact .of_run (a := .error e) rfl rfl
  | ok _ =>
    refine epost_bind (exec_result _) (epost_bind (exec_attempt exec_lookup) ?_)
    cases hl : lookedUp s d dir name with
    | ok x => exact .throw rfl
    | error e =>
      cases hi : foundDir s d dir with
      | error e =>
        exact .of_run (a := .error e) (exec_bind_error (by rw [exec_readDirInode, hi])) rfl
      | ok i =>
        refine epost_bind (by rw [exec_readDirInode, hi]) ?_
        cases hb : dirBlockIdx dir i .noSpace with
        | error e => exact .of_run (a := .error e) rfl rfl
        | ok b =>
          have hdir := dirAt_of_found hi hb
          refine epost_bind (exec_result _) (epost_bind (exec_readBlock _ _ _) ?_)
          split
          · exact .throw rfl
          rename_i hs
          refine epost_bind (exec_writeBlock _ _ _ _)
            (epost_bind (exec_writeInode hdir.slot _) (EPost.pure ?_))
          exact ⟨i, b, hdir, fun _ => nofun, hs, rfl, rfl⟩

/-! ### Reading only -/

lemma exec_hasOpenReferences :
    exec volume (hasOpenReferences d n) s = (some (.ok (decide (∃ i, (s.objects i).occupied ∧
      (s.objects i).deviceId = d ∧ (s.objects i).inodeNum = n))), s) := rfl

lemma isDirEmpty_spec : EPost volume (isDirEmpty d dir) s (fun _ s' => s' = s) fun r s' =>
    s' = s ∧ (r → ∀ i b, DirAt s d dir i b → ∀ slot, (s.get d .dir b slot).inodeNum = 0) := by
  cases hi : foundDir s d dir with
  | error e => exact .of_run (a := .error e) (exec_bind_error (by rw [exec_readDirInode, hi])) rfl
  | ok i =>
    refine epost_bind (by rw [exec_readDirInode, hi]) ?_
    cases hb : dirBlockIdx dir i .notFound with
    | error e =>
      refine .pure ⟨rfl, fun _ j c hdir => ?_⟩
      have := hdir.dirBlockIdx_eq .notFound
      have hij : j = i := hdir.inode.symm.trans (foundDir_eq_ok hi).2.1
      rw [hij, hb] at this
      cases this
    | ok b =>
      refine epost_bind (exec_readBlock _ _ _) (EPost.pure ⟨rfl, fun hr j c hdir => ?_⟩)
      have := hdir.dirBlockIdx_eq .notFound
      have hij : j = i := hdir.inode.symm.trans (foundDir_eq_ok hi).2.1
      rw [hij, hb] at this
      cases this
      simpa using hr

end ProjectZero.Fs.Lookup
