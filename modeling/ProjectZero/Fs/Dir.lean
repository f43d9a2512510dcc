import ProjectZero.Fs.Journal

/-! # Directories

`DirectoryManager`: a directory is one block of 64 entries, the first block of its inode; that of the
root directory has a fixed place. -/

namespace ProjectZero.Fs.Dir

open Lib.Layout Fs.Types Store Inode Journal

variable (d : DeviceId)

/-- `FileManager::has_open_references`. -/
def hasOpenReferences (n : BitVec 32) : FsM Bool := do
  let table ← objects
  pure (decide (∃ i, (table i).occupied ∧ (table i).deviceId = d ∧ (table i).inodeNum = n))

def validateFilename (name : List Byte) : Except FsError Unit :=
  if name = [] ∨ name.length > maxFilenameLen then .error .invalidArgument
  -- "." and ".."
  else if name = [0x2E] ∨ name = [0x2E, 0x2E] then .error .invalidArgument
  -- a null byte and the two separators
  else if name.any fun b => b = 0 ∨ b = 0x2F ∨ b = 0x5C then .error .invalidArgument
  else .ok ()

def inodeTypeOf (b : Byte) : InodeType :=
  if b = 1 then .regular else if b = 2 then .directory else .free

/-- The entry is in use and has this name. -/
def Names (name : List Byte) (e : DiskDirEntry) : Prop :=
  e.inodeNum ≠ 0 ∧ e.nameLen.toNat = name.length ∧ (List.ofFn e.name).take name.length = name
  deriving Decidable

/-- The block of a directory's entries; `missing` is the error if it has none. -/
def dirBlockIdx (n : BitVec 32) (inode : DiskInode) (missing : FsError) : Except FsError ℕ :=
  if n = rootDirInode then .ok rootDirBlock
  else if inode.directBlocks 0 = 0 then .error missing
  else .ok (inode.directBlocks 0).toNat

/-- An inode that must be a directory. -/
def readDirInode (n : BitVec 32) : FsM DiskInode := do
  let inode ← readInode d n
  if inode.fileType ≠ InodeType.directory.toU16 then throw .notDirectory else pure inode

variable (dir : BitVec 32)

def lookup (name : List Byte) :
    FsM (BitVec 32 × InodeType × Fin 64) := do
  result (validateFilename name)
  let inode ← readDirInode d dir
  let block ← result (dirBlockIdx dir inode .notFound)
  let entries ← readBlock d .dir block
  match (List.finRange 64).find? fun slot => Names name (entries slot) with
  | none => throw .notFound
  | some slot =>
    pure ((entries slot).inodeNum, inodeTypeOf (entries slot).fileType, slot)

/-- The entry that `insert` and `rename` write. -/
def newEntry (target : BitVec 32) (fileType : InodeType) (name : List Byte) : DiskDirEntry :=
  { DiskDirEntry.empty with
    inodeNum := target
    nameLen := BitVec.ofNat 8 name.length
    fileType := fileType.toU8
    name := fun i => name.getD i 0 }

def insert (name : List Byte) (target : BitVec 32)
    (fileType : InodeType) : FsM (Fin 64 × DiskDirEntry) := do
  result (validateFilename name)
  match ← attempt (lookup d dir name) with
  | .ok _ => throw .alreadyExists
  | .error _ => do
    let inode ← readDirInode d dir
    let block ← result (dirBlockIdx dir inode .noSpace)
    let entries ← readBlock d .dir block
    match (List.finRange 64).find? fun slot => (entries slot).inodeNum = 0 with
    | none => throw .noSpace
    | some slot => do
      let entry := newEntry target fileType name
      writeBlock d .dir block (update entries slot entry)
      writeInode d dir inode.bumpGeneration
      pure (slot, entry)

def createDir (parent : BitVec 32) (name : List Byte) (callerPid : BitVec 64) :
    FsM (BitVec 32 × Fin 64 × DiskDirEntry) := do
  result (validateFilename name)
  let n ← allocInode d .directory callerPid
  let inode ← readInode d n
  match ← attempt (bmapAlloc d ⟨inode, [], []⟩ 0) with
  | .error e => do
    ignore (freeInode d n)
    throw e
  | .ok (lba, tx) => do
    writeBlock d .raw lba.toNat zeroBlock
    writeInode d n { tx.inode with linksCount := 1, generation := 1 }
    match ← attempt (insert d parent name n .directory) with
    | .ok (slot, entry) => pure (n, slot, entry)
    | .error e => do
      ignore (freeInode d n)
      throw e

def isDirEmpty : FsM Bool := do
  let inode ← readDirInode d dir
  match dirBlockIdx dir inode .notFound with
  | .error _ => pure true
  | .ok block => do
    let entries ← readBlock d .dir block
    pure (decide (∀ slot, (entries slot).inodeNum = 0))

/-- The block of a directory whose entries have been looked up. -/
def entriesBlock : FsM ℕ :=
  if dir = rootDirInode then pure rootDirBlock
  else do
    let inode ← readInode d dir
    pure (inode.directBlocks 0).toNat

def bumpDir : FsM Unit := do
  let inode ← readInode d dir
  writeInode d dir inode.bumpGeneration

def dropLink (inode : DiskInode) : DiskInode := { inode with linksCount := pred inode.linksCount }

def markPending (inode : DiskInode) : DiskInode :=
  { inode with flags := inode.flags ||| inodeFlagPendingDelete }

def unlink (name : List Byte) :
    FsM (BitVec 32 × Fin 64 × DiskDirEntry) := do
  let (target, fileType, slot) ← lookup d dir name
  let empty ← if fileType = .directory then isDirEmpty d target else pure true
  if empty = false then throw .notEmpty
  else do
    let block ← entriesBlock d dir
    let entries ← readBlock d .dir block
    writeBlock d .dir block (update entries slot .empty)
    bumpDir d dir
    let inode := dropLink (← readInode d target)
    if inode.linksCount = 0 then do
      if ← hasOpenReferences d target then writeInode d target (markPending inode)
      else do
        let _ ← truncated d inode 0
        ignore (freeInode d target)
    else writeInode d target inode
    pure (target, slot, entries slot)

/-- The record a rename leaves in the journal; its images are those of an empty record unless the
destination was replaced. -/
def renameRecord (srcDir : BitVec 32) (srcSlot : Fin 64) (srcTarget dstDir : BitVec 32)
    (dstSlot : Fin 64) : DiskJournalBlockV2 :=
  { DiskJournalBlockV2.empty with
    sequence := 1
    opType := JournalOpType.rename.toU32
    state := JournalState.committed.toU32
    srcParentDirInode := srcDir
    srcDirEntrySlot := BitVec.ofNat 32 srcSlot
    srcTargetInodeNum := srcTarget
    dstParentDirInode := dstDir
    dstDirEntrySlot := BitVec.ofNat 32 dstSlot }

/-- The destination exists and is replaced. -/
def renameOver (srcDir srcTarget : BitVec 32) (srcType : InodeType)
    (srcSlot : Fin 64) (dstDir : BitVec 32) (dstName : List Byte) (dstTarget : BitVec 32)
    (dstSlot : Fin 64) : FsM Unit := do
  let oldSrc ← readInode d srcTarget
  let oldDst ← readInode d dstTarget
  let isOpen ← hasOpenReferences d dstTarget
  let newDst :=
    if (dropLink oldDst).linksCount = 0 ∧ isOpen then markPending (dropLink oldDst)
    else dropLink oldDst
  bumpDir d srcDir
  if srcDir ≠ dstDir then bumpDir d dstDir
  let srcBlock ← entriesBlock d srcDir
  let srcEntries ← readBlock d .dir srcBlock
  writeBlock d .dir srcBlock (update srcEntries srcSlot .empty)
  let dstBlock ← entriesBlock d dstDir
  let dstEntries ← readBlock d .dir dstBlock
  writeBlock d .dir dstBlock
    (update dstEntries dstSlot (newEntry srcTarget srcType dstName))
  let newDst ←
    if newDst.linksCount = 0 ∧ newDst.flags &&& inodeFlagPendingDelete = 0 then do
      let (_, left) ← truncated d newDst 0
      ignore (freeInode d dstTarget)
      pure left
    else do
      writeInode d dstTarget newDst
      pure newDst
  ignore (writeJournalBlockV2 d
    { renameRecord srcDir srcSlot srcTarget dstDir dstSlot with
      dstTargetInodeNum := dstTarget
      srcOldInodeImage := oldSrc
      srcNewInodeImage := oldSrc
      dstOldInodeImage := oldDst
      dstNewInodeImage := newDst })

def rename (srcDir : BitVec 32) (srcName : List Byte) (dstDir : BitVec 32)
    (dstName : List Byte) (flags : BitVec 32) : FsM Unit := do
  result (validateFilename srcName)
  result (validateFilename dstName)
  let (srcTarget, srcType, srcSlot) ← lookup d srcDir srcName
  match ← attempt (lookup d dstDir dstName) with
  | .ok (dstTarget, dstType, dstSlot) => do
    if flags &&& 1 ≠ 0 then throw .alreadyExists
    else if srcType ≠ dstType then throw .invalidArgument
    else do
      let empty ← if dstType = .directory then isDirEmpty d dstTarget else pure true
      if empty = false then throw .notEmpty
      else renameOver d srcDir srcTarget srcType srcSlot dstDir dstName dstTarget dstSlot
  | .error _ => do
    let (dstSlot, entry) ← insert d dstDir dstName srcTarget srcType
    let _ ← unlink d srcDir srcName
    ignore (writeJournalBlockV2 d
      { renameRecord srcDir srcSlot srcTarget dstDir dstSlot with dstDirEntryCopy := entry })

end ProjectZero.Fs.Dir
