import ProjectZero.Fs.Store

/-! # Inodes and blocks

`InodeManager`: the inode table, the two bitmaps, the map from the blocks of a file to blocks of the
volume, and the truncation of a file. -/

namespace ProjectZero.Fs.Inode

open Lib.Program Fs.Types Store

def tableBlock (n : BitVec 32) : ℕ := inodeTableStart + n.toNat / inodesPerBlock

def tableSlot (n : BitVec 32) : Fin 16 := Fin.ofNat 16 (n.toNat % inodesPerBlock)

def bitIdx (i : ℕ) : Fin 32768 := Fin.ofNat 32768 i

variable (d : DeviceId)

def readInode (n : BitVec 32) : FsM DiskInode :=
  if n = 0 ∨ n.toNat ≥ maxInodes then throw .invalidArgument
  else do
    let raw ← readBlock d .inodes (tableBlock n)
    let inode := raw (tableSlot n)
    if inode.fileType ≠ InodeType.free.toU16 ∧ ¬inode.isValidChecksum then throw .corruptMetadata
    else pure inode

def writeInode (n : BitVec 32) (inode : DiskInode) : FsM Unit :=
  if n = 0 ∨ n.toNat ≥ maxInodes then throw .invalidArgument
  else do
    let raw ← readBlock d .inodes (tableBlock n)
    writeBlock d .inodes (tableBlock n)
      (update raw (tableSlot n) inode.recomputeChecksum)

/-- Inode 0 is no inode and inode 1 is the root directory. -/
def allocInode (fileType : InodeType) (creatorPid : BitVec 64) :
    FsM (BitVec 32) := do
  let bitmap ← readBlock d .bitmap inodeBitmapBlock
  match (List.range' 2 (maxInodes - 2)).find? fun idx => !bitmap (bitIdx idx) with
  | none => throw .noInode
  | some idx => do
    writeBlock d .bitmap inodeBitmapBlock (update bitmap (bitIdx idx) true)
    let n := BitVec.ofNat 32 idx
    writeInode d n
      { DiskInode.empty with fileType := fileType.toU16, creatorPid, linksCount := 1 }
    pure n

def freeInode (n : BitVec 32) : FsM Unit :=
  if n = 0 ∨ n.toNat ≥ maxInodes then throw .invalidArgument
  else do
    let bitmap ← readBlock d .bitmap inodeBitmapBlock
    writeBlock d .bitmap inodeBitmapBlock (update bitmap (bitIdx n.toNat) false)
    writeInode d n .empty

def allocBlock : FsM (BitVec 32) := do
  let bitmap ← readBlock d .bitmap blockBitmapBlock
  match (List.range' dataBlockStart (maxVolumeBlocks - dataBlockStart)).find?
      fun lba => !bitmap (bitIdx lba) with
  | none => throw .noSpace
  | some lba => do
    writeBlock d .bitmap blockBitmapBlock (update bitmap (bitIdx lba) true)
    writeBlock d .raw lba zeroBlock
    pure (BitVec.ofNat 32 lba)

def freeBlock (lba : BitVec 32) : FsM Unit :=
  if lba.toNat < dataBlockStart ∨ lba.toNat ≥ maxVolumeBlocks then throw .invalidArgument
  else do
    let bitmap ← readBlock d .bitmap blockBitmapBlock
    writeBlock d .bitmap blockBitmapBlock (update bitmap (bitIdx lba.toNat) false)

/-! ### The blocks of a file -/

/-- Zero stands for no block. -/
def lbaOption (lba : BitVec 32) : Option (BitVec 32) := if lba = 0 then none else some lba

/-- The block of the volume that holds a block of a file. -/
def bmap (inode : DiskInode) (logicalIdx : ℕ) : FsM (Option (BitVec 32)) :=
  if h : logicalIdx < 18 then pure (lbaOption (inode.directBlocks ⟨logicalIdx, h⟩))
  else if h : logicalIdx < 18 + 1024 then
    if inode.indirectBlock = 0 then pure none
    else do
      let ptrs ← readBlock d .ptrs inode.indirectBlock.toNat
      pure (lbaOption (ptrs ⟨logicalIdx - 18, by omega⟩))
  else throw .invalidArgument

/-- The inode that a transaction works on, and the blocks it has allocated and freed. -/
structure Tx where
  inode : DiskInode
  allocated : List (BitVec 32)
  freed : List (BitVec 32)

/-- The lists of a transaction hold ten blocks; what comes later is not recorded. -/
def record (l : List (BitVec 32)) (lba : BitVec 32) : List (BitVec 32) :=
  if l.length < 10 then l ++ [lba] else l

/-- The block of the volume that holds a block of a file, allocated if there is none. In the indirect
range a block is allocated in any case, and the indirect block is replaced by a copy. -/
def bmapAlloc (tx : Tx) (logicalIdx : ℕ) : FsM (BitVec 32 × Tx) :=
  if h : logicalIdx < 18 then
    if tx.inode.directBlocks ⟨logicalIdx, h⟩ ≠ 0 then
      pure (tx.inode.directBlocks ⟨logicalIdx, h⟩, tx)
    else do
      let newLba ← allocBlock d
      let blocksCount ← addChecked tx.inode.blocksCount 1
      let directBlocks := update tx.inode.directBlocks ⟨logicalIdx, h⟩ newLba
      pure (newLba, { tx with
        inode := { tx.inode with directBlocks, blocksCount }
        allocated := record tx.allocated newLba })
  else if h : logicalIdx < 18 + 1024 then do
    let slot : Fin 1024 := ⟨logicalIdx - 18, by omega⟩
    let newDataLba ← allocBlock d
    let allocated := record tx.allocated newDataLba
    if tx.inode.indirectBlock = 0 then do
      let newIndirectLba ← allocBlock d
      writeBlock d .ptrs newIndirectLba.toNat (update (fun _ => 0) slot newDataLba)
      let blocksCount ← addChecked tx.inode.blocksCount 2
      pure (newDataLba, { tx with
        inode := { tx.inode with indirectBlock := newIndirectLba, blocksCount }
        allocated := record allocated newIndirectLba })
    else do
      let newIndirectLba ← allocBlock d
      let ptrs ← readBlock d .ptrs tx.inode.indirectBlock.toNat
      writeBlock d .ptrs newIndirectLba.toNat (update ptrs slot newDataLba)
      let blocksCount ← addChecked tx.inode.blocksCount 1
      pure (newDataLba,
        { inode := { tx.inode with indirectBlock := newIndirectLba, blocksCount }
          allocated := record allocated newIndirectLba
          freed := record tx.freed tx.inode.indirectBlock })
  else throw .invalidArgument

/-! ### Truncation

The inode of a truncation is changed in place, so that what was freed before an error stays freed. -/

abbrev TxM := ExceptT FsError (StateT Tx (Prog store))

instance : MonadLift FsM TxM where
  monadLift p := ExceptT.mk (StateT.lift p.run)

/-- `saturating_sub` by one. -/
def pred {w : ℕ} (x : BitVec w) : BitVec w := if x = 0 then 0 else x - 1

/-- A block is given back and counted. -/
def Tx.release (tx : Tx) (lba : BitVec 32) : Tx :=
  { tx with
    inode := { tx.inode with blocksCount := pred tx.inode.blocksCount }
    freed := record tx.freed lba }

def dropDirect (idx : Fin 18) : TxM Unit := do
  let lba := (← get).inode.directBlocks idx
  if lba ≠ 0 then do
    freeBlock d lba
    modify fun tx =>
      { tx with inode.directBlocks := update tx.inode.directBlocks idx 0 }.release lba
  else pure ()

def dropPtr (lba : BitVec 32) : TxM Unit :=
  if lba ≠ 0 then do
    freeBlock d lba
    modify fun tx => tx.release lba
  else pure ()

/-- All blocks of the indirect range, and the indirect block. -/
def dropIndirect : TxM Unit := do
  let oldIndirect := (← get).inode.indirectBlock
  let ptrs ← readBlock d .ptrs oldIndirect.toNat
  (List.ofFn ptrs).forM (dropPtr d)
  freeBlock d oldIndirect
  modify fun tx => { tx with inode.indirectBlock := 0 }.release oldIndirect

/-- The blocks of the indirect range from slot `keepSlots` on; the indirect block is replaced by a
copy. -/
def cutIndirect (keepSlots : ℕ) : TxM Unit := do
  let oldIndirect := (← get).inode.indirectBlock
  let newIndirect ← (allocBlock d : FsM _)
  modify fun tx =>
    { tx with
      allocated := record tx.allocated newIndirect
      freed := record tx.freed oldIndirect }
  let oldPtrs ← readBlock d .ptrs oldIndirect.toNat
  ((List.finRange 1024).drop keepSlots).forM fun i => dropPtr d (oldPtrs i)
  writeBlock d .ptrs newIndirect.toNat fun i => if i.val < keepSlots then oldPtrs i else 0
  modify fun tx => { tx with inode.indirectBlock := newIndirect }

def truncate (newSize : BitVec 64) : TxM Unit := do
  let newBlocksNeeded ←
    if newSize = 0 then pure 0
    else do
      let sum ← (addChecked newSize 4096 : FsM _)
      pure ((sum - 1).toNat / blockSize)
  ((List.finRange 18).drop newBlocksNeeded).forM (dropDirect d)
  if (← get).inode.indirectBlock ≠ 0 then
    if newBlocksNeeded ≤ 18 then dropIndirect d
    else if newBlocksNeeded < 18 + 1024 then cutIndirect d (newBlocksNeeded - 18)
  modify fun tx => { tx with inode.sizeBytes := newSize }

/-- Truncate an inode, with the lists of the transaction empty at first; the inode is the one left by
the truncation, whether it fails or not. -/
def truncated (inode : DiskInode) (newSize : BitVec 64) :
    FsM (Except FsError Unit × DiskInode) := ExceptT.lift do
  let (r, tx) ← (truncate d newSize).run ⟨inode, [], []⟩
  pure (r, tx.inode)

end ProjectZero.Fs.Inode
