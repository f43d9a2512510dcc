import ProjectZero.Lib.Layout

/-! # On-disk structures

The records ZeroFS keeps on a block device, the bytes they are laid out in, and their checksums. Every
block of 4096 bytes can be read as any of the structures; `Kind` names the ways the code reads a
block, and `format` is the layout of each. -/

namespace ProjectZero.Fs.Types

open Lib.Layout

def blockSize : ℕ := 4096
def maxVolumeBlocks : ℕ := 32768
def maxInodes : ℕ := 256
def inodesPerBlock : ℕ := 16
def inodeTableBlocks : ℕ := 16

def superblockBlock : ℕ := 1
def journalBlock : ℕ := 2
def inodeBitmapBlock : ℕ := 3
def blockBitmapBlock : ℕ := 4
def inodeTableStart : ℕ := 5
def rootDirBlock : ℕ := 21
def dataBlockStart : ℕ := 22

def rootDirInode : BitVec 32 := 1

/-- "ZERO_FS" and a zero byte. -/
def superblockMagic : Fin 8 → Byte := ![0x5A, 0x45, 0x52, 0x4F, 0x5F, 0x46, 0x53, 0x00]
def journalMagic : BitVec 64 := 0x5A45524F5F4A524E#64
def journalMagicV2 : BitVec 64 := 0x5A45524F5F4A5232#64

def maxDataBlocksPerTx : ℕ := 8
def maxTransactionBytes : ℕ := 32768

def maxFilenameLen : ℕ := 55

def inodeFlagPendingDelete : BitVec 16 := 4

def oRead : BitVec 32 := 1
def oWrite : BitVec 32 := 2
def oCreate : BitVec 32 := 4
def oTrunc : BitVec 32 := 8
def oAppend : BitVec 32 := 16

inductive InodeType
  | free
  | regular
  | directory
deriving DecidableEq

namespace InodeType

def toU16 : InodeType → BitVec 16
  | free => 0
  | regular => 1
  | directory => 2

def toU8 (t : InodeType) : Byte := t.toU16.setWidth 8

end InodeType

/-- The values of `JournalOpType` that the code stores or compares. -/
inductive JournalOpType
  | create
  | write
  | delete
  | rename

def JournalOpType.toU32 : JournalOpType → BitVec 32
  | create => 1
  | write => 2
  | delete => 4
  | rename => 5

inductive JournalState
  | free
  | intent
  | committed

def JournalState.toU32 : JournalState → BitVec 32
  | free => 0
  | intent => 1
  | committed => 2

inductive FsError
  | deviceError
  | deviceTimeout
  | invalidSuperblock
  | corruptJournal
  | corruptMetadata
  | noSpace
  | noInode
  | notFound
  | alreadyExists
  | isDirectory
  | notDirectory
  | notEmpty
  | invalidArgument
  | permissionDenied
  | tableFull
  | busy
deriving DecidableEq

/-! ### Checksums -/

def crcBit (crc : BitVec 32) : BitVec 32 :=
  (crc >>> 1) ^^^ (0xEDB88320#32 &&& -(crc &&& 1))

def crcByte (crc : BitVec 32) (b : Byte) : BitVec 32 :=
  crcBit^[8] (crc ^^^ b.setWidth 32)

def crc32 (data : List Byte) : BitVec 32 :=
  ~~~(data.foldl crcByte 0xFFFFFFFF#32)

/-! ### Superblock -/

structure DiskSuperblock where
  magic : Fin 8 → Byte
  version : BitVec 32
  blockSize : BitVec 32
  totalBlocks : BitVec 64
  freeBlocks : BitVec 64
  totalInodes : BitVec 32
  freeInodes : BitVec 32
  journalBlock : BitVec 64
  blockBitmapBlock : BitVec 64
  inodeBitmapBlock : BitVec 64
  inodeTableBlock : BitVec 64
  inodeTableBlocks : BitVec 32
  rootDirInode : BitVec 32
  volumeState : BitVec 32
  mountCount : BitVec 32
  checksum : BitVec 32
  pad : BitVec 32
  volumeLabel : Fin 32 → Byte

namespace DiskSuperblock

/-- The fields the checksum is over. -/
def head :=
  (pair (bytes 8) <| pair u32 <| pair u32 <| pair u64 <| pair u64 <| pair u32 <| pair u32 <|
    pair u64 <| pair u64 <| pair u64 <| pair u64 <| pair u32 <| pair u32 <| pair u32 u32 :
    Encoding 0x58 _)

variable (s : DiskSuperblock)

def headOf :=
  (s.magic, s.version, s.blockSize, s.totalBlocks, s.freeBlocks, s.totalInodes, s.freeInodes,
    s.journalBlock, s.blockBitmapBlock, s.inodeBitmapBlock, s.inodeTableBlock, s.inodeTableBlocks,
    s.rootDirInode, s.volumeState, s.mountCount)

def encoding : Encoding 128 DiskSuperblock :=
  Equiv.trans (pair head <| pair u32 <| pair u32 (bytes 32))
    { toFun := fun ⟨⟨magic, version, blockSize, totalBlocks, freeBlocks, totalInodes, freeInodes,
          journalBlock, blockBitmapBlock, inodeBitmapBlock, inodeTableBlock, inodeTableBlocks,
          rootDirInode, volumeState, mountCount⟩, checksum, pad, volumeLabel⟩ =>
        { magic, version, blockSize, totalBlocks, freeBlocks, totalInodes, freeInodes, journalBlock,
          blockBitmapBlock, inodeBitmapBlock, inodeTableBlock, inodeTableBlocks, rootDirInode,
          volumeState, mountCount, checksum, pad, volumeLabel }
      invFun := fun s => (s.headOf, s.checksum, s.pad, s.volumeLabel)
      left_inv := fun _ => rfl
      right_inv := fun _ => rfl }

def crc : BitVec 32 := crc32 (List.ofFn (head.symm s.headOf))

def isValid : Bool :=
  if s.magic ≠ superblockMagic then false
  else if s.version ≠ 1 ∨ s.blockSize ≠ 4096 then false
  else if s.totalBlocks.toNat > maxVolumeBlocks ∨ s.totalInodes ≠ 256 then false
  else s.crc == s.checksum

def recomputeChecksum : DiskSuperblock := { s with checksum := s.crc }

end DiskSuperblock

/-! ### Inodes -/

structure DiskInode where
  fileType : BitVec 16
  flags : BitVec 16
  linksCount : BitVec 32
  sizeBytes : BitVec 64
  blocksCount : BitVec 64
  creatorPid : BitVec 64
  ctimeTicks : BitVec 64
  mtimeTicks : BitVec 64
  generation : BitVec 32
  checksum : BitVec 32
  reserved : Fin 8 → Byte
  directBlocks : Fin 18 → BitVec 32
  indirectBlock : BitVec 32
  padIndirect : BitVec 32
  reservedExpansion : Fin 112 → Byte
deriving DecidableEq

namespace DiskInode

/-- The fields the checksum is over. -/
def head :=
  (pair u16 <| pair u16 <| pair u32 <| pair u64 <| pair u64 <| pair u64 <| pair u64 <| pair u64 u32 :
    Encoding 0x34 _)

variable (i : DiskInode)

def headOf :=
  (i.fileType, i.flags, i.linksCount, i.sizeBytes, i.blocksCount, i.creatorPid, i.ctimeTicks,
    i.mtimeTicks, i.generation)

def encoding : Encoding 256 DiskInode :=
  Equiv.trans (pair head <| pair u32 <| pair (bytes 8) <| pair (array 18 u32) <| pair u32 <|
      pair u32 (bytes 112))
    { toFun := fun ⟨⟨fileType, flags, linksCount, sizeBytes, blocksCount, creatorPid, ctimeTicks,
          mtimeTicks, generation⟩, checksum, reserved, directBlocks, indirectBlock, padIndirect,
          reservedExpansion⟩ =>
        { fileType, flags, linksCount, sizeBytes, blocksCount, creatorPid, ctimeTicks, mtimeTicks,
          generation, checksum, reserved, directBlocks, indirectBlock, padIndirect,
          reservedExpansion }
      invFun := fun i =>
        (i.headOf, i.checksum, i.reserved, i.directBlocks, i.indirectBlock, i.padIndirect,
          i.reservedExpansion)
      left_inv := fun _ => rfl
      right_inv := fun _ => rfl }

def bumpGeneration : DiskInode :=
  if i.generation + 1 = 0 then { i with generation := 1 }
  else { i with generation := i.generation + 1 }

def empty : DiskInode where
  fileType := 0
  flags := 0
  linksCount := 0
  sizeBytes := 0
  blocksCount := 0
  creatorPid := 0
  ctimeTicks := 0
  mtimeTicks := 0
  generation := 1
  checksum := 0
  reserved := fun _ => 0
  directBlocks := fun _ => 0
  indirectBlock := 0
  padIndirect := 0
  reservedExpansion := fun _ => 0

def crc : BitVec 32 := crc32 (List.ofFn (head.symm i.headOf))

def isValidChecksum : Bool := i.crc == i.checksum

def recomputeChecksum : DiskInode := { i with checksum := i.crc }

lemma headOf_checksum (c : BitVec 32) : headOf { i with checksum := c } = i.headOf := rfl

@[simp] lemma isValidChecksum_recomputeChecksum : i.recomputeChecksum.isValidChecksum := by
  rw [isValidChecksum, beq_iff_eq, crc, recomputeChecksum, headOf_checksum]
  rfl

end DiskInode

/-! ### Directory entries -/

structure DiskDirEntry where
  inodeNum : BitVec 32
  nameLen : Byte
  fileType : Byte
  pad : BitVec 16
  name : Fin 55 → Byte
  nullTerminator : Byte
deriving DecidableEq

namespace DiskDirEntry

def encoding : Encoding 64 DiskDirEntry :=
  Equiv.trans (pair u32 <| pair u8 <| pair u8 <| pair u16 <| pair (bytes 55) u8)
    { toFun := fun ⟨inodeNum, nameLen, fileType, pad, name, nullTerminator⟩ =>
        { inodeNum, nameLen, fileType, pad, name, nullTerminator }
      invFun := fun e => (e.inodeNum, e.nameLen, e.fileType, e.pad, e.name, e.nullTerminator)
      left_inv := fun _ => rfl
      right_inv := fun _ => rfl }

def empty : DiskDirEntry where
  inodeNum := 0
  nameLen := 0
  fileType := 0
  pad := 0
  name := fun _ => 0
  nullTerminator := 0

end DiskDirEntry

/-! ### Journal records -/

structure DiskJournalBlock where
  magic : BitVec 64
  sequence : BitVec 64
  formatVersion : BitVec 32
  opType : BitVec 32
  state : BitVec 32
  targetInodeNum : BitVec 32
  parentDirInode : BitVec 32
  dirEntrySlot : BitVec 32
  allocatedBlocksCount : BitVec 32
  freedBlocksCount : BitVec 32
  allocatedBlocks : Fin 10 → BitVec 32
  freedBlocks : Fin 10 → BitVec 32
  dirEntryCopy : DiskDirEntry
  oldInodeImage : DiskInode
  newInodeImage : DiskInode
  checksum : BitVec 32
  reserved : Fin 3388 → Byte

namespace DiskJournalBlock

/-- The fields the checksum is over. -/
def head :=
  (pair u64 <| pair u64 <| pair u32 <| pair u32 <| pair u32 <| pair u32 <| pair u32 <| pair u32 <|
    pair u32 <| pair u32 <| pair (array 10 u32) <| pair (array 10 u32) <|
    pair DiskDirEntry.encoding <| pair DiskInode.encoding DiskInode.encoding : Encoding 0x2C0 _)

variable (j : DiskJournalBlock)

def headOf :=
  (j.magic, j.sequence, j.formatVersion, j.opType, j.state, j.targetInodeNum, j.parentDirInode,
    j.dirEntrySlot, j.allocatedBlocksCount, j.freedBlocksCount, j.allocatedBlocks, j.freedBlocks,
    j.dirEntryCopy, j.oldInodeImage, j.newInodeImage)

def encoding : Encoding 4096 DiskJournalBlock :=
  Equiv.trans (pair head <| pair u32 (bytes 3388))
    { toFun := fun ⟨⟨magic, sequence, formatVersion, opType, state, targetInodeNum, parentDirInode,
          dirEntrySlot, allocatedBlocksCount, freedBlocksCount, allocatedBlocks, freedBlocks,
          dirEntryCopy, oldInodeImage, newInodeImage⟩, checksum, reserved⟩ =>
        { magic, sequence, formatVersion, opType, state, targetInodeNum, parentDirInode,
          dirEntrySlot, allocatedBlocksCount, freedBlocksCount, allocatedBlocks, freedBlocks,
          dirEntryCopy, oldInodeImage, newInodeImage, checksum, reserved }
      invFun := fun j => (j.headOf, j.checksum, j.reserved)
      left_inv := fun _ => rfl
      right_inv := fun _ => rfl }

def empty : DiskJournalBlock where
  magic := journalMagic
  sequence := 0
  formatVersion := 1
  opType := 0
  state := 0
  targetInodeNum := 0
  parentDirInode := 0
  dirEntrySlot := 0xFFFFFFFF
  allocatedBlocksCount := 0
  freedBlocksCount := 0
  allocatedBlocks := fun _ => 0
  freedBlocks := fun _ => 0
  dirEntryCopy := .empty
  oldInodeImage := .empty
  newInodeImage := .empty
  checksum := 0
  reserved := fun _ => 0

def crc : BitVec 32 := crc32 (List.ofFn (head.symm j.headOf))

def isValidChecksum : Bool := j.crc == j.checksum

def recomputeChecksum : DiskJournalBlock := { j with checksum := j.crc }

lemma headOf_checksum (c : BitVec 32) : headOf { j with checksum := c } = j.headOf := rfl

@[simp] lemma isValidChecksum_recomputeChecksum : j.recomputeChecksum.isValidChecksum := by
  rw [isValidChecksum, beq_iff_eq, crc, recomputeChecksum, headOf_checksum]
  rfl

end DiskJournalBlock

structure DiskJournalBlockV2 where
  magic : BitVec 64
  sequence : BitVec 64
  formatVersion : BitVec 32
  opType : BitVec 32
  state : BitVec 32
  flags : BitVec 32
  srcParentDirInode : BitVec 32
  srcDirEntrySlot : BitVec 32
  srcTargetInodeNum : BitVec 32
  pad0 : BitVec 32
  dstParentDirInode : BitVec 32
  dstDirEntrySlot : BitVec 32
  dstTargetInodeNum : BitVec 32
  pad1 : BitVec 32
  allocatedBlocksCount : BitVec 32
  freedBlocksCount : BitVec 32
  allocatedBlocks : Fin 10 → BitVec 32
  freedBlocks : Fin 10 → BitVec 32
  srcDirEntryCopy : DiskDirEntry
  dstDirEntryCopy : DiskDirEntry
  srcOldInodeImage : DiskInode
  srcNewInodeImage : DiskInode
  dstOldInodeImage : DiskInode
  dstNewInodeImage : DiskInode
  checksum : BitVec 32
  reserved : Fin 2788 → Byte

namespace DiskJournalBlockV2

/-- The fields the checksum is over. -/
def head :=
  (pair u64 <| pair u64 <| pair u32 <| pair u32 <| pair u32 <| pair u32 <| pair u32 <| pair u32 <|
    pair u32 <| pair u32 <| pair u32 <| pair u32 <| pair u32 <| pair u32 <| pair u32 <| pair u32 <|
    pair (array 10 u32) <| pair (array 10 u32) <| pair DiskDirEntry.encoding <|
    pair DiskDirEntry.encoding <| pair DiskInode.encoding <| pair DiskInode.encoding <|
    pair DiskInode.encoding DiskInode.encoding : Encoding 0x518 _)

variable (j : DiskJournalBlockV2)

def headOf :=
  (j.magic, j.sequence, j.formatVersion, j.opType, j.state, j.flags, j.srcParentDirInode,
    j.srcDirEntrySlot, j.srcTargetInodeNum, j.pad0, j.dstParentDirInode, j.dstDirEntrySlot,
    j.dstTargetInodeNum, j.pad1, j.allocatedBlocksCount, j.freedBlocksCount, j.allocatedBlocks,
    j.freedBlocks, j.srcDirEntryCopy, j.dstDirEntryCopy, j.srcOldInodeImage, j.srcNewInodeImage,
    j.dstOldInodeImage, j.dstNewInodeImage)

def encoding : Encoding 4096 DiskJournalBlockV2 :=
  Equiv.trans (pair head <| pair u32 (bytes 2788))
    { toFun := fun ⟨⟨magic, sequence, formatVersion, opType, state, flags, srcParentDirInode,
          srcDirEntrySlot, srcTargetInodeNum, pad0, dstParentDirInode, dstDirEntrySlot,
          dstTargetInodeNum, pad1, allocatedBlocksCount, freedBlocksCount, allocatedBlocks,
          freedBlocks, srcDirEntryCopy, dstDirEntryCopy, srcOldInodeImage, srcNewInodeImage,
          dstOldInodeImage, dstNewInodeImage⟩, checksum, reserved⟩ =>
        { magic, sequence, formatVersion, opType, state, flags, srcParentDirInode, srcDirEntrySlot,
          srcTargetInodeNum, pad0, dstParentDirInode, dstDirEntrySlot, dstTargetInodeNum, pad1,
          allocatedBlocksCount, freedBlocksCount, allocatedBlocks, freedBlocks, srcDirEntryCopy,
          dstDirEntryCopy, srcOldInodeImage, srcNewInodeImage, dstOldInodeImage, dstNewInodeImage,
          checksum, reserved }
      invFun := fun j => (j.headOf, j.checksum, j.reserved)
      left_inv := fun _ => rfl
      right_inv := fun _ => rfl }

def empty : DiskJournalBlockV2 where
  magic := journalMagicV2
  sequence := 0
  formatVersion := 2
  opType := 0
  state := 0
  flags := 0
  srcParentDirInode := 0
  srcDirEntrySlot := 0xFFFFFFFF
  srcTargetInodeNum := 0
  pad0 := 0
  dstParentDirInode := 0
  dstDirEntrySlot := 0xFFFFFFFF
  dstTargetInodeNum := 0
  pad1 := 0
  allocatedBlocksCount := 0
  freedBlocksCount := 0
  allocatedBlocks := fun _ => 0
  freedBlocks := fun _ => 0
  srcDirEntryCopy := .empty
  dstDirEntryCopy := .empty
  srcOldInodeImage := .empty
  srcNewInodeImage := .empty
  dstOldInodeImage := .empty
  dstNewInodeImage := .empty
  checksum := 0
  reserved := fun _ => 0

def crc : BitVec 32 := crc32 (List.ofFn (head.symm j.headOf))

def isValidChecksum : Bool := j.crc == j.checksum

def recomputeChecksum : DiskJournalBlockV2 := { j with checksum := j.crc }

lemma headOf_checksum (c : BitVec 32) : headOf { j with checksum := c } = j.headOf := rfl

@[simp] lemma isValidChecksum_recomputeChecksum : j.recomputeChecksum.isValidChecksum := by
  rw [isValidChecksum, beq_iff_eq, crc, recomputeChecksum, headOf_checksum]
  rfl

end DiskJournalBlockV2

/-! ### Blocks -/

abbrev Block := Fin 4096 → Byte

/-- The structures a block is read as. -/
inductive Kind
  | raw
  | superblock
  | journal
  | journalV2
  | bitmap
  | inodes
  | dir
  | ptrs
deriving DecidableEq

/-- What a block holds when it is read as a structure. -/
abbrev View : Kind → Type
  | .raw => Block
  | .superblock => DiskSuperblock × (Fin 3968 → Byte)
  | .journal => DiskJournalBlock
  | .journalV2 => DiskJournalBlockV2
  | .bitmap => Fin 32768 → Bool
  | .inodes => Fin 16 → DiskInode
  | .dir => Fin 64 → DiskDirEntry
  | .ptrs => Fin 1024 → BitVec 32

/-- The layout of each structure in a block. -/
def format : (k : Kind) → Encoding 4096 (View k)
  | .raw => bytes 4096
  | .superblock => pair DiskSuperblock.encoding (bytes 3968)
  | .journal => DiskJournalBlock.encoding
  | .journalV2 => DiskJournalBlockV2.encoding
  | .bitmap => bitmap 4096
  | .inodes => array 16 DiskInode.encoding
  | .dir => array 64 DiskDirEntry.encoding
  | .ptrs => array 1024 u32

def zeroBlock : Block := fun _ => 0

end ProjectZero.Fs.Types
