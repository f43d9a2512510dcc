import ProjectZero.Fs.Inode

/-! # The journal

One block holds the record of one transaction, of the first or the second format. `recover` undoes
a record of state `Intent` and redoes one of state `Committed`. -/

namespace ProjectZero.Fs.Journal

open Fs.Types Store Inode

variable (d : DeviceId)

def writeJournalBlock (jrn : DiskJournalBlock) : FsM Unit := do
  writeBlock d .journal journalBlock jrn.recomputeChecksum
  syncBlock d journalBlock

def clear (seq : BitVec 64) : FsM Unit :=
  writeJournalBlock d { DiskJournalBlock.empty with sequence := seq }

variable (jrn : DiskJournalBlockV2)

def writeJournalBlockV2 : FsM Unit := do
  writeBlock d .journalV2 journalBlock jrn.recomputeChecksum
  syncBlock d journalBlock

/-! ### Replay -/

def IsSlot (n : BitVec 32) : Prop := n ≠ 0 ∧ n.toNat < maxInodes
  deriving Decidable

/-- An inode image as the record holds it, with its own checksum. -/
def putImage (n : BitVec 32) (image : DiskInode) : FsM Unit :=
  if IsSlot n then do
    let raw ← readBlock d .inodes (tableBlock n)
    writeBlock d .inodes (tableBlock n) (update raw (tableSlot n) image)
  else pure ()

/-- The recorded blocks: `count` entries of a list, ten at most. -/
def listed (count : BitVec 32) (lbas : Fin 10 → BitVec 32) : List (BitVec 32) :=
  (List.ofFn lbas).take (min count.toNat 10)

/-- A block that the bitmap is changed for. -/
def InData (lba : BitVec 32) : Prop := dataBlockStart ≤ lba.toNat ∧ lba.toNat < maxVolumeBlocks
  deriving Decidable

def markAll (value : Bool) (lbas : List (BitVec 32)) (bitmap : Fin 32768 → Bool) :
    Fin 32768 → Bool :=
  lbas.foldl (fun bm lba =>
    if InData lba then update bm (bitIdx lba.toNat) value else bm) bitmap

/-- Clear the bits of the allocated blocks. -/
def undoAllocations (count : BitVec 32) (lbas : Fin 10 → BitVec 32) : FsM Unit :=
  if count.toNat > 0 then do
    let bitmap ← readBlock d .bitmap blockBitmapBlock
    writeBlock d .bitmap blockBitmapBlock (markAll false (listed count lbas) bitmap)
  else pure ()

/-- Set the bits of the allocated blocks and clear those of the freed ones. -/
def redoBitmap (allocated freed : List (BitVec 32)) : FsM Unit := do
  let bitmap ← readBlock d .bitmap blockBitmapBlock
  writeBlock d .bitmap blockBitmapBlock (markAll false freed (markAll true allocated bitmap))

def rollbackTransaction (jrn : DiskJournalBlock) : FsM Unit := do
  putImage d jrn.targetInodeNum jrn.oldInodeImage
  undoAllocations d jrn.allocatedBlocksCount jrn.allocatedBlocks
  if jrn.opType = JournalOpType.create.toU32 ∧ jrn.targetInodeNum ≠ 0 then do
    let bitmap ← readBlock d .bitmap inodeBitmapBlock
    -- the index is not checked against the number of inodes
    if jrn.targetInodeNum.toNat / 8 < blockSize then
      writeBlock d .bitmap inodeBitmapBlock
        (update bitmap (bitIdx jrn.targetInodeNum.toNat) false)
    else stop
  else pure ()

/-- The entry is put into the root directory, whatever the parent is. -/
def putEntry (slot : BitVec 32) (entry : DiskDirEntry) : FsM Unit :=
  if h : slot ≠ 0xFFFFFFFF ∧ slot.toNat < 64 then do
    let dir ← readBlock d .dir rootDirBlock
    writeBlock d .dir rootDirBlock (update dir ⟨slot.toNat, h.2⟩ entry)
  else pure ()

def rollforwardTransaction (jrn : DiskJournalBlock) : FsM Unit := do
  putImage d jrn.targetInodeNum jrn.newInodeImage
  putEntry d jrn.dirEntrySlot jrn.dirEntryCopy
  redoBitmap d (listed jrn.allocatedBlocksCount jrn.allocatedBlocks)
    (listed jrn.freedBlocksCount jrn.freedBlocks)
  if IsSlot jrn.targetInodeNum then do
    let bitmap ← readBlock d .bitmap inodeBitmapBlock
    writeBlock d .bitmap inodeBitmapBlock
      (if jrn.opType = JournalOpType.create.toU32 then
        update bitmap (bitIdx jrn.targetInodeNum.toNat) true
      else if jrn.opType = JournalOpType.delete.toU32 then
        update bitmap (bitIdx jrn.targetInodeNum.toNat) false
      else bitmap)
  else pure ()

/-- An inode image through `write_inode`, whose error is dropped. -/
def putImageV2 (n : BitVec 32) (image : DiskInode) : FsM Unit :=
  if IsSlot n then ignore (writeInode d n image) else pure ()

def rollbackV2 : FsM Unit := do
  putImageV2 d jrn.srcTargetInodeNum jrn.srcOldInodeImage
  putImageV2 d jrn.dstTargetInodeNum jrn.dstOldInodeImage
  undoAllocations d jrn.allocatedBlocksCount jrn.allocatedBlocks

def rollforwardV2 : FsM Unit := do
  putImageV2 d jrn.srcTargetInodeNum jrn.srcNewInodeImage
  putImageV2 d jrn.dstTargetInodeNum jrn.dstNewInodeImage
  redoBitmap d (listed jrn.allocatedBlocksCount jrn.allocatedBlocks)
    (listed jrn.freedBlocksCount jrn.freedBlocks)

/-! ### Recovery -/

def recoverV2 : FsM Unit :=
  if jrn.state = JournalState.free.toU32 then pure ()
  else if ¬jrn.isValidChecksum then throw .corruptJournal
  else do
    if jrn.state = JournalState.intent.toU32 then do
      rollbackV2 d jrn
      clear d jrn.sequence
    else if jrn.state = JournalState.committed.toU32 then do
      rollforwardV2 d jrn
      clear d jrn.sequence
    else throw .corruptJournal
    syncAllBuffers d

def recoverV1 (jrn : DiskJournalBlock) : FsM Unit :=
  if jrn.state = JournalState.free.toU32 then pure ()
  else if jrn.magic ≠ journalMagic ∨ ¬jrn.isValidChecksum then throw .corruptJournal
  else do
    if jrn.state = JournalState.intent.toU32 then do
      rollbackTransaction d jrn
      clear d jrn.sequence
    else if jrn.state = JournalState.committed.toU32 then do
      rollforwardTransaction d jrn
      clear d jrn.sequence
    else throw .corruptJournal
    syncAllBuffers d

def recover : FsM Unit := do
  let raw ← readBlock d .raw journalBlock
  -- the magic number tells how the rest of the block is to be read
  if (format .journalV2 raw).magic = journalMagicV2 then recoverV2 d (format .journalV2 raw)
  else recoverV1 d (format .journal raw)

end ProjectZero.Fs.Journal
