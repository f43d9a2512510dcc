import ProjectZero.Fs.File

/-! # Operations on a volume

`format_volume` and `mount_volume`, what the system calls for files and directories do to a volume,
and the runs of a volume: sequences of these operations, each of which returns, with a result or with
an error. -/

namespace ProjectZero.Fs.Calls

open Lib.Layout Fs.Types Store Inode Journal Dir File

/-! ### Format and mount -/

def newSuperblock (totalBlocks : BitVec 64) (label : List Byte) : DiskSuperblock where
  magic := superblockMagic
  version := 1
  blockSize := 4096
  totalBlocks
  freeBlocks := BitVec.ofNat 64 (totalBlocks.toNat - dataBlockStart)
  totalInodes := 256
  freeInodes := 254
  journalBlock := 2
  blockBitmapBlock := 4
  inodeBitmapBlock := 3
  inodeTableBlock := 5
  inodeTableBlocks := 16
  rootDirInode := 1
  volumeState := 0
  mountCount := 0
  checksum := 0
  pad := 0
  volumeLabel := fun i => if i.val < 31 then label.getD i 0 else 0

local instance ne18 : NeZero 18 := ⟨by decide⟩

def newRootInode : DiskInode :=
  { DiskInode.empty with
    fileType := InodeType.directory.toU16
    linksCount := 1
    blocksCount := 1
    sizeBytes := 4096
    creatorPid := 1
    directBlocks := update (fun _ => 0) 0 21 }

variable (d : DeviceId)

def formatVolume (totalBlocks : BitVec 64) (label : List Byte) : FsM Unit :=
  if totalBlocks.toNat > maxVolumeBlocks ∨ totalBlocks.toNat < 64 then throw .invalidArgument
  else do
    writeBlock d .raw 0 zeroBlock
    writeBlock d .superblock superblockBlock
      ((newSuperblock totalBlocks label).recomputeChecksum, fun _ => 0)
    writeBlock d .journal journalBlock .empty
    writeBlock d .bitmap inodeBitmapBlock fun i => i.val < 2
    writeBlock d .bitmap blockBitmapBlock fun i => i.val < dataBlockStart
    (List.range' inodeTableStart inodeTableBlocks).forM fun b => writeBlock d .raw b zeroBlock
    writeInode d rootDirInode newRootInode.recomputeChecksum
    writeBlock d .raw rootDirBlock zeroBlock
    syncAllBuffers d

def mountVolume : FsM DiskSuperblock := do
  let (sb, rest) ← readBlock d .superblock superblockBlock
  if ¬sb.isValid then throw .invalidSuperblock
  else do
    recover d
    let mountCount := if sb.mountCount = BitVec.allOnes 32 then sb.mountCount else sb.mountCount + 1
    let sb := { sb with mountCount, volumeState := 0 }.recomputeChecksum
    writeBlock d .superblock superblockBlock (sb, rest)
    syncAllBuffers d
    pure sb

/-! ### System calls -/

/-- The file part of `SYS_FILE_OPEN`: the directory has been resolved to `dir`. -/
def fileOpen (dir : BitVec 32) (name : List Byte) (flags : BitVec 32)
    (pid : BitVec 64) : FsM ObjectIdx := do
  let n ←
    match ← attempt (lookup d dir name) with
    | .ok (n, _, _) => do
      if flags &&& oTrunc ≠ 0 then
        match ← attempt (readInode d n) with
        | .error _ => pure ()
        | .ok inode => do
          let (_, left) ← truncated d inode 0
          ignore (writeInode d n left)
      else pure ()
      pure n
    | .error .notFound =>
      if flags &&& oCreate ≠ 0 then do
        let n ← allocInode d .regular pid
        match ← attempt (insert d dir name n .regular) with
        | .ok _ => pure n
        | .error e => do
          ignore (freeInode d n)
          throw e
      else throw .notFound
    | .error e => throw e
  let inode ← readInode d n
  allocStorageObject d n inode.generation flags inode.sizeBytes

/-- The file part of `SYS_DIR_CREATE`. -/
def dirCreate (parent : BitVec 32) (name : List Byte) (pid : BitVec 64) :
    FsM ObjectIdx := do
  let (n, _, _) ← createDir d parent name pid
  allocStorageObject d n 1 (oRead ||| oWrite) 4096

/-! ### Runs -/

inductive FsOp
  | fileOpen (dir : BitVec 32) (name : List Byte) (flags : BitVec 32) (pid : BitVec 64)
  | dirCreate (parent : BitVec 32) (name : List Byte) (pid : BitVec 64)
  | fileRead (i : ObjectIdx) (len : ℕ)
  | fileWrite (i : ObjectIdx) (data : List Byte)
  | fileClose (i : ObjectIdx)
  | fileUnlink (dir : BitVec 32) (name : List Byte)
  | fileRename (srcDir : BitVec 32) (srcName : List Byte) (dstDir : BitVec 32)
      (dstName : List Byte) (flags : BitVec 32)
  | fileSync
  | remount

def FsOp.prog : FsOp → FsM Unit
  | .fileOpen dir name flags pid => do let _ ← Calls.fileOpen d dir name flags pid
  | .dirCreate parent name pid => do let _ ← Calls.dirCreate d parent name pid
  | .fileRead i len => do let _ ← File.read i len
  | .fileWrite i data => do let _ ← File.write i data
  | .fileClose i => freeStorageObject i
  | .fileUnlink dir name => do let _ ← unlink d dir name
  | .fileRename srcDir srcName dstDir dstName flags => rename d srcDir srcName dstDir dstName flags
  | .fileSync => syncAllBuffers d
  | .remount => do let _ ← mountVolume d

end ProjectZero.Fs.Calls
