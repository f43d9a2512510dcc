import ProjectZero.Fs.Dir

/-! # Open files

`FileManager`: the table of open file descriptions, and reads and writes through them. A write is cut
into chunks of 32 KiB, each of which is one transaction of the journal. -/

namespace ProjectZero.Fs.File

open Lib.Layout Fs.Types Store Inode Journal Dir

variable (i : ObjectIdx)

def modifyObject (f : StorageObject → StorageObject) : FsM Unit := do
  let table ← objects
  setObjects (update table i (f (table i)))

variable (d : DeviceId)

def allocStorageObject (n generation openFlags : BitVec 32)
    (cachedSize : BitVec 64) : FsM ObjectIdx := do
  let table ← objects
  match (List.finRange 32).find? fun i => !(table i).occupied with
  | none => throw .tableFull
  | some i => do
    setObjects (update table i
      { occupied := true
        inodeNum := n
        generation
        deviceId := d
        cursorOffset := if openFlags &&& oAppend ≠ 0 then cachedSize else 0
        openFlags
        inFlightOps := 0
        cachedSize })
    pure i

/-- Close a description; a file without links is deleted with its last one. -/
def freeStorageObject : FsM Unit := do
  let slot := (← objects) i
  if slot.occupied then do
    modifyObject i fun _ => .empty
    if ← hasOpenReferences slot.deviceId slot.inodeNum then pure ()
    else
      match ← attempt (readInode slot.deviceId slot.inodeNum) with
      | .error _ => pure ()
      | .ok inode =>
        if inode.flags &&& inodeFlagPendingDelete ≠ 0 ∨ inode.linksCount = 0 then do
          let _ ← truncated slot.deviceId inode 0
          ignore (freeInode slot.deviceId slot.inodeNum)
        else pure ()
  else pure ()

/-! ### Pieces of a range of bytes -/

/-- The pieces of the `len` bytes from `pos` on that lie in one block each: the loops of `read` and of
`write_chunk_tx` make one round for each. A round takes a byte at least. -/
def spansFrom : ℕ → ℕ → ℕ → List (ℕ × ℕ)
  | 0, _, _ => []
  | fuel + 1, pos, len =>
    if len = 0 then []
    else
      let n := min (blockSize - pos % blockSize) len
      (pos, n) :: spansFrom fuel (pos + n) (len - n)

def spans (pos len : ℕ) : List (ℕ × ℕ) := spansFrom len pos len

/-- `n` bytes of a block. -/
def slice (data : Block) (off n : ℕ) : List Byte :=
  (List.range' off n).map fun i => data (Fin.ofNat 4096 i)

/-- The block with the bytes from `off` on replaced. -/
def overlay (data : Block) (off : ℕ) (piece : List Byte) : Block := fun i =>
  if off ≤ i.val ∧ i.val < off + piece.length then piece.getD (i.val - off) 0 else data i

/-! ### Reading -/

def readSpans (inode : DiskInode) : List (ℕ × ℕ) → FsM (List Byte)
  | [] => pure []
  | (pos, n) :: l => do
    let piece ←
      match ← bmap d inode (pos / blockSize) with
      | none => pure (List.replicate n 0)
      | some lba => do
        let data ← readBlock d .raw lba.toNat
        pure (slice data (pos % blockSize) n)
    let rest ← readSpans inode l
    pure (piece ++ rest)

/-- Read into a buffer of `len` bytes; the bytes read are the result. -/
def read (len : ℕ) : FsM (List Byte) := do
  if len = 0 then pure []
  else do
    let slot := (← objects) i
    if slot.occupied = false then throw .notFound
    else do
      let inFlightOps ← addChecked slot.inFlightOps 1
      modifyObject i fun o => { o with inFlightOps }
      if slot.cachedSize.toNat ≤ slot.cursorOffset.toNat then do
        modifyObject i fun o => { o with inFlightOps := pred o.inFlightOps }
        pure []
      else do
        let toRead := min len (slot.cachedSize.toNat - slot.cursorOffset.toNat)
        let inode ← readInode slot.deviceId slot.inodeNum
        let bytes ← readSpans slot.deviceId inode (spans slot.cursorOffset.toNat toRead)
        let cursorOffset ← addChecked slot.cursorOffset (BitVec.ofNat 64 bytes.length)
        modifyObject i fun o => { o with cursorOffset, inFlightOps := pred o.inFlightOps }
        pure bytes

/-! ### Writing -/

/-- The blocks that hold the pieces, allocated where there is none; only the first eight are kept. -/
def mapSpans : List (ℕ × ℕ) → Tx → List (BitVec 32) → FsM (Tx × List (BitVec 32))
  | [], tx, lbas => pure (tx, lbas)
  | (pos, _) :: l, tx, lbas =>
    if pos < 2 ^ 64 then do
      let (lba, tx) ← bmapAlloc d tx (pos / blockSize)
      mapSpans l tx (if lbas.length < maxDataBlocksPerTx then lbas ++ [lba] else lbas)
    else stop

/-- Put the bytes of the chunk into the blocks; `blk` is the buffer of the round before. -/
def fillSpans :
    List (ℕ × ℕ) → List (BitVec 32) → List Byte → Block → FsM Unit
  | [], _, _, _ => pure ()
  -- a ninth block is beyond `block_lbas`
  | _ :: _, [], _, _ => stop
  | (pos, n) :: l, lba :: lbas, chunk, blk => do
    let off := pos % blockSize
    let data ← if off > 0 ∨ n < blockSize then readBlock d .raw lba.toNat else pure blk
    let data := overlay data off (chunk.take n)
    writeBlock d .raw lba.toNat data
    fillSpans l lbas (chunk.drop n) data

/-- A list of a transaction as the record of the journal holds it. -/
def padded (l : List (BitVec 32)) : Fin 10 → BitVec 32 := fun i => l.getD i 0

variable (n : BitVec 32)

/-- The record of a write in state `Intent`. -/
def writeRecord (old : DiskInode) (tx : Tx) : DiskJournalBlock :=
  { DiskJournalBlock.empty with
    sequence := 1
    opType := JournalOpType.write.toU32
    state := JournalState.intent.toU32
    targetInodeNum := n
    allocatedBlocksCount := BitVec.ofNat 32 tx.allocated.length
    freedBlocksCount := BitVec.ofNat 32 tx.freed.length
    allocatedBlocks := padded tx.allocated
    freedBlocks := padded tx.freed
    oldInodeImage := old
    newInodeImage := tx.inode }

/-- The inode with the size that a write of `len` bytes at `pos` leaves. -/
def grown (inode : DiskInode) (endPos : BitVec 64) : DiskInode :=
  { inode with sizeBytes := if inode.sizeBytes.toNat < endPos.toNat then endPos else inode.sizeBytes }

/-- The blocks of a chunk and the inode after its write. -/
def mapChunk (old : DiskInode) (startPos : BitVec 64) (chunk : List Byte) :
    FsM (Tx × List (BitVec 32)) := do
  let (tx, lbas) ← mapSpans d (spans startPos.toNat chunk.length) ⟨old, [], []⟩ []
  let endPos ← addChecked startPos (BitVec.ofNat 64 chunk.length)
  pure ({ tx with inode := (grown tx.inode endPos).recomputeChecksum }, lbas)

/-- Steps 1 to 3 of the commit protocol: up to the record of state `Committed`. -/
def commitChunk (startPos : BitVec 64) (chunk : List Byte) :
    FsM Tx := do
  let old ← readInode d n
  let (tx, lbas) ← mapChunk d old startPos chunk
  writeJournalBlock d (writeRecord n old tx)
  fillSpans d (spans startPos.toNat chunk.length) lbas chunk zeroBlock
  syncAllBuffers d
  writeJournalBlock d
    { writeRecord n old tx with state := JournalState.committed.toU32 }
  pure tx

/-- Steps 4 to 6: the metadata, and the end of the transaction. -/
def finishChunk (newInode : DiskInode) : FsM Unit := do
  writeInode d n newInode
  syncAllBuffers d
  clear d 2

def writeChunkTx (startPos : BitVec 64) (chunk : List Byte) :
    FsM ℕ := do
  let tx ← commitChunk d n startPos chunk
  finishChunk d n tx.inode
  pure chunk.length

/-- `data.chunks(n)`. -/
def chunksFrom (n : ℕ) : ℕ → List Byte → List (List Byte)
  | 0, _ => []
  | fuel + 1, data =>
    if data = [] then [] else data.take n :: chunksFrom n fuel (data.drop n)

def chunks (data : List Byte) : List (List Byte) :=
  chunksFrom maxTransactionBytes data.length data

/-- Write the chunks one after the other; the first error ends the write. -/
def writeChunks (cursor : BitVec 64) :
    List (List Byte) → ℕ → FsM (ℕ × Option FsError)
  | [], total => pure (total, none)
  | chunk :: l, total => do
    let pos ← addChecked cursor (BitVec.ofNat 64 total)
    match ← attempt (writeChunkTx d n pos chunk) with
    | .ok written => writeChunks cursor l (total + written)
    | .error e => pure (total, some e)

def write (data : List Byte) : FsM ℕ := do
  if data = [] then pure 0
  else do
    let slot := (← objects) i
    if slot.occupied = false then throw .notFound
    else if slot.openFlags &&& oWrite = 0 then throw .permissionDenied
    else do
      let inFlightOps ← addChecked slot.inFlightOps 1
      modifyObject i fun o => { o with inFlightOps }
      let (total, err) ← writeChunks slot.deviceId slot.inodeNum slot.cursorOffset (chunks data) 0
      let cursorOffset ← addChecked slot.cursorOffset (BitVec.ofNat 64 total)
      modifyObject i fun o =>
        { o with
          cursorOffset
          cachedSize := if o.cachedSize.toNat < cursorOffset.toNat then cursorOffset
            else o.cachedSize
          inFlightOps := pred o.inFlightOps }
      match err with
      | none => pure total
      | some e => if total > 0 then pure total else throw e

end ProjectZero.Fs.File
