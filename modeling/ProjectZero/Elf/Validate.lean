import ProjectZero.Lib.Fallible
import ProjectZero.Lib.Layout
import ProjectZero.Mm.Vmm

/-! # Validation of executables

`validate_elf` over the bytes of an image. The arithmetic of the source is on words of 64 bits and
checked; an addition that overflows outside `checked_add`, an index beyond an array and a header read
through a pointer that leaves the image are faults. That a header lies at an aligned address, which a
debug build checks, is left out. The array of segments with its counter is the list of the segments
found so far. -/

namespace ProjectZero.Elf.Validate

open Tables Lib.Layout Lib.Fallible Mm.Vmm

def elfmag : List Byte := [0x7f, 0x45, 0x4c, 0x46]
def elfclass64 : Byte := 2
def elfdata2lsb : Byte := 1
def etExec : BitVec 16 := 2
def emX8664 : BitVec 16 := 0x3e

def ptLoad : BitVec 32 := 1
def ptNote : BitVec 32 := 4
def ptPhdr : BitVec 32 := 6
def ptGnuStack : BitVec 32 := 0x6474e551

def pfX : BitVec 32 := 1
def pfW : BitVec 32 := 2
def pfR : BitVec 32 := 4

def maxProgramHeaders : ℕ := 16

def userStackTop : ℕ := 0x7F7FFFFF0000
def userStackBase : ℕ := userStackTop - 16 * 1024
def userStackGuard : ℕ := userStackBase - 4096

inductive ElfError
  | imageTooSmall | invalidMagic | unsupportedClass | unsupportedEndian | unsupportedVersion
  | unsupportedType | unsupportedMachine | invalidHeader | unsupportedProgramHeader
  | executableStackRejected | malformedSegment | fileBoundsExceeded | virtualAddressOverflow
  | outOfUserBounds | invalidAlignment | misalignedOffsetCongruence | overlappingSegments
  | pagePermissionConflict | wwxViolation | invalidPermissions | invalidEntryPoint
  | capacityExceeded | outOfMemory | mappingFailed | stackCreationFailed | processCreationFailed
  | threadCreationFailed
  deriving DecidableEq

/-- What stops the kernel, or lets it read what is not there. -/
inductive Fault
  | overflow | indexOutOfRange | readOutsideImage
  deriving DecidableEq

abbrev Validation := Comp Fault ElfError

/-! ### Words -/

/-- `checked_add` with the error for an overflow. -/
def checkedAdd (a b : ℕ) (e : ElfError) : Validation ℕ := addWord 64 (throw e) a b

/-- `checked_mul` with the error for an overflow. -/
def checkedMul (a b : ℕ) (e : ElfError) : Validation ℕ :=
  if a * b < 2 ^ 64 then pure (a * b) else throw e

def add (a b : ℕ) : Validation ℕ := addWord 64 (fault .overflow) a b

def sub (a b : ℕ) : Validation ℕ := if b ≤ a then pure (a - b) else fault .overflow

def mul (a b : ℕ) : Validation ℕ := if a * b < 2 ^ 64 then pure (a * b) else fault .overflow

/-- `a & !0xFFF`. -/
def pageDown (a : ℕ) : ℕ := a / 4096 * 4096

def isPowerOfTwo (n : ℕ) : Bool := n ≠ 0 && n &&& (n - 1) = 0

def hasFlag (flags f : BitVec 32) : Bool := flags &&& f ≠ 0

/-! ### The bytes of the image -/

variable (image : List Byte)

def byteAt (i : ℕ) : Validation Byte :=
  if h : i < image.length then pure (image.get ⟨i, h⟩) else fault .indexOutOfRange

/-- The slice `image[start..stop]`. -/
def slice (start stop : ℕ) : Validation (List Byte) :=
  if stop ≤ image.length then pure ((image.take stop).drop start) else fault .indexOutOfRange

/-- The record of `n` bytes behind the pointer `image.as_ptr() + offset`. -/
def deref (offset n : ℕ) : Validation (Fin n → Byte) :=
  if h : offset + n ≤ image.length then
    pure fun i => image.get ⟨offset + i, by omega⟩
  else fault .readOutsideImage

structure Elf64Ehdr where
  eType : BitVec 16
  eMachine : BitVec 16
  eVersion : BitVec 32
  eEntry : ℕ
  ePhoff : ℕ
  eEhsize : BitVec 16
  ePhentsize : BitVec 16
  ePhnum : ℕ

/-- The layout of the file header. -/
def Elf64Ehdr.layout :=
  (pair (bytes 16) <| pair u16 <| pair u16 <| pair u32 <| pair u64 <| pair u64 <| pair u64 <|
    pair u32 <| pair u16 <| pair u16 <| pair u16 <| pair u16 <| pair u16 u16 : Encoding 64 _)

def Elf64Ehdr.ofBytes (b : Fin 64 → Byte) : Elf64Ehdr :=
  match Elf64Ehdr.layout b with
  | (_, eType, eMachine, eVersion, eEntry, ePhoff, _, _, eEhsize, ePhentsize, ePhnum, _) =>
    { eType, eMachine, eVersion, eEntry := eEntry.toNat, ePhoff := ePhoff.toNat, eEhsize,
      ePhentsize, ePhnum := ePhnum.toNat }

structure Elf64Phdr where
  pType : BitVec 32
  pFlags : BitVec 32
  pOffset : ℕ
  pVaddr : ℕ
  pFilesz : ℕ
  pMemsz : ℕ
  pAlign : ℕ
  deriving DecidableEq

/-- The layout of a program header. -/
def Elf64Phdr.layout :=
  (pair u32 <| pair u32 <| pair u64 <| pair u64 <| pair u64 <| pair u64 <| pair u64 u64 :
    Encoding 56 _)

def Elf64Phdr.ofBytes (b : Fin 56 → Byte) : Elf64Phdr :=
  match Elf64Phdr.layout b with
  | (pType, pFlags, pOffset, pVaddr, _, pFilesz, pMemsz, pAlign) =>
    { pType, pFlags, pOffset := pOffset.toNat, pVaddr := pVaddr.toNat, pFilesz := pFilesz.toNat,
      pMemsz := pMemsz.toNat, pAlign := pAlign.toNat }

/-! ### The file header -/

/-- Length, magic and identification. -/
def checkIdent : Validation Unit := do
  rejectIf (image.length < 64) .imageTooSmall
  rejectIf ((← slice image 0 4) ≠ elfmag) .invalidMagic
  rejectIf ((← byteAt image 4) ≠ elfclass64) .unsupportedClass
  rejectIf ((← byteAt image 5) ≠ elfdata2lsb) .unsupportedEndian
  rejectIf ((← byteAt image 6) ≠ 1) .unsupportedVersion

/-- The fields of the file header, and the bounds of the table of program headers. -/
def checkHeader (ehdr : Elf64Ehdr) : Validation Unit := do
  rejectIf (ehdr.eType ≠ etExec) .unsupportedType
  rejectIf (ehdr.eMachine ≠ emX8664) .unsupportedMachine
  rejectIf (ehdr.eVersion ≠ 1) .unsupportedVersion
  rejectIf (ehdr.eEhsize ≠ 64 ∨ ehdr.ePhentsize ≠ 56) .invalidHeader
  rejectIf (ehdr.ePhnum = 0 ∨ ehdr.ePhnum > maxProgramHeaders) .invalidHeader
  let size ← checkedMul ehdr.ePhnum 56 .fileBoundsExceeded
  let phTableEnd ← checkedAdd ehdr.ePhoff size .fileBoundsExceeded
  rejectIf (phTableEnd > image.length) .fileBoundsExceeded

/-! ### Program headers -/

structure ValidatedSegment where
  pFlags : BitVec 32
  pOffset : ℕ
  pVaddr : ℕ
  pFilesz : ℕ
  pMemsz : ℕ
  pageStart : ℕ
  pageEnd : ℕ
  deriving DecidableEq

/-- The segment of a header, with the range of its pages. -/
def Elf64Phdr.segment (ph : Elf64Phdr) (pageStart pageEnd : ℕ) : ValidatedSegment :=
  { pFlags := ph.pFlags, pOffset := ph.pOffset, pVaddr := ph.pVaddr, pFilesz := ph.pFilesz,
    pMemsz := ph.pMemsz, pageStart := pageStart, pageEnd := pageEnd }

/-- The bytes of the file that a header refers to are in the image. -/
def checkFileRange (ph : Elf64Phdr) : Validation Unit := do
  let fileEnd ← checkedAdd ph.pOffset ph.pFilesz .fileBoundsExceeded
  rejectIf (fileEnd > image.length) .fileBoundsExceeded

variable (g : AddressSpaceGeometry)

/-- The addresses of the segment are those of a user; the first one beyond it is returned. -/
def checkAddresses (ph : Elf64Phdr) : Validation ℕ := do
  rejectIf (ph.pFilesz > ph.pMemsz) .malformedSegment
  let memEnd ← checkedAdd ph.pVaddr ph.pMemsz .virtualAddressOverflow
  rejectIf (ph.pVaddr < userVaMin ∨ memEnd > userVaMaxExclusive) .outOfUserBounds
  rejectIf (isCanonical g ph.pVaddr = false) .outOfUserBounds
  if ph.pMemsz > 0 then
    rejectIf (isCanonical g (← sub memEnd 1) = false) .outOfUserBounds
  return memEnd

def checkAlignment (ph : Elf64Phdr) : Validation Unit := do
  if ph.pAlign > 1 then
    rejectIf (isPowerOfTwo ph.pAlign = false ∨ ph.pAlign < 4096) .invalidAlignment
    rejectIf (ph.pVaddr % ph.pAlign ≠ ph.pOffset % ph.pAlign) .misalignedOffsetCongruence
  rejectIf (ph.pVaddr % 4096 ≠ ph.pOffset % 4096) .misalignedOffsetCongruence

def checkPermissions (ph : Elf64Phdr) : Validation Unit := do
  rejectIf (hasFlag ph.pFlags pfW ∧ hasFlag ph.pFlags pfX) .wwxViolation
  rejectIf (hasFlag ph.pFlags pfR = false) .invalidPermissions

/-- The range of the pages of the segment, off the stack and the segments before. -/
def pageRange (segments : List ValidatedSegment) (ph : Elf64Phdr) : Validation (ℕ × ℕ) := do
  let pageStart := pageDown ph.pVaddr
  let memEnd ← checkedAdd ph.pVaddr ph.pMemsz .virtualAddressOverflow
  let rounded ← checkedAdd memEnd 0xFFF .virtualAddressOverflow
  let pageEnd := pageDown rounded
  rejectIf (pageStart < userStackTop ∧ pageEnd > userStackGuard) .overlappingSegments
  rejectIf (∃ prev ∈ segments, pageStart < prev.pageEnd ∧ pageEnd > prev.pageStart)
    .overlappingSegments
  return (pageStart, pageEnd)

/-- What the loop over the headers keeps: the segments so far, and whether the entry point is in one
of the executable ones. -/
structure Progress where
  segments : List ValidatedSegment
  entryCovered : Bool

/-- The branch of the loop for `PT_LOAD`. -/
def loadSegment (eEntry : ℕ) (ph : Elf64Phdr) (p : Progress) :
    Validation Progress := do
  checkFileRange image ph
  let memEnd ← checkAddresses g ph
  checkAlignment ph
  checkPermissions ph
  let (pageStart, pageEnd) ← pageRange p.segments ph
  let covers := hasFlag ph.pFlags pfX && decide (ph.pVaddr ≤ eEntry) && decide (eEntry < memEnd)
  demand (p.segments.length < maxProgramHeaders) .indexOutOfRange
  return { segments := p.segments ++ [ph.segment pageStart pageEnd]
           entryCovered := p.entryCovered || covers }

/-- One program header. -/
def processHeader (eEntry : ℕ) (ph : Elf64Phdr) (p : Progress) :
    Validation Progress :=
  if ph.pType = ptLoad then loadSegment image g eEntry ph p
  else if ph.pType = ptPhdr ∨ ph.pType = ptNote then do
    checkFileRange image ph
    return p
  else if ph.pType = ptGnuStack then do
    rejectIf (hasFlag ph.pFlags pfX) .executableStackRejected
    return p
  else throw .unsupportedProgramHeader

/-- The header with the number `i`, read through a pointer into the image. -/
def readPhdr (ePhoff i : ℕ) : Validation Elf64Phdr := do
  let phOffset ← add ePhoff (← mul i 56)
  return Elf64Phdr.ofBytes (← deref image phOffset 56)

/-- The loop over the program headers, with the numbers of those still to come. -/
def processHeaders (ehdr : Elf64Ehdr) :
    List ℕ → Progress → Validation Progress
  | [], p => return p
  | i :: is, p => do
    let ph ← readPhdr image ehdr.ePhoff i
    processHeaders ehdr is (← processHeader image g ehdr.eEntry ph p)

/-! ### The whole image -/

structure ElfValidationSummary where
  entryPoint : ℕ
  segments : List ValidatedSegment

def validateElf : Validation ElfValidationSummary := do
  checkIdent image
  let ehdr := Elf64Ehdr.ofBytes (← deref image 0 64)
  checkHeader image ehdr
  let p ← processHeaders image g ehdr (List.range ehdr.ePhnum) ⟨[], false⟩
  rejectIf (p.segments = []) .malformedSegment
  rejectIf (isCanonical g ehdr.eEntry = false ∨ ehdr.eEntry < userVaMin ∨
    ehdr.eEntry ≥ userVaMaxExclusive ∨ p.entryCovered = false) .invalidEntryPoint
  return { entryPoint := ehdr.eEntry, segments := p.segments }

end ProjectZero.Elf.Validate
