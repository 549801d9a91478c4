import VertexOS.CheckedSlices
import VertexOS.VertexFsAcceptance

/-!
# The kernel's parser on byte slices

The parser of VertexFS images works on a slice of unknown length with content that nobody
has checked.  It is shown never to go wrong, and what it accepts is what
`parseVertexFsImage` accepts.
-/

namespace VertexOS.VertexFsSlices

open ByteStrings ByteImages CheckedSlices

variable (layout : VertexFsLayout) (image : Slice)

abbrev Parse := Checked VertexFsRejection

def reject {α : Type} (reason : String) : Parse α := .error (.error ⟨reason⟩)

@[irreducible]
def check (reason : String) (holds : Prop) [Decidable holds] : Parse Unit :=
  if holds then .ok () else reject reason

def fromRejection {α : Type} : Except VertexFsRejection α → Parse α
  | .ok value => .ok value
  | .error rejection => .error (.error rejection)

def isErr {α : Type} : Parse α → Parse Bool
  | .ok _ => .ok false
  | .error (.error _) => .ok true
  | .error .outOfBounds => .error .outOfBounds
  | .error .overflow => .error .overflow

def vertexfsSector (sector : Nat) : Parse Slice := do
  let offset := sector * vertexFsSectorSize
  check "sector offset overflow" (Fits offset)
  check "sector end overflow" (Fits (offset + vertexFsSectorSize))
  match image.get offset (offset + vertexFsSectorSize) with
  | some bytes => return bytes
  | none => reject "sector out of bounds"

def vertexfsSection (part : VertexFsSection) : Parse Slice := do
  let start := part.firstSector * vertexFsSectorSize
  let len := part.sectorCount * vertexFsSectorSize
  check "section offset overflow" (Fits start)
  check "section length overflow" (Fits len)
  check "section end overflow" (Fits (start + len))
  match image.get start (start + len) with
  | some bytes => return bytes
  | none => reject "section out of bounds"

def magicMatches (sector : Slice) (magic : Bytes) : Parse Bool := do
  return (← sector.field 0 magic.length) = magic

/-- The loop counts its bytes in 32 bits. -/
def checksum32 (slice : Slice) : Parse Nat :=
  if slice.length < 2 ^ 32 then .ok (vertexFsChecksum32 slice.toBytes) else .error .overflow

def checksumValid (sector : Slice) : Parse Bool := do
  let stored ← sector.number 4 vertexFsChecksumOffset
  let checksum ← checksum32 ⟨writeLe 4 sector.bytes vertexFsChecksumOffset 0, sector.length⟩
  return checksum = stored

def fixedString (buffer : Slice) (offset maxLen : Nat) : Parse Bytes :=
  if ¬Fits (offset + maxLen) ∨ buffer.length < offset + maxLen then
    reject "fixed string bounds invalid"
  else do
    fromRejection (vertexFsFixedString (← buffer.field offset maxLen))

def fixedStringEq (buffer : Slice) (offset maxLen : Nat) (expected : Bytes) : Parse Bool :=
  if ¬Fits (offset + maxLen) ∨ buffer.length < offset + maxLen then return false
  else do
    return vertexFsFixedStringEq (← buffer.field offset maxLen) expected

def layoutFromSuperblock (superblock : Slice) : Parse VertexFsLayout := do
  if ← magicMatches superblock vertexFsLayoutV2.superblockMagic then return vertexFsLayoutV2
  else if ← magicMatches superblock vertexFsLayoutV1.superblockMagic then return vertexFsLayoutV1
  else reject "bad superblock"

def layoutForImage : Parse VertexFsLayout := do
  layoutFromSuperblock (← vertexfsSector image 0)

def sectionMatches (superblock : Slice) (position : Nat)
    (part : VertexFsSection) : Parse Bool := do
  let offset ← add layout.sectionTableOffset (← mul position vertexFsSectionRecordLen)
  let firstSector ← superblock.number 8 offset
  let sectorCount ← superblock.number 8 (offset + 8)
  return firstSector = part.firstSector ∧ sectorCount = part.sectorCount

def inodeOffset (position : Nat) : Parse Nat := do
  add vertexFsInodeEntryOffset (← mul position vertexFsInodeEntryLen)

def readInode (sector : Slice) (position : Nat) : Parse VertexFsInode := do
  let offset ← inodeOffset position
  return {
    id := ← sector.number 4 offset
    kind := ← sector.number 2 (offset + 4)
    size := ← sector.number 8 (offset + 8)
    firstSector := ← sector.number 8 (offset + 16)
    sectorCount := ← sector.number 4 (offset + 24)
    checksum := ← sector.number 4 (offset + 28)
    parent := ← sector.number 4 (offset + 32) }

def inodeNameEq (sector : Slice) (position : Nat) (expected : Bytes) : Parse Bool := do
  fixedStringEq sector ((← inodeOffset position) + 36) vertexFsInodeNameBytes expected

def inodeName (sector : Slice) (position : Nat) : Parse Bytes := do
  fixedString sector ((← inodeOffset position) + 36) vertexFsInodeNameBytes

def inodeReservedZero (sector : Slice) (position : Nat) : Parse Bool := do
  return (← sector.number 2 ((← inodeOffset position) + 6)) = 0

def directoryEntryEq (sector : Slice) (position parent child kind : Nat) (name : Bytes) :
    Parse Bool := do
  let offset ← add vertexFsDirectoryEntryOffset (← mul position vertexFsDirectoryEntryLen)
  let parentField ← sector.number 4 offset
  let childField ← sector.number 4 (offset + 4)
  let kindField ← sector.number 2 (offset + 8)
  let reserved ← sector.number 2 (offset + 10)
  let named ← fixedStringEq sector (offset + 12) vertexFsDirectoryNameBytes name
  return parentField = parent ∧ childField = child ∧ kindField = kind ∧ reserved = 0 ∧ named

/-- An inode, whether its reserved field is zero, and whether it has this name. -/
def namedInode (sector : Slice) (position : Nat) (name : Bytes) :
    Parse (VertexFsInode × Bool × Bool) := do
  let inode ← readInode sector position
  return (inode, ← inodeReservedZero sector position, ← inodeNameEq sector position name)

def directoryInode (sector : Slice) (position id parent : Nat) (name : Bytes) (reason : String) :
    Parse Unit := do
  let (inode, reserved, named) ← namedInode sector position name
  check reason (inode = VertexFsLayout.directoryInode id parent ∧ reserved ∧ named)

def fileInode (sector : Slice) (position id parent : Nat) (name : Bytes) (reason : String) :
    Parse VertexFsInode := do
  let (inode, reserved, named) ← namedInode sector position name
  check reason (inode.id = id ∧ inode.kind = vertexFsKindFile ∧ inode.parent = parent ∧
    reserved ∧ named)
  return inode

def dynamicInode (sector : Slice) (dynamicIndex : Nat) :
    Parse VertexFsInode := do
  let position ← add vertexFsBaseInodeCount dynamicIndex
  let inode ← readInode sector position
  let reserved ← inodeReservedZero sector position
  let unnamed ← isErr (inodeName sector position)
  check "dynamic inode mismatch"
    (inode.id = vertexFsDynamicInodeFirst + dynamicIndex ∧ inode.kind = vertexFsKindFile ∧
      inode.parent = vertexFsInodeAppDir ∧
      inode.firstSector = layout.dynamicDataSector dynamicIndex ∧ inode.sectorCount = 1 ∧
      reserved ∧ unnamed = false)
  index maxVertexFsFiles dynamicIndex
  return inode

def parseInodeTable : Parse VertexFsParsedInodes := do
  let sector ← vertexfsSection image layout.inodeTable
  check "bad inode table" (← magicMatches sector layout.inodeMagic)
  let version ← sector.number 2 16
  check "inode table metadata invalid" (version = layout.version ∧ (← checksumValid sector))
  let count ← sector.number 2 18
  check "inode table count mismatch"
    (vertexFsBaseInodeCount ≤ count ∧
      count ≤ vertexFsBaseInodeCount + layout.dynamicFileCapacity)
  directoryInode sector 0 vertexFsInodeRoot 0 (utf8 "/") "root inode mismatch"
  let readme ← fileInode sector 1 vertexFsInodeReadme vertexFsInodeRoot (utf8 "readme")
    "readme inode mismatch"
  directoryInode sector 2 vertexFsInodeAppDir vertexFsInodeRoot (utf8 "app")
    "app directory inode mismatch"
  let appA ← fileInode sector 3 vertexFsInodeAppA vertexFsInodeAppDir (utf8 "a")
    "app/a inode mismatch"
  let dynamicCount ← sub count vertexFsBaseInodeCount
  let dynamic ← (List.range dynamicCount).mapM (dynamicInode layout sector)
  return { readme, appA, dynamic }

def present (dynamic : List VertexFsInode) :
    Parse (List VertexFsInode) := do
  (List.range layout.dynamicFileCapacity).forM (index maxVertexFsFiles)
  return dynamic.take layout.dynamicFileCapacity

def validateDirectory (dynamic : List VertexFsInode) :
    Parse Unit := do
  let sector ← vertexfsSection image layout.directory
  check "bad directory" (← magicMatches sector layout.directoryMagic)
  let version ← sector.number 2 16
  check "directory metadata invalid" (version = layout.version ∧ (← checksumValid sector))
  let count ← sector.number 2 18
  check "directory count mismatch"
    (vertexFsBaseDirectoryCount ≤ count ∧
      count ≤ vertexFsBaseDirectoryCount + layout.directoryDynamicFileCapacity)
  let dynamic ← present layout dynamic
  check "directory count mismatch" (count = vertexFsBaseDirectoryCount + dynamic.length)
  let readme ← directoryEntryEq sector 0 vertexFsInodeRoot vertexFsInodeReadme vertexFsKindFile
    (utf8 "readme")
  let appDir ← directoryEntryEq sector 1 vertexFsInodeRoot vertexFsInodeAppDir vertexFsKindDir
    (utf8 "app")
  let appA ← directoryEntryEq sector 2 vertexFsInodeAppDir vertexFsInodeAppA vertexFsKindFile
    (utf8 "a")
  check "directory entry mismatch" (readme ∧ appDir ∧ appA)
  let inodeSector ← vertexfsSection image layout.inodeTable
  dynamic.zipIdx.forM fun (inode, dynamicIndex) => do
    let name ← inodeName inodeSector (← add vertexFsBaseInodeCount dynamicIndex)
    let position ← add vertexFsBaseDirectoryCount dynamicIndex
    check "dynamic directory entry mismatch"
      (← directoryEntryEq sector position vertexFsInodeAppDir inode.id vertexFsKindFile name)

def parseJournalRecord (sector : Slice) :
    Parse (Option VertexFsJournalRecord) := do
  let targetInode ← sector.number 4 24
  let payloadLen ← sector.number 4 28
  let payloadChecksum ← sector.number 4 32
  let replayTarget ← sector.number 4 48
  let replayLen ← sector.number 4 52
  let replayChecksum ← sector.number 4 56
  let sequence ← sector.number 8 40
  check "journal replay record mismatch"
    (layout.format = .v2 → replayTarget = targetInode ∧ replayLen = payloadLen ∧
      replayChecksum = payloadChecksum ∧ sequence ≠ 0)
  check "journal payload overflow" (Fits (vertexFsJournalPayloadOffset + payloadLen))
  match sector.get vertexFsJournalPayloadOffset (vertexFsJournalPayloadOffset + payloadLen) with
  | some payload =>
    check "journal payload checksum mismatch" ((← checksum32 payload) = payloadChecksum)
    return some ⟨targetInode, payload.toBytes⟩
  | none => reject "journal payload out of bounds"

def parseJournal :
    Parse (Option VertexFsJournalRecord) := do
  let sector ← vertexfsSector image layout.journal.firstSector
  check "bad journal" (← magicMatches sector layout.journalMagic)
  let version ← sector.number 2 16
  check "journal metadata invalid" (version = layout.version ∧ (← checksumValid sector))
  let state ← sector.number 2 18
  if state = vertexFsJournalStateClean then return none
  else if state = vertexFsJournalStatePending then parseJournalRecord layout sector
  else reject "journal state unsupported"

def fileExtentPayload (inode : VertexFsInode) : Parse (Slice × Nat × Nat) := do
  check "file has no extent" (inode.sectorCount ≠ 0)
  let endSector := inode.firstSector + inode.sectorCount
  check "file extent overflow" (Fits endSector)
  let layout ← layoutForImage image
  let dataEnd ← add layout.data.firstSector layout.data.sectorCount
  check "file extent outside data section"
    (layout.data.firstSector ≤ inode.firstSector ∧ endSector ≤ dataEnd)
  let maxLen ← mul inode.sectorCount vertexFsSectorSize
  check "file length invalid" (inode.size ≤ maxLen ∧ inode.size ≤ maxVertexFsFileBytes)
  let start := inode.firstSector * vertexFsSectorSize
  check "file offset overflow" (Fits start)
  check "file data overflow" (Fits (start + inode.size))
  match image.get start (start + inode.size) with
  | some data => return (data, inode.firstSector, endSector)
  | none => reject "file data out of bounds"

def filePayload (inode : VertexFsInode) : Parse (Bytes × Nat × Nat) := do
  let (data, firstSector, endSector) ← fileExtentPayload image inode
  check "file checksum mismatch" ((← checksum32 data) = inode.checksum)
  return (data.toBytes, firstSector, endSector)

def extentStartsWith (inode : VertexFsInode) (payload : Bytes) : Bool :=
  let start := inode.firstSector * vertexFsSectorSize
  if Fits start ∧ Fits (start + payload.length) then
    (image.get start (start + payload.length)).any fun stored => stored.toBytes = payload
  else false

def recoverableFilePayload (inode : VertexFsInode)
    (journal : Option VertexFsJournalRecord) : Parse (Bytes × Nat × Nat) := do
  let (data, firstSector, endSector) ← fileExtentPayload image inode
  if (← checksum32 data) = inode.checksum then return (data.toBytes, firstSector, endSector)
  else match journal with
    | some record =>
      if record.targetInode = inode.id ∧ extentStartsWith image inode record.payload then
        return (record.payload, firstSector, endSector)
      else reject "file checksum mismatch"
    | none => reject "file checksum mismatch"

def overlap (one other : Nat × Nat) : Prop := one.1 < other.2 ∧ other.1 < one.2

instance (one other : Nat × Nat) : Decidable (overlap one other) :=
  inferInstanceAs (Decidable (_ ∧ _))

/-- Every dynamic file keeps clear of the two declared ones and of those before it, whose
extents are kept in an array. -/
def checkDynamicFiles (image : Slice) (readme appA : Nat × Nat) :
    List (Nat × Nat) → List VertexFsInode → Parse Unit
  | _, [] => .ok ()
  | prior, inode :: rest => do
    let (_, extent) ← filePayload image inode
    check "overlapping file extents" (¬(overlap extent readme ∨ overlap extent appA))
    check "overlapping file extents" (∀ other ∈ prior, ¬overlap extent other)
    index maxVertexFsFiles prior.length
    checkDynamicFiles image readme appA (prior ++ [extent]) rest

def coversSector (inode : VertexFsInode) (sector : Nat) : Bool :=
  Fits (inode.firstSector + inode.sectorCount) ∧ inode.firstSector ≤ sector ∧
    sector < inode.firstSector + inode.sectorCount

def sectorInSection (sector : Nat) (part : VertexFsSection) : Bool :=
  Fits (part.firstSector + part.sectorCount) ∧ part.firstSector ≤ sector ∧
    sector < part.firstSector + part.sectorCount

def validateFreeMap (inodes : VertexFsParsedInodes) :
    Parse Unit := do
  let sector ← vertexfsSector image layout.freeMap.firstSector
  check "bad free-space map" (← magicMatches sector layout.freeMapMagic)
  let version ← sector.number 2 16
  check "free-space metadata invalid" (version = layout.version ∧ (← checksumValid sector))
  check "free-space sector count mismatch" ((← sector.number 2 18) = vertexFsSectors)
  (List.range vertexFsSectors).forM fun number => do
    let allocated ← sector.byte (vertexFsFreeMapOffset + number)
    check "free-space allocation byte invalid" (allocated = 0 ∨ allocated = 1)
    let dynamic ← present layout inodes.dynamic
    check "free-space metadata mismatch"
      (allocated = 1 ↔ number = 0 ∨ sectorInSection number layout.inodeTable ∨
        sectorInSection number layout.directory ∨ number = layout.freeMap.firstSector ∨
        number = layout.journal.firstSector ∨ coversSector inodes.readme number ∨
        coversSector inodes.appA number ∨ dynamic.any (coversSector · number))

def replayJournal (appA : VertexFsInode) (base : Bytes) :
    Option VertexFsJournalRecord → Parse (Bytes × Bool)
  | none => return (base, false)
  | some record => do
    check "journal target unsupported"
      (record.targetInode = vertexFsInodeAppA ∧ appA.id = vertexFsInodeAppA)
    check "journal payload too large" (record.payload.length ≤ maxVertexFsFileBytes)
    let extentLen ← mul appA.sectorCount vertexFsSectorSize
    check "journal payload exceeds target extent" (record.payload.length ≤ extentLen)
    return (record.payload, true)

def checkVolume (superblock : Slice) : Parse Unit :=
  if layout.format = .v2 then do
    let _ ← fixedString superblock 32 64
    return ()
  else return ()

def checkSuperblock (superblock : Slice) : Parse Bytes := do
  checkVolume layout superblock
  check "bad superblock" (← magicMatches superblock layout.superblockMagic)
  check "unsupported superblock version" ((← superblock.number 2 16) = layout.version)
  check "unsupported sector size" ((← superblock.number 2 18) = vertexFsSectorSize)
  check "superblock checksum mismatch" (← checksumValid superblock)
  check "unsupported sector count" ((← superblock.number 4 24) = vertexFsSectors)
  check "unsupported feature flags" ((← superblock.number 4 28) = layout.featureFlags)
  let inodeTable ← sectionMatches layout superblock 0 layout.inodeTable
  let directory ← sectionMatches layout superblock 1 layout.directory
  let freeMap ← sectionMatches layout superblock 2 layout.freeMap
  let journal ← sectionMatches layout superblock 3 layout.journal
  let data ← sectionMatches layout superblock 4 layout.data
  check "unsupported section layout" (inodeTable ∧ directory ∧ freeMap ∧ journal ∧ data)
  fixedString superblock layout.generationOffset 64

def parseVertexFsImageSlice : Parse VertexFsBootFiles := do
  let superblock ← vertexfsSector image 0
  let layout ← layoutFromSuperblock superblock
  let generation ← checkSuperblock layout superblock
  let journal ← parseJournal layout image
  let inodes ← parseInodeTable layout image
  validateDirectory layout image inodes.dynamic
  let (readme, readmeExtent) ← filePayload image inodes.readme
  let (baseAppA, appAExtent) ← recoverableFilePayload image inodes.appA journal
  check "overlapping file extents" (¬overlap readmeExtent appAExtent)
  checkDynamicFiles image readmeExtent appAExtent [] (← present layout inodes.dynamic)
  validateFreeMap layout image inodes
  let (appA, journalReplayed) ← replayJournal inodes.appA baseAppA journal
  return {
    generation
    readme := { inode := inodes.readme, payload := readme }
    appA := { inode := inodes.appA, payload := appA }
    journalReplayed }

end VertexOS.VertexFsSlices
