import VertexOS.ByteImages
import VertexOS.VfsPaths

/-!
# The VertexFS image

Sixty-four sectors of 512 bytes: a superblock, an inode table, a directory, a
free-space map, a one-record journal and the data sectors, in two formats.
-/

namespace VertexOS

open ByteStrings ByteImages

def maxVertexFsFiles : Nat := 48
def maxVertexFsFileBytes : Nat := 512
def vertexFsSectorSize : Nat := 512
def vertexFsSectors : Nat := 64
def vertexFsImageBytes : Nat := vertexFsSectorSize * vertexFsSectors
def vertexFsChecksumOffset : Nat := 20
def vertexFsSectionRecordLen : Nat := 16
def vertexFsInodeEntryOffset : Nat := 32
def vertexFsInodeEntryLen : Nat := 64
def vertexFsInodeNameBytes : Nat := 28
def vertexFsDirectoryEntryOffset : Nat := 32
def vertexFsDirectoryEntryLen : Nat := 64
def vertexFsDirectoryNameBytes : Nat := vertexFsDirectoryEntryLen - 12
def vertexFsInodeRoot : Nat := 1
def vertexFsInodeReadme : Nat := 2
def vertexFsInodeAppDir : Nat := 3
def vertexFsInodeAppA : Nat := 4
def vertexFsBaseInodeCount : Nat := 4
def vertexFsBaseDirectoryCount : Nat := 3
def vertexFsDynamicInodeFirst : Nat := 5
def vertexFsKindDir : Nat := 1
def vertexFsKindFile : Nat := 2
def vertexFsJournalStateClean : Nat := 0
def vertexFsJournalStatePending : Nat := 1
def vertexFsJournalPayloadOffset : Nat := 64
def vertexFsFreeMapOffset : Nat := 32

inductive VertexFsFormat where
  | v1
  | v2
deriving DecidableEq, Repr

structure VertexFsSection where
  firstSector : Nat
  sectorCount : Nat
deriving DecidableEq, Repr

namespace VertexFsSection

def address (part : VertexFsSection) (offset : Nat) : Nat :=
  part.firstSector * vertexFsSectorSize + offset

def byteCount (part : VertexFsSection) : Nat := part.sectorCount * vertexFsSectorSize

def Has (part : VertexFsSection) (sector : Nat) : Prop :=
  part.firstSector ≤ sector ∧ sector < part.firstSector + part.sectorCount

instance (part : VertexFsSection) (sector : Nat) : Decidable (part.Has sector) :=
  inferInstanceAs (Decidable (_ ∧ _))

end VertexFsSection

structure VertexFsLayout where
  format : VertexFsFormat
  superblockMagic : Bytes
  inodeMagic : Bytes
  directoryMagic : Bytes
  freeMapMagic : Bytes
  journalMagic : Bytes
  version : Nat
  featureFlags : Nat
  generationOffset : Nat
  sectionTableOffset : Nat
  inodeTable : VertexFsSection
  directory : VertexFsSection
  freeMap : VertexFsSection
  journal : VertexFsSection
  data : VertexFsSection
  dynamicFileCapacity : Nat
  directoryDynamicFileCapacity : Nat

def vertexFsMagic (text : String) : Bytes :=
  utf8 text ++ List.replicate (16 - (utf8 text).length) 0

def vertexFsLayoutV1 : VertexFsLayout where
  format := .v1
  superblockMagic := vertexFsMagic "VERTEXFSV1"
  inodeMagic := vertexFsMagic "VFSINODEV1"
  directoryMagic := vertexFsMagic "VFSDIRV1"
  freeMapMagic := vertexFsMagic "VFSFREEV1"
  journalMagic := vertexFsMagic "VFSJOURNALV1"
  version := 1
  featureFlags := 1 + 2 + 4 + 8
  generationOffset := 32
  sectionTableOffset := 128
  inodeTable := ⟨1, 2⟩
  directory := ⟨3, 2⟩
  freeMap := ⟨5, 1⟩
  journal := ⟨6, 1⟩
  data := ⟨7, 57⟩
  dynamicFileCapacity := 11
  directoryDynamicFileCapacity := 12

def vertexFsLayoutV2 : VertexFsLayout where
  format := .v2
  superblockMagic := vertexFsMagic "VERTEXFSV2"
  inodeMagic := vertexFsMagic "VFSINODEV2"
  directoryMagic := vertexFsMagic "VFSDIRV2"
  freeMapMagic := vertexFsMagic "VFSFREEV2"
  journalMagic := vertexFsMagic "VFSJOURNALV2"
  version := 2
  featureFlags := 1 + 2 + 4 + 8 + 16
  generationOffset := 96
  sectionTableOffset := 192
  inodeTable := ⟨1, 8⟩
  directory := ⟨9, 8⟩
  freeMap := ⟨17, 1⟩
  journal := ⟨18, 1⟩
  data := ⟨19, 45⟩
  dynamicFileCapacity := 43
  directoryDynamicFileCapacity := 60

structure VertexFsRejection where
  reason : String
deriving DecidableEq, Repr

def rejectVertexFsImage {α : Type} (reason : String) : Except VertexFsRejection α :=
  .error ⟨reason⟩

def vertexFsCheck (reason : String) (holds : Prop) [Decidable holds] :
    Except VertexFsRejection Unit :=
  if holds then .ok () else rejectVertexFsImage reason

/-- The weighted byte sum of all checksums, from the weight of the first byte on. -/
def weightedSum : Nat → Bytes → Nat
  | _, [] => 0
  | weight, byte :: rest => byte.toNat * weight + weightedSum (weight + 1) rest

def vertexFsChecksum32 (bytes : Bytes) : Nat := weightedSum 1 bytes % 2 ^ 32

def vertexFsSectionChecksum (image : Image) (part : VertexFsSection) : Nat :=
  let zeroed := writeLe 4 image (part.address vertexFsChecksumOffset) 0
  vertexFsChecksum32 (readBytes zeroed (part.address 0) part.byteCount)

def vertexFsChecksumValid (image : Image) (part : VertexFsSection) : Bool :=
  vertexFsSectionChecksum image part = readLe 4 image (part.address vertexFsChecksumOffset)

def vertexFsMagicMatches (image : Image) (part : VertexFsSection) (magic : Bytes) : Bool :=
  readBytes image (part.address 0) magic.length = magic

def vertexFsNameByte (byte : UInt8) : Bool := 32 ≤ byte ∧ byte < 127

def vertexFsFixedString (field : Bytes) : Except VertexFsRejection Bytes :=
  let text := field.takeWhile (· ≠ 0)
  if ¬text.all vertexFsNameByte then rejectVertexFsImage "fixed string byte invalid"
  else if text = [] then rejectVertexFsImage "fixed string empty"
  else if ¬(field.drop text.length).all (· = 0) then
    rejectVertexFsImage "fixed string not zero padded"
  else .ok text

def vertexFsFixedStringEq (field expected : Bytes) : Bool :=
  expected ≠ [] ∧ expected.length ≤ field.length ∧
    field = expected ++ List.replicate (field.length - expected.length) 0

structure VertexFsInode where
  id : Nat
  kind : Nat
  size : Nat
  firstSector : Nat
  sectorCount : Nat
  checksum : Nat
  parent : Nat
deriving DecidableEq, Repr

structure VertexFsBootFile where
  inode : VertexFsInode
  payload : Bytes
deriving DecidableEq, Repr

structure VertexFsBootFiles where
  generation : Bytes
  readme : VertexFsBootFile
  appA : VertexFsBootFile
  journalReplayed : Bool
deriving DecidableEq, Repr

structure VertexFsParsedInodes where
  readme : VertexFsInode
  appA : VertexFsInode
  dynamic : List VertexFsInode
deriving DecidableEq, Repr

structure VertexFsJournalRecord where
  targetInode : Nat
  payload : Bytes
deriving DecidableEq, Repr

def vertexFsSuperblock : VertexFsSection := ⟨0, 1⟩

def vertexFsLayoutFromSuperblock (image : Image) : Except VertexFsRejection VertexFsLayout :=
  if vertexFsMagicMatches image vertexFsSuperblock vertexFsLayoutV2.superblockMagic then
    .ok vertexFsLayoutV2
  else if vertexFsMagicMatches image vertexFsSuperblock vertexFsLayoutV1.superblockMagic then
    .ok vertexFsLayoutV1
  else rejectVertexFsImage "bad superblock"

namespace VertexFsLayout

variable (layout : VertexFsLayout) (image : Image)

def sectionMatches (index : Nat) (part : VertexFsSection) : Bool :=
  let offset := layout.sectionTableOffset + index * vertexFsSectionRecordLen
  readLe 8 image offset = part.firstSector ∧ readLe 8 image (offset + 8) = part.sectorCount

def inodeOffset (index : Nat) : Nat :=
  layout.inodeTable.address (vertexFsInodeEntryOffset + index * vertexFsInodeEntryLen)

def directoryOffset (index : Nat) : Nat :=
  layout.directory.address (vertexFsDirectoryEntryOffset + index * vertexFsDirectoryEntryLen)

def readInode (index : Nat) : VertexFsInode :=
  let offset := layout.inodeOffset index
  { id := readLe 4 image offset
    kind := readLe 2 image (offset + 4)
    size := readLe 8 image (offset + 8)
    firstSector := readLe 8 image (offset + 16)
    sectorCount := readLe 4 image (offset + 24)
    checksum := readLe 4 image (offset + 28)
    parent := readLe 4 image (offset + 32) }

def inodeNameField (index : Nat) : Bytes :=
  readBytes image (layout.inodeOffset index + 36) vertexFsInodeNameBytes

def inodeNameEq (index : Nat) (expected : Bytes) : Bool :=
  vertexFsFixedStringEq (layout.inodeNameField image index) expected

def inodeReservedZero (index : Nat) : Bool :=
  readLe 2 image (layout.inodeOffset index + 6) = 0

def inodeTableCount : Nat := readLe 2 image (layout.inodeTable.address 18)

def directoryCount : Nat := readLe 2 image (layout.directory.address 18)

def directoryEntryEq (index parent child kind : Nat) (name : Bytes) : Bool :=
  let offset := layout.directoryOffset index
  readLe 4 image offset = parent ∧ readLe 4 image (offset + 4) = child ∧
    readLe 2 image (offset + 8) = kind ∧ readLe 2 image (offset + 10) = 0 ∧
    vertexFsFixedStringEq (readBytes image (offset + 12) vertexFsDirectoryNameBytes) name

def dynamicDataSector (index : Nat) : Nat := layout.data.firstSector + 2 + index

def directoryInode (id parent : Nat) : VertexFsInode :=
  { id, kind := vertexFsKindDir, size := 0, firstSector := 0, sectorCount := 0, checksum := 0,
    parent }

/-- The identity of a file inode: the parts that no update of the file may change. -/
def fileInodeOk (index id parent : Nat) (name : Bytes) : Bool :=
  let inode := layout.readInode image index
  inode.id = id ∧ inode.kind = vertexFsKindFile ∧ inode.parent = parent ∧
    layout.inodeReservedZero image index ∧ layout.inodeNameEq image index name

def directoryInodeOk (index id parent : Nat) (name : Bytes) : Bool :=
  layout.readInode image index = directoryInode id parent ∧
    layout.inodeReservedZero image index ∧ layout.inodeNameEq image index name

def dynamicInodeOk (dynamicIndex : Nat) : Bool :=
  let index := vertexFsBaseInodeCount + dynamicIndex
  let inode := layout.readInode image index
  inode.id = vertexFsDynamicInodeFirst + dynamicIndex ∧ inode.kind = vertexFsKindFile ∧
    inode.parent = vertexFsInodeAppDir ∧
    inode.firstSector = layout.dynamicDataSector dynamicIndex ∧ inode.sectorCount = 1 ∧
    layout.inodeReservedZero image index ∧
    (vertexFsFixedString (layout.inodeNameField image index)).isOk

def parseInodeTable : Except VertexFsRejection VertexFsParsedInodes := do
  vertexFsCheck "bad inode table" (vertexFsMagicMatches image layout.inodeTable layout.inodeMagic)
  vertexFsCheck "inode table metadata invalid"
    (readLe 2 image (layout.inodeTable.address 16) = layout.version ∧
      vertexFsChecksumValid image layout.inodeTable)
  let count := layout.inodeTableCount image
  vertexFsCheck "inode table count mismatch"
    (vertexFsBaseInodeCount ≤ count ∧
      count ≤ vertexFsBaseInodeCount + layout.dynamicFileCapacity)
  vertexFsCheck "root inode mismatch"
    (layout.directoryInodeOk image 0 vertexFsInodeRoot 0 (utf8 "/"))
  vertexFsCheck "readme inode mismatch"
    (layout.fileInodeOk image 1 vertexFsInodeReadme vertexFsInodeRoot (utf8 "readme"))
  vertexFsCheck "app directory inode mismatch"
    (layout.directoryInodeOk image 2 vertexFsInodeAppDir vertexFsInodeRoot (utf8 "app"))
  vertexFsCheck "app/a inode mismatch"
    (layout.fileInodeOk image 3 vertexFsInodeAppA vertexFsInodeAppDir (utf8 "a"))
  let dynamicCount := count - vertexFsBaseInodeCount
  vertexFsCheck "dynamic inode mismatch"
    ((List.range dynamicCount).all (layout.dynamicInodeOk image))
  return {
    readme := layout.readInode image 1
    appA := layout.readInode image 3
    dynamic := (List.range dynamicCount).map fun index =>
      layout.readInode image (vertexFsBaseInodeCount + index) }

/-- The directory entry of a dynamic file names its inode as the inode names itself. -/
def dynamicDirectoryEntryOk (dynamicIndex : Nat) (inode : VertexFsInode) : Bool :=
  match vertexFsFixedString
      (layout.inodeNameField image (vertexFsBaseInodeCount + dynamicIndex)) with
  | .ok name =>
    layout.directoryEntryEq image (vertexFsBaseDirectoryCount + dynamicIndex)
      vertexFsInodeAppDir inode.id vertexFsKindFile name
  | .error _ => false

def validateDirectory (dynamic : List VertexFsInode) : Except VertexFsRejection Unit := do
  vertexFsCheck "bad directory" (vertexFsMagicMatches image layout.directory layout.directoryMagic)
  vertexFsCheck "directory metadata invalid"
    (readLe 2 image (layout.directory.address 16) = layout.version ∧
      vertexFsChecksumValid image layout.directory)
  let count := layout.directoryCount image
  vertexFsCheck "directory count mismatch"
    (vertexFsBaseDirectoryCount ≤ count ∧
      count ≤ vertexFsBaseDirectoryCount + layout.directoryDynamicFileCapacity)
  vertexFsCheck "directory count mismatch"
    (count = vertexFsBaseDirectoryCount + dynamic.length)
  vertexFsCheck "directory entry mismatch"
    (layout.directoryEntryEq image 0 vertexFsInodeRoot vertexFsInodeReadme vertexFsKindFile
        (utf8 "readme") ∧
      layout.directoryEntryEq image 1 vertexFsInodeRoot vertexFsInodeAppDir vertexFsKindDir
        (utf8 "app") ∧
      layout.directoryEntryEq image 2 vertexFsInodeAppDir vertexFsInodeAppA vertexFsKindFile
        (utf8 "a"))
  vertexFsCheck "dynamic directory entry mismatch"
    ((dynamic.zipIdx).all fun (inode, index) => layout.dynamicDirectoryEntryOk image index inode)

def parseJournal : Except VertexFsRejection (Option VertexFsJournalRecord) := do
  let part := layout.journal
  vertexFsCheck "bad journal" (vertexFsMagicMatches image part layout.journalMagic)
  vertexFsCheck "journal metadata invalid"
    (readLe 2 image (part.address 16) = layout.version ∧ vertexFsChecksumValid image part)
  let state := readLe 2 image (part.address 18)
  if state = vertexFsJournalStateClean then return none
  vertexFsCheck "journal state unsupported" (state = vertexFsJournalStatePending)
  let targetInode := readLe 4 image (part.address 24)
  let payloadLen := readLe 4 image (part.address 28)
  let payloadChecksum := readLe 4 image (part.address 32)
  vertexFsCheck "journal replay record mismatch"
    (layout.format = .v2 →
      readLe 4 image (part.address 48) = targetInode ∧ readLe 4 image (part.address 52) = payloadLen ∧
        readLe 4 image (part.address 56) = payloadChecksum ∧ readLe 8 image (part.address 40) ≠ 0)
  vertexFsCheck "journal payload out of bounds"
    (vertexFsJournalPayloadOffset + payloadLen ≤ vertexFsSectorSize)
  let payload := readBytes image (part.address vertexFsJournalPayloadOffset) payloadLen
  vertexFsCheck "journal payload checksum mismatch" (vertexFsChecksum32 payload = payloadChecksum)
  return some { targetInode, payload }

end VertexFsLayout

namespace VertexFsInode

variable (inode : VertexFsInode)

def endSector : Nat := inode.firstSector + inode.sectorCount

def stored (image : Image) : Bytes :=
  readBytes image (inode.firstSector * vertexFsSectorSize) inode.size

def checkExtent (layout : VertexFsLayout) :
    Except VertexFsRejection Unit := do
  vertexFsCheck "file has no extent" (inode.sectorCount ≠ 0)
  vertexFsCheck "file extent overflow" (inode.endSector < 2 ^ 64)
  vertexFsCheck "file extent outside data section"
    (layout.data.firstSector ≤ inode.firstSector ∧
      inode.endSector ≤ layout.data.firstSector + layout.data.sectorCount)
  vertexFsCheck "file length invalid"
    (inode.size ≤ inode.sectorCount * vertexFsSectorSize ∧ inode.size ≤ maxVertexFsFileBytes)

def payload (layout : VertexFsLayout) (image : Image) :
    Except VertexFsRejection Bytes := do
  inode.checkExtent layout
  vertexFsCheck "file checksum mismatch"
    (vertexFsChecksum32 (inode.stored image) = inode.checksum)
  return inode.stored image

/-- A file whose checksum fails is still taken when the journal holds what its
extent starts with. -/
def recoverablePayload (layout : VertexFsLayout) (image : Image)
    (journal : Option VertexFsJournalRecord) : Except VertexFsRejection Bytes := do
  inode.checkExtent layout
  if vertexFsChecksum32 (inode.stored image) = inode.checksum then return inode.stored image
  match journal with
  | some record =>
    if record.targetInode = inode.id ∧
        readBytes image (inode.firstSector * vertexFsSectorSize) record.payload.length =
          record.payload then
      return record.payload
    else rejectVertexFsImage "file checksum mismatch"
  | none => rejectVertexFsImage "file checksum mismatch"

def Overlaps (inode other : VertexFsInode) : Prop :=
  inode.firstSector < other.endSector ∧ other.firstSector < inode.endSector

instance (inode other : VertexFsInode) : Decidable (inode.Overlaps other) :=
  inferInstanceAs (Decidable (_ ∧ _))

def Covers (sector : Nat) : Prop :=
  inode.endSector < 2 ^ 64 ∧ inode.firstSector ≤ sector ∧ sector < inode.endSector

instance (inode : VertexFsInode) (sector : Nat) : Decidable (inode.Covers sector) :=
  inferInstanceAs (Decidable (_ ∧ _))

end VertexFsInode

def checkDynamicFiles (layout : VertexFsLayout) (image : Image) :
    List VertexFsInode → List VertexFsInode → Except VertexFsRejection Unit
  | _, [] => .ok ()
  | prior, inode :: rest => do
    let _ ← inode.payload layout image
    vertexFsCheck "overlapping file extents" (∀ other ∈ prior, ¬inode.Overlaps other)
    checkDynamicFiles layout image (prior ++ [inode]) rest

namespace VertexFsLayout

variable (layout : VertexFsLayout) (image : Image)

def Allocated (inodes : VertexFsParsedInodes) (sector : Nat) : Prop :=
  sector = 0 ∨ layout.inodeTable.Has sector ∨ layout.directory.Has sector ∨
    layout.freeMap.Has sector ∨ layout.journal.Has sector ∨ inodes.readme.Covers sector ∨
    inodes.appA.Covers sector ∨ ∃ inode ∈ inodes.dynamic, inode.Covers sector

instance (inodes : VertexFsParsedInodes) (sector : Nat) :
    Decidable (layout.Allocated inodes sector) :=
  inferInstanceAs (Decidable (_ ∨ _))

def freeMapByte (sector : Nat) : UInt8 :=
  image (layout.freeMap.address (vertexFsFreeMapOffset + sector))

def validateFreeMap (inodes : VertexFsParsedInodes) : Except VertexFsRejection Unit := do
  let part := layout.freeMap
  vertexFsCheck "bad free-space map" (vertexFsMagicMatches image part layout.freeMapMagic)
  vertexFsCheck "free-space metadata invalid"
    (readLe 2 image (part.address 16) = layout.version ∧ vertexFsChecksumValid image part)
  vertexFsCheck "free-space sector count mismatch"
    (readLe 2 image (part.address 18) = vertexFsSectors)
  (List.range vertexFsSectors).forM fun sector => do
    let allocated := layout.freeMapByte image sector
    vertexFsCheck "free-space allocation byte invalid" (allocated = 0 ∨ allocated = 1)
    vertexFsCheck "free-space metadata mismatch"
      (allocated = 1 ↔ layout.Allocated inodes sector)

end VertexFsLayout

def vertexFsReplayJournal (appAInode : VertexFsInode) (baseAppA : Bytes)
    (journal : Option VertexFsJournalRecord) : Except VertexFsRejection (Bytes × Bool) :=
  match journal with
  | none => .ok (baseAppA, false)
  | some record => do
    vertexFsCheck "journal target unsupported"
      (record.targetInode = vertexFsInodeAppA ∧ appAInode.id = vertexFsInodeAppA)
    vertexFsCheck "journal payload too large" (record.payload.length ≤ maxVertexFsFileBytes)
    vertexFsCheck "journal payload exceeds target extent"
      (record.payload.length ≤ appAInode.sectorCount * vertexFsSectorSize)
    return (record.payload, true)

def checkSuperblock (layout : VertexFsLayout) (image : Image) :
    Except VertexFsRejection Bytes := do
  if layout.format = .v2 then
    let _ ← vertexFsFixedString (readBytes image 32 64)
  vertexFsCheck "unsupported superblock version" (readLe 2 image 16 = layout.version)
  vertexFsCheck "unsupported sector size" (readLe 2 image 18 = vertexFsSectorSize)
  vertexFsCheck "superblock checksum mismatch" (vertexFsChecksumValid image vertexFsSuperblock)
  vertexFsCheck "unsupported sector count" (readLe 4 image 24 = vertexFsSectors)
  vertexFsCheck "unsupported feature flags" (readLe 4 image 28 = layout.featureFlags)
  vertexFsCheck "unsupported section layout"
    (layout.sectionMatches image 0 layout.inodeTable ∧
      layout.sectionMatches image 1 layout.directory ∧
      layout.sectionMatches image 2 layout.freeMap ∧
      layout.sectionMatches image 3 layout.journal ∧
      layout.sectionMatches image 4 layout.data)
  vertexFsFixedString (readBytes image layout.generationOffset 64)

def parseVertexFsImage (image : Image) : Except VertexFsRejection VertexFsBootFiles := do
  let layout ← vertexFsLayoutFromSuperblock image
  let generation ← checkSuperblock layout image
  let journal ← layout.parseJournal image
  let inodes ← layout.parseInodeTable image
  layout.validateDirectory image inodes.dynamic
  let readme ← inodes.readme.payload layout image
  let baseAppA ← inodes.appA.recoverablePayload layout image journal
  vertexFsCheck "overlapping file extents" (¬inodes.readme.Overlaps inodes.appA)
  checkDynamicFiles layout image [inodes.readme, inodes.appA] inodes.dynamic
  layout.validateFreeMap image inodes
  let (appA, journalReplayed) ← vertexFsReplayJournal inodes.appA baseAppA journal
  return {
    generation
    readme := { inode := inodes.readme, payload := readme }
    appA := { inode := inodes.appA, payload := appA }
    journalReplayed }

end VertexOS
