import VertexOS.FailingCalls
import VertexOS.VertexFsImage

/-!
# Committing a file to the VertexFS image

A sync writes the file into the shadow of the image and records, step by step, the
sectors that the block driver has to write: the pending journal, the extent, the
metadata and the clean journal.
-/

namespace VertexOS

open ByteStrings ByteImages FailingCalls

variable (layout : VertexFsLayout)

def maxVertexFsPageCachePages : Nat := 8
def vertexFsSyncMaxDeviceWrites : Nat := 24

structure VertexFsDeviceWrite where
  sector : Nat
  bytes : Bytes
deriving DecidableEq, Repr

structure VfsVertexFsFile where
  name : String
  vfsName : VfsName
  inodeId : Nat
  parentInodeId : Nat
  firstSector : Nat
  sectorCount : Nat
  bytes : Image
  len : Nat
  dirty : Bool
  checksum : Nat

namespace VfsVertexFsFile

def empty : VfsVertexFsFile where
  name := ""
  vfsName := ⟨[], by decide⟩
  inodeId := 0
  parentInodeId := 0
  firstSector := 0
  sectorCount := 0
  bytes := fun _ => 0
  len := 0
  dirty := false
  checksum := 0

/-- The bytes of the file, without what the buffer holds behind them. -/
def content (file : VfsVertexFsFile) : Bytes := readBytes file.bytes 0 file.len

def new (name : String) (initial : Bytes) (inode : Option VertexFsInode) :
    Except InitError VfsVertexFsFile :=
  if initial.length ≤ maxVertexFsFileBytes then do
    let vfsName ← VfsName.fromStatic name
    let file : VfsVertexFsFile := { empty with
      name
      vfsName
      bytes := writeBytes (fun _ => 0) 0 initial
      len := initial.length
      checksum := vertexFsChecksum32 initial }
    return inode.elim file fun inode => { file with
      inodeId := inode.id
      parentInodeId := inode.parent
      firstSector := inode.firstSector
      sectorCount := inode.sectorCount }
  else .error .invalidBootManifest

end VfsVertexFsFile

structure VfsPageCachePage where
  valid : Bool
  dirty : Bool
  pinned : Bool
  writeback : Bool
  writebackError : Bool
  mountId : Nat
  inodeId : Nat
  backing : Nat
  pageOffset : Nat
  len : Nat
  bytes : Image

def VfsPageCachePage.empty : VfsPageCachePage where
  valid := false
  dirty := false
  pinned := false
  writeback := false
  writebackError := false
  mountId := 0
  inodeId := 0
  backing := 0
  pageOffset := 0
  len := 0
  bytes := fun _ => 0

abbrev PageIndex := Fin maxVertexFsPageCachePages

/-- The shadow image, the open files, the page cache and the recorded sector writes
of the latest sync. -/
structure VertexFsState where
  image : Image
  imageLoaded : Bool
  files : Nat → VfsVertexFsFile
  fileCount : Nat
  pageCache : PageIndex → VfsPageCachePage
  syncWrites : Nat → VertexFsDeviceWrite
  syncWriteCount : Nat

def VertexFsState.empty : VertexFsState where
  image := fun _ => 0
  imageLoaded := false
  files := fun _ => .empty
  fileCount := 0
  pageCache := fun _ => .empty
  syncWrites := fun _ => ⟨0, List.replicate vertexFsSectorSize 0⟩
  syncWriteCount := 0

def writeVertexFsSectorChecksum (image : Image) (part : VertexFsSection) : Image :=
  let zeroed := writeLe 4 image (part.address vertexFsChecksumOffset) 0
  writeLe 4 zeroed (part.address vertexFsChecksumOffset)
    (vertexFsChecksum32 (readBytes zeroed (part.address 0) part.byteCount))

def journalHeader (image : Image) (state : Nat) : Image :=
  let part := layout.journal
  let image := clearBytes image (part.address 0) vertexFsSectorSize
  let image := writeBytes image (part.address 0) layout.journalMagic
  let image := writeLe 2 image (part.address 16) layout.version
  writeLe 2 image (part.address 18) state

def journalPendingImage (image : Image) (inodeId : Nat)
    (payload : Bytes) : Image :=
  let part := layout.journal
  let image := journalHeader layout image vertexFsJournalStatePending
  let image := writeLe 4 image (part.address 24) inodeId
  let image := writeLe 4 image (part.address 28) payload.length
  let image := writeLe 4 image (part.address 32) (vertexFsChecksum32 payload)
  let image := match layout.format with
    | .v1 => image
    | .v2 =>
      let image := writeLe 8 image (part.address 40) 1
      let image := writeLe 4 image (part.address 48) inodeId
      let image := writeLe 4 image (part.address 52) payload.length
      writeLe 4 image (part.address 56) (vertexFsChecksum32 payload)
  let image := writeBytes image (part.address vertexFsJournalPayloadOffset) payload
  writeVertexFsSectorChecksum image part

def journalCleanImage (image : Image) : Image :=
  writeVertexFsSectorChecksum (journalHeader layout image vertexFsJournalStateClean)
    layout.journal

def fileExtentImage (image : Image) (file : VfsVertexFsFile) : Image :=
  let start := file.firstSector * vertexFsSectorSize
  writeBytes (clearBytes image start (file.sectorCount * vertexFsSectorSize)) start file.content

def inodeRecordImage (image : Image) (index : Nat)
    (file : VfsVertexFsFile) (checksum : Nat) : Image :=
  let offset := layout.inodeOffset index
  let image := writeLe 8 image (offset + 8) file.len
  let image := writeLe 4 image (offset + 28) checksum
  writeVertexFsSectorChecksum image layout.inodeTable

def fixedName (maxLen : Nat) (name : Bytes) : Bytes :=
  name ++ List.replicate (maxLen - name.length) 0

namespace VertexFsLayout

variable (layout : VertexFsLayout) (image : Image)

def inodeEntryFits (index : Nat) : Bool :=
  vertexFsInodeEntryOffset + index * vertexFsInodeEntryLen + vertexFsInodeEntryLen ≤
    layout.inodeTable.byteCount

def directoryEntryFits (index : Nat) : Bool :=
  vertexFsDirectoryEntryOffset + index * vertexFsDirectoryEntryLen + vertexFsDirectoryEntryLen ≤
    layout.directory.byteCount

def findInode (inodeId : Nat) : List Nat → Except IpcError (Option Nat)
  | [] => .ok none
  | index :: rest =>
    if layout.inodeEntryFits index then
      if readLe 4 image (layout.inodeOffset index) = inodeId then .ok (some index)
      else findInode inodeId rest
    else .error .vfsUnsupported

def inodeIndexById (inodeId : Nat) : Except IpcError (Option Nat) :=
  layout.findInode image inodeId (List.range (layout.inodeTableCount image))

end VertexFsLayout

def vertexFsLayoutForImage (image : Image) : Except IpcError VertexFsLayout :=
  match vertexFsLayoutFromSuperblock image with
  | .ok layout => .ok layout
  | .error _ => .error .vfsUnsupported

def vertexFsImageHasInode (image : Image) (inodeId : Nat) : Except IpcError Bool := do
  let layout ← vertexFsLayoutForImage image
  let index ← layout.inodeIndexById image inodeId
  return index.isSome

def vertexFsDynamicInodeAt (image : Image) (index : Nat) : Except IpcError Nat := do
  let layout ← vertexFsLayoutForImage image
  if layout.dynamicFileCapacity ≤ index then .error .vfsUnsupported
  else return vertexFsDynamicInodeFirst + index

def vertexFsDynamicDataSectorAt (image : Image) (index : Nat) : Except IpcError Nat := do
  let layout ← vertexFsLayoutForImage image
  if layout.dynamicFileCapacity ≤ index then .error .vfsUnsupported
  else return layout.dynamicDataSector index

abbrev VertexFsCall := Call IpcError VertexFsState

def writeImage (write : Image → Image) : VertexFsCall Unit :=
  modify fun state => { state with image := write state.image }

def recordVertexFsSyncSector (sector : Nat) : VertexFsCall Unit := do
  let state ← get
  require .vfsNoSpace (state.syncWriteCount ≠ vertexFsSyncMaxDeviceWrites)
  require .vfsNoSpace (sector < vertexFsSectors)
  let bytes := readBytes state.image (sector * vertexFsSectorSize) vertexFsSectorSize
  set { state with
    syncWrites := Function.update state.syncWrites state.syncWriteCount ⟨sector, bytes⟩
    syncWriteCount := state.syncWriteCount + 1 }

def recordVertexFsSyncSectors (firstSector : Nat) : Nat → VertexFsCall Unit
  | 0 => pure ()
  | count + 1 => do
    recordVertexFsSyncSectors firstSector count
    recordVertexFsSyncSector (firstSector + count)

def recordVertexFsSyncSection (part : VertexFsSection) : VertexFsCall Unit :=
  recordVertexFsSyncSectors part.firstSector part.sectorCount

def writeVertexFsFileExtent (file : VfsVertexFsFile) : VertexFsCall Unit := do
  require .vfsNoSpace
    ((file.firstSector + file.sectorCount) * vertexFsSectorSize ≤ vertexFsImageBytes)
  writeImage fun image => fileExtentImage image file

def writeVertexFsInodeRecord (layout : VertexFsLayout) (file : VfsVertexFsFile)
    (checksum : Nat) : VertexFsCall Unit := do
  let state ← get
  let found ← fromExcept (layout.inodeIndexById state.image file.inodeId)
  let index ← fromOption .vfsUnsupported found
  writeImage fun image => inodeRecordImage layout image index file checksum

def writeVertexFsDynamicInode (layout : VertexFsLayout) (dynamicIndex : Nat)
    (file : VfsVertexFsFile) (checksum : Nat) : VertexFsCall Unit := do
  let index := vertexFsBaseInodeCount + dynamicIndex
  let part := layout.inodeTable
  require .vfsUnsupported (layout.inodeTableCount (← get).image = index)
  writeImage fun image => writeLe 2 image (part.address 18) (index + 1)
  require .vfsUnsupported (layout.inodeEntryFits index)
  let offset := layout.inodeOffset index
  writeImage fun image =>
    let image := writeLe 4 image offset file.inodeId
    let image := writeLe 2 image (offset + 4) vertexFsKindFile
    let image := writeLe 2 image (offset + 6) 0
    let image := writeLe 8 image (offset + 8) file.len
    let image := writeLe 8 image (offset + 16) file.firstSector
    let image := writeLe 4 image (offset + 24) file.sectorCount
    let image := writeLe 4 image (offset + 28) checksum
    writeLe 4 image (offset + 32) file.parentInodeId
  require .vfsUnsupported
    (file.vfsName.bytes ≠ [] ∧ file.vfsName.bytes.length ≤ vertexFsInodeNameBytes)
  writeImage fun image =>
    writeVertexFsSectorChecksum
      (writeBytes image (offset + 36) (fixedName vertexFsInodeNameBytes file.vfsName.bytes)) part

def writeVertexFsDynamicDirectory (layout : VertexFsLayout) (dynamicIndex : Nat)
    (file : VfsVertexFsFile) : VertexFsCall Unit := do
  let index := vertexFsBaseDirectoryCount + dynamicIndex
  let part := layout.directory
  require .vfsUnsupported (layout.directoryCount (← get).image = index)
  writeImage fun image => writeLe 2 image (part.address 18) (index + 1)
  require .vfsUnsupported (layout.directoryEntryFits index)
  let offset := layout.directoryOffset index
  writeImage fun image =>
    let image := writeLe 4 image offset file.parentInodeId
    let image := writeLe 4 image (offset + 4) file.inodeId
    let image := writeLe 2 image (offset + 8) vertexFsKindFile
    writeLe 2 image (offset + 10) 0
  require .vfsUnsupported
    (file.vfsName.bytes ≠ [] ∧ file.vfsName.bytes.length ≤ vertexFsDirectoryNameBytes)
  writeImage fun image =>
    writeVertexFsSectorChecksum
      (writeBytes image (offset + 12) (fixedName vertexFsDirectoryNameBytes file.vfsName.bytes))
      part

def writeVertexFsDynamicFreeMap (layout : VertexFsLayout) (file : VfsVertexFsFile) :
    VertexFsCall Unit := do
  let part := layout.freeMap
  require .vfsUnsupported (vertexFsFreeMapOffset + file.firstSector < vertexFsSectorSize)
  require .vfsNoSpace (layout.freeMapByte (← get).image file.firstSector = 0)
  writeImage fun image =>
    writeVertexFsSectorChecksum
      (writeBytes image (part.address (vertexFsFreeMapOffset + file.firstSector)) [1]) part

def vertexFsDynamicIndexForInode (layout : VertexFsLayout) (inodeId : Nat) :
    Except IpcError Nat :=
  if inodeId < vertexFsDynamicInodeFirst then .error .vfsUnsupported
  else if layout.dynamicFileCapacity ≤ inodeId - vertexFsDynamicInodeFirst then
    .error .vfsUnsupported
  else .ok (inodeId - vertexFsDynamicInodeFirst)

def writeVertexFsDynamicMetadata (layout : VertexFsLayout) (file : VfsVertexFsFile)
    (checksum : Nat) : VertexFsCall Unit := do
  let dynamicIndex ← fromExcept (vertexFsDynamicIndexForInode layout file.inodeId)
  require .vfsUnsupported
    (file.parentInodeId = vertexFsInodeAppDir ∧
      file.firstSector = layout.dynamicDataSector dynamicIndex ∧ file.sectorCount = 1)
  writeVertexFsDynamicInode layout dynamicIndex file checksum
  writeVertexFsDynamicDirectory layout dynamicIndex file
  writeVertexFsDynamicFreeMap layout file

def commitVertexFsMetadata (layout : VertexFsLayout) (file : VfsVertexFsFile) (checksum : Nat)
    (known : Bool) : VertexFsCall Unit :=
  if known then do
    writeVertexFsInodeRecord layout file checksum
    recordVertexFsSyncSection layout.inodeTable
  else do
    writeVertexFsDynamicMetadata layout file checksum
    recordVertexFsSyncSection layout.inodeTable
    recordVertexFsSyncSection layout.directory
    recordVertexFsSyncSection layout.freeMap

def commitVertexFsFileToImage (file : VfsVertexFsFile) (checksum : Nat) :
    VertexFsCall Nat := do
  require .vfsNoSpace
    (file.sectorCount * vertexFsSectorSize < 2 ^ 32 ∧
      file.len ≤ file.sectorCount * vertexFsSectorSize ∧
      file.len ≤ vertexFsSectorSize - vertexFsJournalPayloadOffset)
  modify fun state => { state with syncWriteCount := 0 }
  let layout ← fromExcept (vertexFsLayoutForImage (← get).image)
  writeImage fun image => journalPendingImage layout image file.inodeId file.content
  recordVertexFsSyncSection layout.journal
  writeVertexFsFileExtent file
  recordVertexFsSyncSectors file.firstSector file.sectorCount
  let known ← fromExcept (vertexFsImageHasInode (← get).image file.inodeId)
  -- The layout is read again: only the extent could have reached the superblock.
  let after ← fromExcept (vertexFsLayoutForImage (← get).image)
  commitVertexFsMetadata after file checksum known
  writeImage fun image => journalCleanImage after image
  recordVertexFsSyncSection layout.journal
  require .vfsUnsupported (parseVertexFsImage (← get).image).isOk
  return (← get).syncWriteCount

end VertexOS
