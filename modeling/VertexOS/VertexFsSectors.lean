import VertexOS.VertexFsAcceptance
import VertexOS.VertexFsCommit

/-!
# Sector writes

The writes that a commit records, in their order, and the images that it goes through.
-/

namespace VertexOS

open ByteStrings ByteImages FailingCalls

variable (layout : VertexFsLayout) (image : Image)

def sectorWrite (sector : Nat) : VertexFsDeviceWrite :=
  ⟨sector, readBytes image (sector * vertexFsSectorSize) vertexFsSectorSize⟩

def sectorWrites (part : VertexFsSection) : List VertexFsDeviceWrite :=
  (List.range part.sectorCount).map fun index => sectorWrite image (part.firstSector + index)

def applyWrite (device : Image) (write : VertexFsDeviceWrite) : Image :=
  writeBytes device (write.sector * vertexFsSectorSize) write.bytes

def applyWrites (device : Image) (writes : List VertexFsDeviceWrite) : Image :=
  writes.foldl applyWrite device

@[simp]
theorem applyWrites_nil (device : Image) : applyWrites device [] = device := rfl

theorem applyWrites_append (device : Image) (first second : List VertexFsDeviceWrite) :
    applyWrites device (first ++ second) = applyWrites (applyWrites device first) second :=
  List.foldl_append

@[simp]
theorem sectorWrites_length (image : Image) (part : VertexFsSection) :
    (sectorWrites image part).length = part.sectorCount := by
  simp [sectorWrites]

theorem applyWrite_sectorWrite (device image : Image) (sector : Nat) :
    applyWrite device (sectorWrite image sector) =
      copyRange device image (sector * vertexFsSectorSize) vertexFsSectorSize := by
  funext address
  unfold applyWrite sectorWrite copyRange
  split_ifs with inside
  · obtain ⟨index, rfl⟩ := Nat.exists_eq_add_of_le inside.1
    have bound : index < vertexFsSectorSize := by omega
    rw [writeBytes_inside (by simpa using bound)]
    simp [readBytes]
  · apply writeBytes_outside
    simp only [readBytes_length]
    omega

theorem applyWrites_take_sectorWrites (device image : Image) (part : VertexFsSection)
    {count : Nat} (inside : count ≤ part.sectorCount) :
    applyWrites device ((sectorWrites image part).take count) =
      copyRange device image (part.address 0) (count * vertexFsSectorSize) := by
  induction count with
  | zero =>
    funext address
    simp [copyRange]
  | succ count ih =>
    have next : (sectorWrites image part).take (count + 1) =
        (sectorWrites image part).take count ++ [sectorWrite image (part.firstSector + count)] := by
      rw [List.take_add_one]
      simp [sectorWrites, show count < part.sectorCount by omega]
    rw [next, applyWrites_append, ih (by omega)]
    change applyWrite _ _ = _
    rw [applyWrite_sectorWrite]
    have split : (part.firstSector + count) * vertexFsSectorSize =
        part.address 0 + count * vertexFsSectorSize := by
      simp only [VertexFsSection.address]
      ring
    have longer : (count + 1) * vertexFsSectorSize =
        count * vertexFsSectorSize + vertexFsSectorSize := by ring
    rw [split, longer]
    exact copyRange_copyRange_next _ _ _ _ _

theorem applyWrites_sectorWrites (device image : Image) (part : VertexFsSection) :
    applyWrites device (sectorWrites image part) =
      copyRange device image (part.address 0) part.byteCount := by
  have all := applyWrites_take_sectorWrites device image part (le_refl part.sectorCount)
  rwa [List.take_of_length_le (by simp)] at all

theorem copyRange_eq_of_agree {device image : Image} {start length : Nat}
    (agree : ∀ address, address < start ∨ start + length ≤ address →
      device address = image address) : copyRange device image start length = image := by
  funext address
  unfold copyRange
  split_ifs with inside
  · rfl
  · exact agree address (by omega)

def VertexFsState.recorded (state : VertexFsState) : List VertexFsDeviceWrite :=
  (List.range state.syncWriteCount).map state.syncWrites

open VertexFsState

namespace VertexFsState

def recordWrite (state : VertexFsState) (write : VertexFsDeviceWrite) : VertexFsState :=
  { state with
    syncWrites := Function.update state.syncWrites state.syncWriteCount write
    syncWriteCount := state.syncWriteCount + 1 }

def record (state : VertexFsState) (writes : List VertexFsDeviceWrite) : VertexFsState :=
  writes.foldl recordWrite state

variable (state : VertexFsState) (image : Image) (writes : List VertexFsDeviceWrite)

theorem record_append (first second : List VertexFsDeviceWrite) :
    state.record (first ++ second) = (state.record first).record second :=
  List.foldl_append

theorem recorded_recordWrite (write : VertexFsDeviceWrite) :
    (state.recordWrite write).recorded = state.recorded ++ [write] := by
  simp only [recorded, recordWrite, List.range_succ, List.map_append, List.map_singleton,
    Function.update_self]
  congr 1
  apply List.map_congr_left
  intro index below
  rw [List.mem_range] at below
  exact Function.update_of_ne (by omega) _ _

theorem recorded_record : (state.record writes).recorded = state.recorded ++ writes := by
  induction writes generalizing state with
  | nil => simp [record]
  | cons write rest ih =>
    change ((state.recordWrite write).record rest).recorded = _
    rw [ih, recorded_recordWrite, List.append_assoc, List.singleton_append]

theorem record_rest :
    ∃ syncWrites, state.record writes =
      { state with syncWrites, syncWriteCount := state.syncWriteCount + writes.length } := by
  induction writes generalizing state with
  | nil => exact ⟨state.syncWrites, rfl⟩
  | cons write rest ih =>
    obtain ⟨syncWrites, found⟩ := ih (state.recordWrite write)
    refine ⟨syncWrites, ?_⟩
    change (state.recordWrite write).record rest = _
    rw [found]
    simp only [recordWrite, List.length_cons]
    congr 1
    omega

@[simp]
theorem record_image : (state.record writes).image = state.image := by
  obtain ⟨_, found⟩ := state.record_rest writes
  rw [found]

@[simp]
theorem record_syncWriteCount :
    (state.record writes).syncWriteCount = state.syncWriteCount + writes.length := by
  obtain ⟨_, found⟩ := state.record_rest writes
  rw [found]

theorem record_withImage :
    { state.record writes with image := image } = { state with image := image }.record writes := by
  induction writes generalizing state with
  | nil => rfl
  | cons write rest ih => exact ih (state.recordWrite write)

/-- The state of a commit under way: the shadow image and the writes recorded so far. -/
def during (state : VertexFsState) (image : Image) (writes : List VertexFsDeviceWrite) :
    VertexFsState :=
  { state with image := image, syncWriteCount := 0 }.record writes

@[simp]
theorem during_image : (state.during image writes).image = image := by
  simp [during]

@[simp]
theorem during_syncWriteCount : (state.during image writes).syncWriteCount = writes.length := by
  simp [during]

theorem during_withImage (image other : Image) (writes : List VertexFsDeviceWrite) :
    { state.during image writes with image := other } = state.during other writes :=
  record_withImage _ _ _

theorem during_recorded : (state.during image writes).recorded = writes := by
  rw [during, recorded_record]
  rfl

end VertexFsState

variable {base next : VertexFsState} {writes : List VertexFsDeviceWrite}

section

variable {image : Image} {done : Unit}

theorem recordVertexFsSyncSector_ok {sector : Nat}
    (bounded : writes.length ≤ vertexFsSyncMaxDeviceWrites) :
    exec (recordVertexFsSyncSector sector) (base.during image writes) = (.ok done, next) ↔
      writes.length < vertexFsSyncMaxDeviceWrites ∧ sector < vertexFsSectors ∧
        next = base.during image (writes ++ [sectorWrite image sector]) := by
  have recorded : base.during image (writes ++ [sectorWrite image sector]) =
      (base.during image writes).recordWrite (sectorWrite image sector) :=
    record_append _ _ _
  unfold recordVertexFsSyncSector
  simp only [exec_get_bind, exec_require_bind_ok, exec_set, Prod.mk.injEq,
    during_syncWriteCount, during_image, recorded]
  constructor
  · rintro ⟨room, inside, -, rfl⟩
    exact ⟨by omega, inside, by simp [recordWrite, sectorWrite]⟩
  · rintro ⟨room, inside, rfl⟩
    exact ⟨by omega, inside, trivial, by simp [recordWrite, sectorWrite]⟩

theorem recordVertexFsSyncSectors_ok {firstSector count : Nat}
    (bounded : writes.length ≤ vertexFsSyncMaxDeviceWrites) :
    exec (recordVertexFsSyncSectors firstSector count) (base.during image writes) =
        (.ok done, next) ↔
      writes.length + count ≤ vertexFsSyncMaxDeviceWrites ∧
        (∀ index < count, firstSector + index < vertexFsSectors) ∧
        next = base.during image (writes ++ sectorWrites image ⟨firstSector, count⟩) := by
  induction count generalizing next with
  | zero =>
    simp [recordVertexFsSyncSectors, sectorWrites, bounded, eq_comm]
  | succ count ih =>
    have last : sectorWrites image ⟨firstSector, count + 1⟩ =
        sectorWrites image ⟨firstSector, count⟩ ++ [sectorWrite image (firstSector + count)] := by
      simp [sectorWrites, List.range_succ]
    rw [recordVertexFsSyncSectors, exec_bind_ok, last, ← List.append_assoc]
    constructor
    · rintro ⟨_, middle, first, second⟩
      obtain ⟨room, sectors, rfl⟩ := ih.mp first
      obtain ⟨more, inside, rfl⟩ := (recordVertexFsSyncSector_ok (by simpa using room)).mp second
      simp only [List.length_append, sectorWrites_length] at more
      refine ⟨by omega, fun index below => ?_, rfl⟩
      rcases Nat.lt_succ_iff_lt_or_eq.mp below with earlier | rfl
      · exact sectors index earlier
      · exact inside
    · rintro ⟨room, sectors, rfl⟩
      refine ⟨(), _, ih.mpr ⟨by omega, fun index below => sectors index (by omega), rfl⟩, ?_⟩
      rw [recordVertexFsSyncSector_ok (by simp; omega)]
      exact ⟨by simp; omega, sectors count (by omega), rfl⟩

end

def dynamicInodeImage (image : Image) (dynamicIndex : Nat)
    (file : VfsVertexFsFile) (checksum : Nat) : Image :=
  let index := vertexFsBaseInodeCount + dynamicIndex
  let offset := layout.inodeOffset index
  let image := writeLe 2 image (layout.inodeTable.address 18) (index + 1)
  let image := writeLe 4 image offset file.inodeId
  let image := writeLe 2 image (offset + 4) vertexFsKindFile
  let image := writeLe 2 image (offset + 6) 0
  let image := writeLe 8 image (offset + 8) file.len
  let image := writeLe 8 image (offset + 16) file.firstSector
  let image := writeLe 4 image (offset + 24) file.sectorCount
  let image := writeLe 4 image (offset + 28) checksum
  let image := writeLe 4 image (offset + 32) file.parentInodeId
  writeVertexFsSectorChecksum
    (writeBytes image (offset + 36) (fixedName vertexFsInodeNameBytes file.vfsName.bytes))
    layout.inodeTable

def dynamicDirectoryImage (image : Image) (dynamicIndex : Nat)
    (file : VfsVertexFsFile) : Image :=
  let index := vertexFsBaseDirectoryCount + dynamicIndex
  let offset := layout.directoryOffset index
  let image := writeLe 2 image (layout.directory.address 18) (index + 1)
  let image := writeLe 4 image offset file.parentInodeId
  let image := writeLe 4 image (offset + 4) file.inodeId
  let image := writeLe 2 image (offset + 8) vertexFsKindFile
  let image := writeLe 2 image (offset + 10) 0
  writeVertexFsSectorChecksum
    (writeBytes image (offset + 12) (fixedName vertexFsDirectoryNameBytes file.vfsName.bytes))
    layout.directory

def dynamicFreeMapImage (image : Image) (file : VfsVertexFsFile) :
    Image :=
  writeVertexFsSectorChecksum
    (writeBytes image (layout.freeMap.address (vertexFsFreeMapOffset + file.firstSector)) [1])
    layout.freeMap

def dynamicMetadataImage (image : Image) (dynamicIndex : Nat)
    (file : VfsVertexFsFile) (checksum : Nat) : Image :=
  dynamicFreeMapImage layout
    (dynamicDirectoryImage layout (dynamicInodeImage layout image dynamicIndex file checksum)
      dynamicIndex file) file

variable {layout : VertexFsLayout} {file : VfsVertexFsFile} {state next : VertexFsState}
  {done : Unit} {checksum : Nat}

theorem writeVertexFsInodeRecord_ok :
    exec (writeVertexFsInodeRecord layout file checksum) state = (.ok done, next) ↔
      ∃ index, layout.inodeIndexById state.image file.inodeId = .ok (some index) ∧
        next = { state with image := inodeRecordImage layout state.image index file checksum } := by
  unfold writeVertexFsInodeRecord writeImage
  simp only [exec_get_bind, exec_fromExcept_bind_ok, exec_fromOption_bind_ok, exec_modify,
    Prod.mk.injEq]
  constructor
  · rintro ⟨_, found, index, rfl, -, rfl⟩
    exact ⟨index, found, rfl⟩
  · rintro ⟨index, found, rfl⟩
    exact ⟨some index, found, index, rfl, trivial, rfl⟩

structure CreatedFileFits (layout : VertexFsLayout) (image : Image) (dynamicIndex : Nat)
    (file : VfsVertexFsFile) : Prop where
  inode : vertexFsDynamicIndexForInode layout file.inodeId = .ok dynamicIndex
  parent : file.parentInodeId = vertexFsInodeAppDir
  sector : file.firstSector = layout.dynamicDataSector dynamicIndex
  sectorCount : file.sectorCount = 1
  tableCount : layout.inodeTableCount image = vertexFsBaseInodeCount + dynamicIndex
  name : file.vfsName.bytes ≠ [] ∧ file.vfsName.bytes.length ≤ vertexFsInodeNameBytes

theorem writeVertexFsDynamicInode_ok {dynamicIndex : Nat}
    (run : exec (writeVertexFsDynamicInode layout dynamicIndex file checksum) state =
      (.ok done, next)) :
    layout.inodeTableCount state.image = vertexFsBaseInodeCount + dynamicIndex ∧
      (file.vfsName.bytes ≠ [] ∧ file.vfsName.bytes.length ≤ vertexFsInodeNameBytes) ∧
      next = { state with
        image := dynamicInodeImage layout state.image dynamicIndex file checksum } := by
  unfold writeVertexFsDynamicInode writeImage at run
  simp only [exec_get_bind, exec_require_bind_ok, exec_modify_bind, exec_modify,
    Prod.mk.injEq] at run
  obtain ⟨count, -, name, -, rfl⟩ := run
  exact ⟨count, name, rfl⟩

theorem writeVertexFsDynamicDirectory_ok {dynamicIndex : Nat}
    (run : exec (writeVertexFsDynamicDirectory layout dynamicIndex file) state = (.ok done, next)) :
    next = { state with image := dynamicDirectoryImage layout state.image dynamicIndex file } := by
  unfold writeVertexFsDynamicDirectory writeImage at run
  simp only [exec_get_bind, exec_require_bind_ok, exec_modify_bind, exec_modify,
    Prod.mk.injEq] at run
  obtain ⟨-, -, -, -, rfl⟩ := run
  rfl

theorem writeVertexFsDynamicFreeMap_ok
    (run : exec (writeVertexFsDynamicFreeMap layout file) state = (.ok done, next)) :
    next = { state with image := dynamicFreeMapImage layout state.image file } := by
  unfold writeVertexFsDynamicFreeMap writeImage at run
  simp only [exec_get_bind, exec_require_bind_ok, exec_modify, Prod.mk.injEq] at run
  obtain ⟨-, -, -, rfl⟩ := run
  rfl

theorem writeVertexFsDynamicMetadata_ok
    (run : exec (writeVertexFsDynamicMetadata layout file checksum) state = (.ok done, next)) :
    ∃ dynamicIndex, CreatedFileFits layout state.image dynamicIndex file ∧
      next = { state with
        image := dynamicMetadataImage layout state.image dynamicIndex file checksum } := by
  unfold writeVertexFsDynamicMetadata at run
  simp only [exec_fromExcept_bind_ok, exec_require_bind_ok] at run
  obtain ⟨dynamicIndex, found, ⟨parent, sector, sectorCount⟩, run⟩ := run
  obtain ⟨_, afterInode, inodeRun, run⟩ := exec_bind_ok.mp run
  obtain ⟨tableCount, name, rfl⟩ := writeVertexFsDynamicInode_ok inodeRun
  obtain ⟨_, afterDirectory, directoryRun, freeMapRun⟩ := exec_bind_ok.mp run
  have directory := writeVertexFsDynamicDirectory_ok directoryRun
  subst directory
  have freeMap := writeVertexFsDynamicFreeMap_ok freeMapRun
  exact ⟨dynamicIndex, ⟨found, parent, sector, sectorCount, tableCount, name⟩, freeMap⟩

/-- The metadata of a file is written: the image after it and the sectors it records. -/
inductive MetadataWritten (layout : VertexFsLayout) (image : Image) (file : VfsVertexFsFile)
    (checksum : Nat) : Image → List VertexFsDeviceWrite → Prop where
  | existing {index : Nat}
      (found : layout.inodeIndexById image file.inodeId = .ok (some index)) :
      MetadataWritten layout image file checksum
        (inodeRecordImage layout image index file checksum)
        (sectorWrites (inodeRecordImage layout image index file checksum) layout.inodeTable)
  | created {dynamicIndex : Nat}
      (absent : layout.inodeIndexById image file.inodeId = .ok none)
      (fits : CreatedFileFits layout image dynamicIndex file) :
      MetadataWritten layout image file checksum
        (dynamicMetadataImage layout image dynamicIndex file checksum)
        (sectorWrites (dynamicMetadataImage layout image dynamicIndex file checksum)
            layout.inodeTable ++
          sectorWrites (dynamicMetadataImage layout image dynamicIndex file checksum)
            layout.directory ++
          sectorWrites (dynamicMetadataImage layout image dynamicIndex file checksum)
            layout.freeMap)

def commitJournalImage (layout : VertexFsLayout) (image : Image) (file : VfsVertexFsFile) :
    Image :=
  journalPendingImage layout image file.inodeId file.content

def commitExtentImage (layout : VertexFsLayout) (image : Image) (file : VfsVertexFsFile) :
    Image :=
  fileExtentImage (commitJournalImage layout image file) file

/-- The sectors of a commit in the order in which the block driver writes them. -/
def commitWrites (layout after : VertexFsLayout) (image : Image) (file : VfsVertexFsFile)
    (metadata : Image) (metadataWrites : List VertexFsDeviceWrite) :
    List VertexFsDeviceWrite :=
  sectorWrites (commitJournalImage layout image file) layout.journal ++
    sectorWrites (commitExtentImage layout image file) ⟨file.firstSector, file.sectorCount⟩ ++
    metadataWrites ++ sectorWrites (journalCleanImage after metadata) layout.journal

structure Committed (file : VfsVertexFsFile) (checksum : Nat) (state : VertexFsState)
    (layout after : VertexFsLayout) (metadata : Image)
    (metadataWrites : List VertexFsDeviceWrite) : Prop where
  fits : file.sectorCount * vertexFsSectorSize < 2 ^ 32 ∧
    file.len ≤ file.sectorCount * vertexFsSectorSize ∧
    file.len ≤ vertexFsSectorSize - vertexFsJournalPayloadOffset
  format : vertexFsLayoutFromSuperblock state.image = .ok layout
  extent : (file.firstSector + file.sectorCount) * vertexFsSectorSize ≤ vertexFsImageBytes
  formatAfter : vertexFsLayoutFromSuperblock (commitExtentImage layout state.image file) = .ok after
  written : MetadataWritten after (commitExtentImage layout state.image file) file checksum
    metadata metadataWrites
  accepted : (parseVertexFsImage (journalCleanImage after metadata)).isOk
  room : (commitWrites layout after state.image file metadata metadataWrites).length ≤
    vertexFsSyncMaxDeviceWrites

theorem vertexFsLayoutForImage_ok {image : Image} :
    vertexFsLayoutForImage image = .ok layout ↔
      vertexFsLayoutFromSuperblock image = .ok layout := by
  unfold vertexFsLayoutForImage
  cases vertexFsLayoutFromSuperblock image <;> simp

section Commit

variable {file : VfsVertexFsFile} {checksum : Nat} {image : Image} {layout : VertexFsLayout}
  {done : Unit}

theorem recordVertexFsSyncSection_ok {part : VertexFsSection}
    (bounded : writes.length ≤ vertexFsSyncMaxDeviceWrites) :
    exec (recordVertexFsSyncSection part) (base.during image writes) = (.ok done, next) ↔
      (writes ++ sectorWrites image part).length ≤ vertexFsSyncMaxDeviceWrites ∧
        (∀ index < part.sectorCount, part.firstSector + index < vertexFsSectors) ∧
        next = base.during image (writes ++ sectorWrites image part) := by
  rw [recordVertexFsSyncSection, recordVertexFsSyncSectors_ok bounded]
  simp

theorem vertexFsImageHasInode_ok {inodeId : Nat} {known : Bool}
    (format : vertexFsLayoutFromSuperblock image = .ok layout) :
    vertexFsImageHasInode image inodeId = .ok known ↔
      ∃ index, layout.inodeIndexById image inodeId = .ok index ∧ known = index.isSome := by
  simp only [vertexFsImageHasInode, outcome_bind_ok, vertexFsLayoutForImage_ok]
  constructor
  · rintro ⟨found, sameFormat, index, lookup, result⟩
    rw [format] at sameFormat
    cases sameFormat
    exact ⟨index, lookup, (Except.ok.inj result).symm⟩
  · rintro ⟨index, lookup, rfl⟩
    exact ⟨layout, format, index, lookup, rfl⟩

theorem commitVertexFsMetadata_ok {index : Option Nat}
    (bounded : writes.length ≤ vertexFsSyncMaxDeviceWrites)
    (lookup : layout.inodeIndexById image file.inodeId = .ok index)
    (run : exec (commitVertexFsMetadata layout file checksum index.isSome)
      (base.during image writes) = (.ok done, next)) :
    ∃ metadata metadataWrites, MetadataWritten layout image file checksum metadata metadataWrites ∧
      (writes ++ metadataWrites).length ≤ vertexFsSyncMaxDeviceWrites ∧
      next = base.during metadata (writes ++ metadataWrites) := by
  unfold commitVertexFsMetadata at run
  cases index with
  | some index =>
    simp only [Option.isSome_some, if_true] at run
    obtain ⟨_, middle, recordRun, run⟩ := exec_bind_ok.mp run
    obtain ⟨found, lookup', rfl⟩ := writeVertexFsInodeRecord_ok.mp recordRun
    simp only [during_image] at lookup' run
    rw [during_withImage] at run
    obtain ⟨room, -, rfl⟩ := (recordVertexFsSyncSection_ok bounded).mp run
    exact ⟨_, _, .existing lookup', room, rfl⟩
  | none =>
    simp only [Option.isSome_none, Bool.false_eq_true, if_false] at run
    obtain ⟨_, middle, metadataRun, run⟩ := exec_bind_ok.mp run
    obtain ⟨dynamicIndex, fits, rfl⟩ := writeVertexFsDynamicMetadata_ok metadataRun
    simp only [during_image] at fits run
    rw [during_withImage] at run
    obtain ⟨_, afterTable, tableRun, run⟩ := exec_bind_ok.mp run
    obtain ⟨tableRoom, -, rfl⟩ := (recordVertexFsSyncSection_ok bounded).mp tableRun
    obtain ⟨_, afterDirectory, directoryRun, freeMapRun⟩ := exec_bind_ok.mp run
    obtain ⟨directoryRoom, -, rfl⟩ := (recordVertexFsSyncSection_ok tableRoom).mp directoryRun
    obtain ⟨room, -, rfl⟩ := (recordVertexFsSyncSection_ok directoryRoom).mp freeMapRun
    refine ⟨_, _, .created lookup fits, ?_, ?_⟩
    · simpa only [List.append_assoc] using room
    · simp only [List.append_assoc]

theorem commitVertexFsFileToImage_ok {state : VertexFsState} {count : Nat}
    (run : exec (commitVertexFsFileToImage file checksum) state = (.ok count, next)) :
    ∃ layout after metadata metadataWrites,
      Committed file checksum state layout after metadata metadataWrites ∧
      next = state.during (journalCleanImage after metadata)
        (commitWrites layout after state.image file metadata metadataWrites) ∧
      count = (commitWrites layout after state.image file metadata metadataWrites).length := by
  unfold commitVertexFsFileToImage writeVertexFsFileExtent writeImage at run
  simp only [exec_get_bind, exec_require_bind_ok, exec_modify_bind, exec_fromExcept_bind_ok,
    vertexFsLayoutForImage_ok] at run
  obtain ⟨fits, layout, format, run⟩ := run
  obtain ⟨_, afterJournal, journalRun, run⟩ := exec_bind_ok.mp run
  have start : ∀ image, { state with image := image, syncWriteCount := 0 } =
      state.during image [] := fun _ => rfl
  rw [start] at journalRun
  obtain ⟨journalRoom, -, rfl⟩ := (recordVertexFsSyncSection_ok (by simp)).mp journalRun
  obtain ⟨_, afterExtent, extentRun, run⟩ := exec_bind_ok.mp run
  simp only [exec_require_bind_ok, exec_modify, Prod.mk.injEq] at extentRun
  obtain ⟨extent, -, rfl⟩ := extentRun
  simp only [during_withImage, during_image] at run
  obtain ⟨_, afterSectors, sectorsRun, run⟩ := exec_bind_ok.mp run
  obtain ⟨sectorsRoom, -, rfl⟩ := (recordVertexFsSyncSectors_ok journalRoom).mp sectorsRun
  simp only [exec_get_bind, exec_fromExcept_bind_ok, during_image, vertexFsLayoutForImage_ok] at run
  obtain ⟨known, knownRun, after, formatAfter, run⟩ := run
  obtain ⟨index, lookup, rfl⟩ := (vertexFsImageHasInode_ok formatAfter).mp knownRun
  obtain ⟨_, afterMetadata, metadataRun, run⟩ := exec_bind_ok.mp run
  obtain ⟨metadata, metadataWrites, written, metadataRoom, rfl⟩ :=
    commitVertexFsMetadata_ok (by simpa using sectorsRoom) lookup metadataRun
  simp only [exec_modify_bind, during_withImage, during_image] at run
  obtain ⟨_, afterClean, cleanRun, run⟩ := exec_bind_ok.mp run
  obtain ⟨room, -, rfl⟩ := (recordVertexFsSyncSection_ok metadataRoom).mp cleanRun
  simp only [exec_get_bind, exec_require_bind_ok, exec_pure_ok, during_image,
    during_syncWriteCount] at run
  obtain ⟨accepted, rfl, rfl⟩ := run
  exact ⟨layout, after, metadata, metadataWrites,
    ⟨fits, format, extent, formatAfter, written, accepted, room⟩, rfl, rfl⟩

theorem VertexFsLayout.Placed.sections_inside (placed : layout.Placed) :
    (∀ index < layout.journal.sectorCount, layout.journal.firstSector + index < vertexFsSectors) ∧
      ∀ index < layout.inodeTable.sectorCount,
        layout.inodeTable.firstSector + index < vertexFsSectors := by
  have row := placed.row
  have dynamicFit := placed.dynamicFit
  constructor <;> intro index inside <;> omega

theorem commitVertexFsMetadata_existing {index : Nat} (placed : layout.Placed)
    (lookup : layout.inodeIndexById image file.inodeId = .ok (some index))
    (room : writes.length + layout.inodeTable.sectorCount ≤ vertexFsSyncMaxDeviceWrites) :
    exec (commitVertexFsMetadata layout file checksum true) (base.during image writes) =
      (.ok (), base.during (inodeRecordImage layout image index file checksum)
        (writes ++ sectorWrites (inodeRecordImage layout image index file checksum)
          layout.inodeTable)) := by
  unfold commitVertexFsMetadata
  rw [if_pos rfl]
  refine exec_bind_ok.mpr ⟨(), _, writeVertexFsInodeRecord_ok.mpr ⟨index, ?_, rfl⟩, ?_⟩
  · rwa [during_image]
  · rw [during_withImage, during_image]
    exact (recordVertexFsSyncSection_ok (by omega)).mpr
      ⟨by simpa using room, placed.sections_inside.2, rfl⟩

theorem commitVertexFsFileToImage_existing {state : VertexFsState} {after : VertexFsLayout}
    {metadata : Image} {index : Nat}
    (lookup : after.inodeIndexById (commitExtentImage layout state.image file) file.inodeId =
      .ok (some index))
    (result : metadata =
      inodeRecordImage after (commitExtentImage layout state.image file) index file checksum)
    (committed : Committed file checksum state layout after metadata
      (sectorWrites metadata after.inodeTable)) :
    exec (commitVertexFsFileToImage file checksum) state =
      (.ok (commitWrites layout after state.image file metadata
          (sectorWrites metadata after.inodeTable)).length,
        state.during (journalCleanImage after metadata)
          (commitWrites layout after state.image file metadata
            (sectorWrites metadata after.inodeTable))) := by
  have placed := placed_of_layoutFromSuperblock committed.format
  have placedAfter := placed_of_layoutFromSuperblock committed.formatAfter
  have room := committed.room
  simp only [commitWrites, List.length_append, sectorWrites_length] at room
  have extentSectors : ∀ index < file.sectorCount, file.firstSector + index < vertexFsSectors := by
    intro index inside
    have extent := committed.extent
    simp only [vertexFsImageBytes, vertexFsSectors, vertexFsSectorSize] at extent ⊢
    omega
  have start : ∀ image, { state with image := image, syncWriteCount := 0 } =
      state.during image [] := fun _ => rfl
  unfold commitVertexFsFileToImage writeVertexFsFileExtent writeImage
  simp only [exec_get_bind, exec_require_bind_ok, exec_modify_bind, exec_fromExcept_bind_ok,
    vertexFsLayoutForImage_ok]
  refine ⟨committed.fits, layout, committed.format, ?_⟩
  rw [start]
  refine exec_bind_ok.mpr ⟨(), _,
    (recordVertexFsSyncSection_ok (by simp)).mpr ⟨?_, placed.sections_inside.1, rfl⟩, ?_⟩
  · simp
    omega
  refine exec_bind_ok.mpr ⟨⟨⟩, _, exec_require_bind_ok.mpr ⟨committed.extent, exec_modify _ _⟩, ?_⟩
  rw [during_withImage, during_image]
  refine exec_bind_ok.mpr ⟨(), _,
    (recordVertexFsSyncSectors_ok ?_).mpr ⟨?_, extentSectors, rfl⟩, ?_⟩
  · simp
    omega
  · simp
    omega
  simp only [exec_get_bind, exec_fromExcept_bind_ok, during_image, vertexFsLayoutForImage_ok]
  refine ⟨true, (vertexFsImageHasInode_ok committed.formatAfter).mpr ⟨some index, lookup, rfl⟩,
    after, committed.formatAfter, ?_⟩
  refine exec_bind_ok.mpr ⟨(), _, commitVertexFsMetadata_existing placedAfter lookup ?_, ?_⟩
  · simp
    omega
  have resultEq : inodeRecordImage after
      (fileExtentImage (journalPendingImage layout state.image file.inodeId file.content) file)
      index file checksum = metadata := result.symm
  simp only [exec_modify_bind, during_withImage, during_image, resultEq]
  refine exec_bind_ok.mpr ⟨(), _,
    (recordVertexFsSyncSection_ok ?_).mpr ⟨?_, placed.sections_inside.1, rfl⟩, ?_⟩
  · simp
    omega
  · simp
    omega
  simp only [exec_get_bind, exec_require_bind_ok, exec_pure_ok, during_image, during_syncWriteCount]
  exact ⟨committed.accepted, rfl, rfl⟩

end Commit

end VertexOS
