import VertexOS.FailingCalls
import VertexOS.VertexFsImage

/-!
# What an accepted VertexFS image is

The body of an image is everything apart from the journal and the content of
`app/a`: whether an image is accepted depends on its body, on the journal record
and on the first bytes of one extent.
-/

namespace VertexOS

open ByteStrings ByteImages FailingCalls VertexFsLayout VertexFsSection

variable {layout : VertexFsLayout} {image : Image}

@[simp]
theorem vertexFsCheck_ok {reason : String} {holds : Prop} [Decidable holds] {done : Unit} :
    vertexFsCheck reason holds = .ok done ↔ holds := by
  unfold vertexFsCheck rejectVertexFsImage
  split <;> simp_all

@[simp]
theorem rejectVertexFsImage_ne_ok {α : Type} {reason : String} {value : α} :
    rejectVertexFsImage reason ≠ .ok value := by
  simp [rejectVertexFsImage]

def VertexFsSection.At (part : VertexFsSection) (address : Nat) : Prop :=
  part.address 0 ≤ address ∧ address < part.address part.byteCount

def SectionAgree (part : VertexFsSection) (image other : Image) : Prop :=
  ∀ address, part.At address → image address = other address

variable {image other : Image} {layout : VertexFsLayout}

namespace SectionAgree

variable {part : VertexFsSection}

theorem symm (agree : SectionAgree part image other) : SectionAgree part other image :=
  fun address inside => (agree address inside).symm

theorem trans {third : Image} (before : SectionAgree part image other)
    (after : SectionAgree part other third) : SectionAgree part image third :=
  fun address inside => (before address inside).trans (after address inside)

variable (agree : SectionAgree part image other)
include agree

theorem at_offset {offset : Nat} (inside : offset < part.byteCount) :
    image (part.address offset) = other (part.address offset) :=
  agree _ ⟨by simp [address], by simp [address, inside]⟩

theorem readBytes_eq {offset length : Nat} (inside : offset + length ≤ part.byteCount) :
    readBytes image (part.address offset) length =
      readBytes other (part.address offset) length := by
  apply readBytes_congr
  intro address above below
  simp only [VertexFsSection.address] at above below
  exact agree _ ⟨by simp only [VertexFsSection.address]; omega,
    by simp only [VertexFsSection.address]; omega⟩

theorem readLe_eq {offset width : Nat} (inside : offset + width ≤ part.byteCount) :
    readLe width image (part.address offset) = readLe width other (part.address offset) := by
  unfold readLe
  rw [agree.readBytes_eq inside]

theorem magicMatches_eq {magic : Bytes} (inside : magic.length ≤ part.byteCount) :
    vertexFsMagicMatches image part magic = vertexFsMagicMatches other part magic := by
  unfold vertexFsMagicMatches
  rw [agree.readBytes_eq (by omega)]

theorem checksumValid_eq (nonempty : 1 ≤ part.sectorCount) :
    vertexFsChecksumValid image part = vertexFsChecksumValid other part := by
  have room : vertexFsChecksumOffset + 4 ≤ part.byteCount := by
    simp only [vertexFsChecksumOffset, byteCount, vertexFsSectorSize]
    omega
  unfold vertexFsChecksumValid vertexFsSectionChecksum
  rw [agree.readLe_eq room]
  congr 2
  -- The zeroed copies agree as well: the same bytes are written at the same place.
  simp only
  congr 1
  apply readBytes_congr
  intro address above below
  unfold writeLe writeBytes
  rw [agree address ⟨above, by simpa [VertexFsSection.address] using below⟩]

end SectionAgree

theorem VertexFsSection.address_add (part : VertexFsSection) (first second : Nat) :
    part.address first + second = part.address (first + second) :=
  Nat.add_assoc ..

theorem inodeOffset_add (layout : VertexFsLayout) (index offset : Nat) :
    layout.inodeOffset index + offset = layout.inodeTable.address (32 + index * 64 + offset) := by
  simp only [inodeOffset, address, vertexFsInodeEntryOffset, vertexFsInodeEntryLen]
  omega

theorem inodeOffset_eq (layout : VertexFsLayout) (index : Nat) :
    layout.inodeOffset index = layout.inodeTable.address (32 + index * 64) := by
  simpa only [Nat.add_zero] using inodeOffset_add layout index 0

theorem directoryOffset_eq (layout : VertexFsLayout) (index : Nat) :
    layout.directoryOffset index = layout.directory.address (32 + index * 64) := by
  simp only [directoryOffset, vertexFsDirectoryEntryOffset, vertexFsDirectoryEntryLen]

/-- The sections of a layout follow each other and have room for their entries. -/
structure VertexFsLayout.Placed (layout : VertexFsLayout) : Prop where
  tableFirst : layout.inodeTable.firstSector = 1
  tableCount : 2 ≤ layout.inodeTable.sectorCount
  tableEnd : layout.inodeTable.firstSector + layout.inodeTable.sectorCount =
    layout.directory.firstSector
  directoryCount : 2 ≤ layout.directory.sectorCount
  directoryEnd : layout.directory.firstSector + layout.directory.sectorCount =
    layout.freeMap.firstSector
  freeMapCount : layout.freeMap.sectorCount = 1
  freeMapEnd : layout.freeMap.firstSector + 1 = layout.journal.firstSector
  journalCount : layout.journal.sectorCount = 1
  journalEnd : layout.journal.firstSector + 1 = layout.data.firstSector
  dataEnd : layout.data.firstSector + layout.data.sectorCount = vertexFsSectors
  dynamicFit : 2 + layout.dynamicFileCapacity ≤ layout.data.sectorCount
  inodesFit : vertexFsInodeEntryOffset +
      (vertexFsBaseInodeCount + layout.dynamicFileCapacity) * vertexFsInodeEntryLen ≤
    layout.inodeTable.byteCount
  entriesFit : vertexFsDirectoryEntryOffset +
      (vertexFsBaseDirectoryCount + layout.directoryDynamicFileCapacity) *
        vertexFsDirectoryEntryLen ≤ layout.directory.byteCount
  dynamicNamed : layout.dynamicFileCapacity ≤ layout.directoryDynamicFileCapacity
  superblockMagic : layout.superblockMagic.length = 16
  inodeMagic : layout.inodeMagic.length = 16
  directoryMagic : layout.directoryMagic.length = 16
  freeMapMagic : layout.freeMapMagic.length = 16
  journalMagic : layout.journalMagic.length = 16
  generationFit : layout.generationOffset + 64 ≤ layout.sectionTableOffset
  sectionsFit : layout.sectionTableOffset + 5 * vertexFsSectionRecordLen ≤ vertexFsSectorSize
  versionFit : layout.version < 256 ^ 2
  flagsFit : layout.featureFlags < 256 ^ 4
  headerFit : 32 ≤ layout.generationOffset
  volumeFit : layout.format = .v2 → 96 ≤ layout.generationOffset

theorem VertexFsLayout.Placed.row (placed : layout.Placed) :
    layout.inodeTable.firstSector = 1 ∧
      1 + layout.inodeTable.sectorCount = layout.directory.firstSector ∧
      layout.directory.firstSector + layout.directory.sectorCount = layout.freeMap.firstSector ∧
      layout.freeMap.sectorCount = 1 ∧ layout.freeMap.firstSector + 1 = layout.journal.firstSector ∧
      layout.journal.sectorCount = 1 ∧ layout.journal.firstSector + 1 = layout.data.firstSector ∧
      layout.data.firstSector + layout.data.sectorCount = vertexFsSectors :=
  ⟨placed.tableFirst, placed.tableFirst ▸ placed.tableEnd, placed.directoryEnd,
    placed.freeMapCount, placed.freeMapEnd, placed.journalCount, placed.journalEnd, placed.dataEnd⟩

theorem vertexFsLayoutV1_placed : vertexFsLayoutV1.Placed := by
  constructor <;> decide

theorem vertexFsLayoutV2_placed : vertexFsLayoutV2.Placed := by
  constructor <;> decide

theorem placed_of_layoutFromSuperblock
    (format : vertexFsLayoutFromSuperblock image = .ok layout) : layout.Placed := by
  unfold vertexFsLayoutFromSuperblock at format
  split at format
  · cases format
    exact vertexFsLayoutV2_placed
  · split at format
    · cases format
      exact vertexFsLayoutV1_placed
    · exact absurd format rejectVertexFsImage_ne_ok

structure SuperblockOk (layout : VertexFsLayout) (image : Image) (generation : Bytes) :
    Prop where
  volume : layout.format = .v2 → (vertexFsFixedString (readBytes image 32 64)).isOk
  version : readLe 2 image 16 = layout.version
  sectorSize : readLe 2 image 18 = vertexFsSectorSize
  checksum : vertexFsChecksumValid image vertexFsSuperblock
  sectors : readLe 4 image 24 = vertexFsSectors
  flags : readLe 4 image 28 = layout.featureFlags
  inodeTable : layout.sectionMatches image 0 layout.inodeTable
  directory : layout.sectionMatches image 1 layout.directory
  freeMap : layout.sectionMatches image 2 layout.freeMap
  journal : layout.sectionMatches image 3 layout.journal
  data : layout.sectionMatches image 4 layout.data
  generation : vertexFsFixedString (readBytes image layout.generationOffset 64) = .ok generation

theorem checkSuperblock_of_ok {generation : Bytes} (ok : SuperblockOk layout image generation) :
    checkSuperblock layout image = .ok generation := by
  unfold checkSuperblock
  by_cases format : layout.format = .v2
  · have volume := ok.volume format
    cases named : vertexFsFixedString (readBytes image 32 64) with
    | error reason => simp [named, Except.isOk, Except.toBool] at volume
    | ok name =>
      simp only [if_pos format, outcome_bind_ok, vertexFsCheck_ok, exists_const]
      exact ⟨name, rfl, ok.version, ok.sectorSize, ok.checksum, ok.sectors, ok.flags,
        ⟨ok.inodeTable, ok.directory, ok.freeMap, ok.journal, ok.data⟩, ok.generation⟩
  · simp only [if_neg format, outcome_bind_ok, vertexFsCheck_ok, exists_const]
    exact ⟨ok.version, ok.sectorSize, ok.checksum, ok.sectors, ok.flags,
      ⟨ok.inodeTable, ok.directory, ok.freeMap, ok.journal, ok.data⟩, ok.generation⟩

namespace VertexFsLayout

variable (layout : VertexFsLayout) (image : Image) {inodes : VertexFsParsedInodes}

def parsedInodes : VertexFsParsedInodes where
  readme := layout.readInode image 1
  appA := layout.readInode image 3
  dynamic := (List.range (layout.inodeTableCount image - vertexFsBaseInodeCount)).map fun index =>
    layout.readInode image (vertexFsBaseInodeCount + index)

structure InodeTableOk : Prop where
  magic : vertexFsMagicMatches image layout.inodeTable layout.inodeMagic
  version : readLe 2 image (layout.inodeTable.address 16) = layout.version
  checksum : vertexFsChecksumValid image layout.inodeTable
  countLower : vertexFsBaseInodeCount ≤ layout.inodeTableCount image
  countUpper : layout.inodeTableCount image ≤ vertexFsBaseInodeCount + layout.dynamicFileCapacity
  root : layout.directoryInodeOk image 0 vertexFsInodeRoot 0 (utf8 "/")
  readme : layout.fileInodeOk image 1 vertexFsInodeReadme vertexFsInodeRoot (utf8 "readme")
  appDir : layout.directoryInodeOk image 2 vertexFsInodeAppDir vertexFsInodeRoot (utf8 "app")
  appA : layout.fileInodeOk image 3 vertexFsInodeAppA vertexFsInodeAppDir (utf8 "a")
  dynamic : ∀ index < layout.inodeTableCount image - vertexFsBaseInodeCount,
    layout.dynamicInodeOk image index

theorem parseInodeTable_ok :
    layout.parseInodeTable image = .ok inodes ↔
      layout.InodeTableOk image ∧ inodes = layout.parsedInodes image := by
  unfold parseInodeTable
  simp only [outcome_bind_ok, vertexFsCheck_ok, exists_const, List.all_eq_true, List.mem_range]
  constructor
  · rintro ⟨magic, ⟨version, checksum⟩, ⟨countLower, countUpper⟩, root, readme, appDir, appA,
      dynamic, result⟩
    refine ⟨⟨magic, version, checksum, countLower, countUpper, root, readme, appDir, appA,
      dynamic⟩, ?_⟩
    injection result with result
    exact result.symm
  · rintro ⟨ok, rfl⟩
    exact ⟨ok.magic, ⟨ok.version, ok.checksum⟩, ⟨ok.countLower, ok.countUpper⟩, ok.root, ok.readme,
      ok.appDir, ok.appA, ok.dynamic, rfl⟩

structure DirectoryOk (dynamic : List VertexFsInode) : Prop where
  magic : vertexFsMagicMatches image layout.directory layout.directoryMagic
  version : readLe 2 image (layout.directory.address 16) = layout.version
  checksum : vertexFsChecksumValid image layout.directory
  count : layout.directoryCount image = vertexFsBaseDirectoryCount + dynamic.length
  countUpper : dynamic.length ≤ layout.directoryDynamicFileCapacity
  readme : layout.directoryEntryEq image 0 vertexFsInodeRoot vertexFsInodeReadme vertexFsKindFile
    (utf8 "readme")
  appDir : layout.directoryEntryEq image 1 vertexFsInodeRoot vertexFsInodeAppDir vertexFsKindDir
    (utf8 "app")
  appA : layout.directoryEntryEq image 2 vertexFsInodeAppDir vertexFsInodeAppA vertexFsKindFile
    (utf8 "a")
  dynamic : ∀ entry ∈ dynamic.zipIdx, layout.dynamicDirectoryEntryOk image entry.2 entry.1

theorem validateDirectory_ok {dynamic : List VertexFsInode} {done : Unit} :
    layout.validateDirectory image dynamic = .ok done ↔ layout.DirectoryOk image dynamic := by
  unfold validateDirectory
  simp only [outcome_bind_ok, vertexFsCheck_ok, exists_const, List.all_eq_true]
  constructor
  · rintro ⟨magic, ⟨version, checksum⟩, ⟨_, countUpper⟩, count, ⟨readme, appDir, appA⟩, dynamic⟩
    exact ⟨magic, version, checksum, count, by omega, readme, appDir, appA, dynamic⟩
  · intro ok
    have count := ok.count
    have countUpper := ok.countUpper
    exact ⟨ok.magic, ⟨ok.version, ok.checksum⟩, ⟨by omega, by omega⟩, count,
      ⟨ok.readme, ok.appDir, ok.appA⟩, ok.dynamic⟩

structure FreeMapOk (inodes : VertexFsParsedInodes) : Prop where
  magic : vertexFsMagicMatches image layout.freeMap layout.freeMapMagic
  version : readLe 2 image (layout.freeMap.address 16) = layout.version
  checksum : vertexFsChecksumValid image layout.freeMap
  count : readLe 2 image (layout.freeMap.address 18) = vertexFsSectors
  bytes : ∀ sector < vertexFsSectors,
    layout.freeMapByte image sector = 0 ∨ layout.freeMapByte image sector = 1
  allocated : ∀ sector < vertexFsSectors,
    layout.freeMapByte image sector = 1 ↔ layout.Allocated inodes sector

theorem checkEach_ok {sectors : List Nat} {check : Nat → Except VertexFsRejection Unit}
    {done : Unit} : sectors.forM check = .ok done ↔ ∀ sector ∈ sectors, check sector = .ok () := by
  induction sectors with
  | nil => simp [pure, Except.pure]
  | cons sector rest ih =>
    change (check sector >>= fun _ => rest.forM check) = .ok done ↔ _
    rw [outcome_bind_ok]
    constructor
    · rintro ⟨_, first, others⟩ other (_ | _)
      · exact first
      · exact ih.mp others other ‹_›
    · intro every
      exact ⟨(), every sector (by simp), ih.mpr fun other member => every other (by simp [member])⟩

theorem validateFreeMap_ok {done : Unit} :
    layout.validateFreeMap image inodes = .ok done ↔ layout.FreeMapOk image inodes := by
  unfold validateFreeMap
  simp only [outcome_bind_ok, vertexFsCheck_ok, exists_const, checkEach_ok, List.mem_range]
  constructor
  · rintro ⟨magic, ⟨version, checksum⟩, count, each⟩
    exact ⟨magic, version, checksum, count, fun sector inside => (each sector inside).1,
      fun sector inside => (each sector inside).2⟩
  · intro ok
    exact ⟨ok.magic, ⟨ok.version, ok.checksum⟩, ok.count,
      fun sector inside => ⟨ok.bytes sector inside, ok.allocated sector inside⟩⟩

end VertexFsLayout

namespace VertexFsInode

variable {inode : VertexFsInode} {image : Image}

structure ExtentOk (inode : VertexFsInode) (layout : VertexFsLayout) : Prop where
  nonempty : inode.sectorCount ≠ 0
  lower : layout.data.firstSector ≤ inode.firstSector
  upper : inode.endSector ≤ layout.data.firstSector + layout.data.sectorCount
  bounded : inode.endSector < 2 ^ 64
  sizeFits : inode.size ≤ inode.sectorCount * vertexFsSectorSize
  sizeUpper : inode.size ≤ maxVertexFsFileBytes

theorem checkExtent_ok {done : Unit} :
    inode.checkExtent layout = .ok done ↔ inode.ExtentOk layout := by
  unfold checkExtent
  simp only [outcome_bind_ok, vertexFsCheck_ok, exists_const]
  constructor
  · rintro ⟨nonempty, bounded, ⟨lower, upper⟩, sizeFits, sizeUpper⟩
    exact ⟨nonempty, lower, upper, bounded, sizeFits, sizeUpper⟩
  · intro ok
    exact ⟨ok.nonempty, ok.bounded, ⟨ok.lower, ok.upper⟩, ok.sizeFits, ok.sizeUpper⟩

def ChecksumOk (inode : VertexFsInode) (image : Image) : Prop :=
  vertexFsChecksum32 (inode.stored image) = inode.checksum

theorem payload_ok {bytes : Bytes} : inode.payload layout image = .ok bytes ↔
    inode.ExtentOk layout ∧ inode.ChecksumOk image ∧ bytes = inode.stored image := by
  unfold payload
  simp only [outcome_bind_ok, vertexFsCheck_ok, exists_const, checkExtent_ok, ChecksumOk]
  constructor
  · rintro ⟨extent, checksum, result⟩
    injection result with result
    exact ⟨extent, checksum, result.symm⟩
  · rintro ⟨extent, checksum, rfl⟩
    exact ⟨extent, checksum, rfl⟩

/-- The extent starts with what the journal says about this inode. -/
def MatchesJournal (inode : VertexFsInode) (image : Image) (record : VertexFsJournalRecord) :
    Prop :=
  record.targetInode = inode.id ∧
    readBytes image (inode.firstSector * vertexFsSectorSize) record.payload.length =
      record.payload

theorem recoverablePayload_clean {bytes : Bytes} :
    inode.recoverablePayload layout image none = .ok bytes ↔
      inode.ExtentOk layout ∧ inode.ChecksumOk image ∧ bytes = inode.stored image := by
  unfold recoverablePayload ChecksumOk
  simp only [outcome_bind_ok, exists_const, checkExtent_ok]
  refine and_congr_right fun _ => ?_
  split_ifs with valid
  · simp [valid, pure, Except.pure, eq_comm]
  · simp [valid, rejectVertexFsImage]

theorem recoverablePayload_pending {record : VertexFsJournalRecord} :
    (∃ bytes, inode.recoverablePayload layout image (some record) = .ok bytes) ↔
      inode.ExtentOk layout ∧ (inode.ChecksumOk image ∨ inode.MatchesJournal image record) := by
  unfold recoverablePayload ChecksumOk MatchesJournal
  simp only [outcome_bind_ok, exists_const, checkExtent_ok, exists_and_left]
  refine and_congr_right fun _ => ?_
  split_ifs with valid found
  · simp [valid, pure, Except.pure]
  · simp [found, pure, Except.pure]
  · simp [valid, found, rejectVertexFsImage]

end VertexFsInode

open VertexFsInode

structure DynamicFilesOk (layout : VertexFsLayout) (image : Image)
    (prior dynamic : List VertexFsInode) : Prop where
  extent : ∀ inode ∈ dynamic, inode.ExtentOk layout
  checksum : ∀ inode ∈ dynamic, inode.ChecksumOk image
  apartPrior : ∀ inode ∈ dynamic, ∀ other ∈ prior, ¬inode.Overlaps other
  apart : dynamic.Pairwise fun other inode => ¬inode.Overlaps other

theorem checkDynamicFiles_ok {prior dynamic : List VertexFsInode} {done : Unit} :
    checkDynamicFiles layout image prior dynamic = .ok done ↔
      DynamicFilesOk layout image prior dynamic := by
  induction dynamic generalizing prior with
  | nil =>
    simp only [checkDynamicFiles, true_iff]
    constructor <;> simp
  | cons inode rest ih =>
    simp only [checkDynamicFiles, outcome_bind_ok, vertexFsCheck_ok, exists_const, ih, payload_ok]
    constructor
    · rintro ⟨_, ⟨extent, checksum, -⟩, prior, others⟩
      refine ⟨?_, ?_, ?_, ?_⟩
      · exact List.forall_mem_cons.mpr ⟨extent, others.extent⟩
      · exact List.forall_mem_cons.mpr ⟨checksum, others.checksum⟩
      · refine List.forall_mem_cons.mpr ⟨prior, fun other member earlier earlierMem => ?_⟩
        exact others.apartPrior other member earlier (by simp [earlierMem])
      · refine List.pairwise_cons.mpr ⟨fun other member => ?_, others.apart⟩
        exact others.apartPrior other member inode (by simp)
    · intro ok
      have apart := List.pairwise_cons.mp ok.apart
      refine ⟨_, ⟨ok.extent inode (by simp), ok.checksum inode (by simp), rfl⟩,
        ok.apartPrior inode (by simp), ⟨?_, ?_, ?_, apart.2⟩⟩
      · exact fun other member => ok.extent other (by simp [member])
      · exact fun other member => ok.checksum other (by simp [member])
      · intro other member earlier earlierMem
        rcases List.mem_append.mp earlierMem with old | new
        · exact ok.apartPrior other (by simp [member]) earlier old
        · rw [List.mem_singleton.mp new]
          exact apart.1 other member

namespace VertexFsLayout

variable (layout : VertexFsLayout) (image : Image)

/-- Everything that the kernel checks apart from the journal and the bytes of `app/a`. -/
structure BodyOk (generation : Bytes) : Prop where
  format : vertexFsLayoutFromSuperblock image = .ok layout
  superblock : checkSuperblock layout image = .ok generation
  table : layout.InodeTableOk image
  directory : layout.DirectoryOk image (layout.parsedInodes image).dynamic
  readmeExtent : (layout.parsedInodes image).readme.ExtentOk layout
  readmeChecksum : (layout.parsedInodes image).readme.ChecksumOk image
  appAExtent : (layout.parsedInodes image).appA.ExtentOk layout
  apart : ¬(layout.parsedInodes image).readme.Overlaps (layout.parsedInodes image).appA
  dynamic : DynamicFilesOk layout image
    [(layout.parsedInodes image).readme, (layout.parsedInodes image).appA]
    (layout.parsedInodes image).dynamic
  freeMap : layout.FreeMapOk image (layout.parsedInodes image)

section

variable {layout : VertexFsLayout} {image : Image} {generation : Bytes}

theorem InodeTableOk.id_eq (ok : layout.InodeTableOk image) {index : Nat}
    (inside : index < layout.inodeTableCount image) :
    (layout.readInode image index).id = index + 1 := by
  have root := ok.root
  have readme := ok.readme
  have appDir := ok.appDir
  have appA := ok.appA
  simp only [directoryInodeOk, fileInodeOk, decide_eq_true_eq] at root readme appDir appA
  match index with
  | 0 => rw [root.1]; rfl
  | 1 => exact readme.1
  | 2 => rw [appDir.1]; rfl
  | 3 => exact appA.1
  | dynamicIndex + 4 =>
    have dynamic := ok.dynamic dynamicIndex (by simp only [vertexFsBaseInodeCount]; omega)
    simp only [dynamicInodeOk, decide_eq_true_eq] at dynamic
    have id := dynamic.1
    simp only [vertexFsBaseInodeCount, vertexFsDynamicInodeFirst] at id
    rw [Nat.add_comm dynamicIndex]
    omega

theorem BodyOk.placed (body : layout.BodyOk image generation) : layout.Placed :=
  placed_of_layoutFromSuperblock body.format

theorem BodyOk.readme_id (body : layout.BodyOk image generation) :
    (layout.parsedInodes image).readme.id = vertexFsInodeReadme :=
  body.table.id_eq ((by decide : 1 < vertexFsBaseInodeCount).trans_le body.table.countLower)

theorem BodyOk.appA_id (body : layout.BodyOk image generation) :
    (layout.parsedInodes image).appA.id = vertexFsInodeAppA :=
  body.table.id_eq body.table.countLower

end

def bootFiles (generation appA : Bytes) (journalReplayed : Bool) : VertexFsBootFiles where
  generation := generation
  readme :=
    { inode := (layout.parsedInodes image).readme
      payload := (layout.parsedInodes image).readme.stored image }
  appA := { inode := (layout.parsedInodes image).appA, payload := appA }
  journalReplayed := journalReplayed

end VertexFsLayout

theorem parseVertexFsImage_ok {boot : VertexFsBootFiles} :
    parseVertexFsImage image = .ok boot ↔
      ∃ (layout : VertexFsLayout) (generation : Bytes) (journal : Option VertexFsJournalRecord)
        (base appA : Bytes) (replayed : Bool),
      layout.BodyOk image generation ∧ layout.parseJournal image = .ok journal ∧
      (layout.parsedInodes image).appA.recoverablePayload layout image journal = .ok base ∧
      vertexFsReplayJournal (layout.parsedInodes image).appA base journal = .ok (appA, replayed) ∧
      boot = layout.bootFiles image generation appA replayed := by
  unfold parseVertexFsImage
  simp only [outcome_bind_ok, vertexFsCheck_ok, exists_const, VertexFsLayout.parseInodeTable_ok,
    VertexFsLayout.validateDirectory_ok, VertexFsLayout.validateFreeMap_ok,
    checkDynamicFiles_ok, payload_ok]
  constructor
  · rintro ⟨layout, format, generation, superblock, journal, journalOk, inodes, ⟨table, parsed⟩,
      directory, readme, ⟨readmeExtent, readmeChecksum, stored⟩, base, appAOk, apart, dynamic,
      freeMap, ⟨appA, replayed⟩, replay, result⟩
    subst parsed stored
    have appAExtent : (layout.parsedInodes image).appA.ExtentOk layout := by
      cases journal with
      | none => exact (recoverablePayload_clean.mp appAOk).1
      | some record => exact (recoverablePayload_pending.mp ⟨_, appAOk⟩).1
    have result := Except.ok.inj result
    exact ⟨layout, generation, journal, base, appA, replayed,
      ⟨format, superblock, table, directory, readmeExtent, readmeChecksum, appAExtent, apart,
        dynamic, freeMap⟩,
      journalOk, appAOk, replay, result.symm⟩
  · rintro ⟨layout, generation, journal, base, appA, replayed, body, journalOk, appAOk, replay, rfl⟩
    exact ⟨layout, body.format, generation, body.superblock, journal, journalOk, _,
      ⟨body.table, rfl⟩, body.directory, _, ⟨body.readmeExtent, body.readmeChecksum, rfl⟩, base,
      appAOk, body.apart, body.dynamic, body.freeMap, (appA, replayed), replay, rfl⟩

theorem parseVertexFsImage_clean {generation : Bytes}
    (body : layout.BodyOk image generation) (journal : layout.parseJournal image = .ok none)
    (checksum : (layout.parsedInodes image).appA.ChecksumOk image) :
    parseVertexFsImage image = .ok (layout.bootFiles image generation
      ((layout.parsedInodes image).appA.stored image) false) := by
  rw [parseVertexFsImage_ok]
  refine ⟨layout, generation, none, _, _, false, body, journal,
    recoverablePayload_clean.mpr ⟨body.appAExtent, checksum, rfl⟩, rfl, rfl⟩

/-- A pending record for `app/a` is replayed when the extent holds the old content, as its
checksum shows, or already starts with the new one. -/
theorem parseVertexFsImage_pending
    {generation payload : Bytes} (body : layout.BodyOk image generation)
    (journal : layout.parseJournal image = .ok (some ⟨vertexFsInodeAppA, payload⟩))
    (vouched : (layout.parsedInodes image).appA.ChecksumOk image ∨
      readBytes image ((layout.parsedInodes image).appA.firstSector * vertexFsSectorSize)
        payload.length = payload) (fits : payload.length ≤ vertexFsSectorSize) :
    parseVertexFsImage image = .ok (layout.bootFiles image generation payload true) := by
  have matched : (layout.parsedInodes image).appA.ChecksumOk image ∨
      (layout.parsedInodes image).appA.MatchesJournal image ⟨vertexFsInodeAppA, payload⟩ :=
    vouched.imp_right fun starts => ⟨body.appA_id.symm, starts⟩
  obtain ⟨base, recovered⟩ := recoverablePayload_pending.mpr ⟨body.appAExtent, matched⟩
  rw [parseVertexFsImage_ok]
  refine ⟨layout, generation, _, base, payload, true, body, journal, recovered, ?_, rfl⟩
  have room : payload.length ≤
      (layout.parsedInodes image).appA.sectorCount * vertexFsSectorSize := by
    have nonempty := body.appAExtent.nonempty
    calc payload.length ≤ 1 * vertexFsSectorSize := by omega
      _ ≤ _ := Nat.mul_le_mul_right _ (by omega)
  unfold vertexFsReplayJournal
  simp only [outcome_bind_ok, vertexFsCheck_ok, exists_const]
  exact ⟨⟨trivial, body.appA_id⟩, fits, room, rfl⟩

theorem not_parseVertexFsImage_of_target
    {record : VertexFsJournalRecord} (format : vertexFsLayoutFromSuperblock image = .ok layout)
    (journal : layout.parseJournal image = .ok (some record))
    (other : record.targetInode ≠ vertexFsInodeAppA) (boot : VertexFsBootFiles) :
    parseVertexFsImage image ≠ .ok boot := by
  intro accepted
  obtain ⟨layout', generation, journal', base, appA, replayed, body, journalOk, -, replay, -⟩ :=
    parseVertexFsImage_ok.mp accepted
  have same : layout' = layout := by
    have := body.format.symm.trans format
    injection this
  subst same
  rw [journal] at journalOk
  injection journalOk with sameRecord
  subst sameRecord
  unfold vertexFsReplayJournal at replay
  simp only [outcome_bind_ok, vertexFsCheck_ok, exists_const] at replay
  exact other replay.1.1

structure CleanImage (layout : VertexFsLayout) (image : Image) (generation : Bytes) : Prop where
  body : layout.BodyOk image generation
  journal : layout.parseJournal image = .ok none
  checksum : (layout.parsedInodes image).appA.ChecksumOk image

theorem cleanImage_of_parse {boot : VertexFsBootFiles}
    (accepted : parseVertexFsImage image = .ok boot) (clean : boot.journalReplayed = false) :
    ∃ layout generation, CleanImage layout image generation ∧
      boot = layout.bootFiles image generation
        ((layout.parsedInodes image).appA.stored image) false := by
  obtain ⟨layout, generation, journal, base, appA, replayed, body, journalOk, appAOk, replay,
    rfl⟩ := parseVertexFsImage_ok.mp accepted
  cases journal with
  | none =>
    obtain ⟨-, checksum, rfl⟩ := recoverablePayload_clean.mp appAOk
    unfold vertexFsReplayJournal at replay
    cases replay
    exact ⟨layout, generation, ⟨body, journalOk, checksum⟩, rfl⟩
  | some record =>
    unfold vertexFsReplayJournal at replay
    simp only [outcome_bind_ok, vertexFsCheck_ok, exists_const] at replay
    obtain ⟨-, -, -, result⟩ := replay
    cases result
    cases clean

theorem cleanImage_of_isOk (accepted : (parseVertexFsImage image).isOk)
    (format : vertexFsLayoutFromSuperblock image = .ok layout)
    (journal : layout.parseJournal image = .ok none) :
    ∃ generation, CleanImage layout image generation := by
  cases result : parseVertexFsImage image with
  | error reason => simp [result, Except.isOk, Except.toBool] at accepted
  | ok boot =>
    obtain ⟨found, generation, record, base, appA, replayed, body, journalOk, appAOk, -⟩ :=
      parseVertexFsImage_ok.mp result
    obtain rfl : found = layout := by
      have same := body.format.symm.trans format
      injection same
    rw [journal] at journalOk
    cases journalOk
    exact ⟨generation, body, journal, (recoverablePayload_clean.mp appAOk).2.1⟩

section Agreement

theorem parsedInodes_dynamic_length (image : Image) :
    (layout.parsedInodes image).dynamic.length =
      layout.inodeTableCount image - vertexFsBaseInodeCount := by
  simp [VertexFsLayout.parsedInodes]

theorem mem_zipIdx_dynamic {inode : VertexFsInode} {index : Nat} :
    (inode, index) ∈ (layout.parsedInodes image).dynamic.zipIdx ↔
      index < layout.inodeTableCount image - vertexFsBaseInodeCount ∧
        inode = layout.readInode image (vertexFsBaseInodeCount + index) := by
  rw [List.mem_zipIdx_iff_getElem?]
  simp only [VertexFsLayout.parsedInodes, List.getElem?_map]
  by_cases inside : index < layout.inodeTableCount image - vertexFsBaseInodeCount
  · simp [inside, eq_comm]
  · simp [inside]

def VertexFsInode.extent (inode : VertexFsInode) : VertexFsSection :=
  ⟨inode.firstSector, inode.sectorCount⟩

theorem stored_agree {inode : VertexFsInode} (ok : inode.ExtentOk layout)
    (agree : SectionAgree inode.extent image other) : inode.stored image = inode.stored other := by
  have room : 0 + inode.size ≤ inode.extent.byteCount := by
    simpa [extent, byteCount] using ok.sizeFits
  have := agree.readBytes_eq room
  simpa [stored, extent, address] using this

/-- The entry is as before but for the size and the checksum of its file. -/
structure SameEntry (layout : VertexFsLayout) (image other : Image) (index : Nat) : Prop where
  id : (layout.readInode other index).id = (layout.readInode image index).id
  kind : (layout.readInode other index).kind = (layout.readInode image index).kind
  first : (layout.readInode other index).firstSector = (layout.readInode image index).firstSector
  count : (layout.readInode other index).sectorCount = (layout.readInode image index).sectorCount
  parent : (layout.readInode other index).parent = (layout.readInode image index).parent
  name : layout.inodeNameField other index = layout.inodeNameField image index
  reserved : layout.inodeReservedZero other index = layout.inodeReservedZero image index

theorem InodeTableOk_congr (ok : layout.InodeTableOk image)
    (magic : vertexFsMagicMatches other layout.inodeTable layout.inodeMagic)
    (version : readLe 2 other (layout.inodeTable.address 16) = layout.version)
    (checksum : vertexFsChecksumValid other layout.inodeTable)
    (count : layout.inodeTableCount other = layout.inodeTableCount image)
    (directories : ∀ index, index = 0 ∨ index = 2 →
      layout.readInode other index = layout.readInode image index)
    (entries : ∀ index < layout.inodeTableCount image, SameEntry layout image other index) :
    layout.InodeTableOk other := by
  have lower := ok.countLower
  have base : vertexFsBaseInodeCount = 4 := rfl
  have directory {index id parent : Nat} {name : Bytes} (isDirectory : index = 0 ∨ index = 2)
      (holds : layout.directoryInodeOk image index id parent name) :
      layout.directoryInodeOk other index id parent name := by
    have same := entries index (by omega)
    simp only [directoryInodeOk, decide_eq_true_eq] at holds ⊢
    simpa only [inodeNameEq, directories index isDirectory, same.name, same.reserved] using holds
  have file {index id parent : Nat} {name : Bytes} (inside : index < 4)
      (holds : layout.fileInodeOk image index id parent name) :
      layout.fileInodeOk other index id parent name := by
    have same := entries index (by omega)
    simp only [fileInodeOk, decide_eq_true_eq] at holds ⊢
    simpa only [inodeNameEq, same.id, same.kind, same.parent, same.name, same.reserved] using holds
  refine ⟨magic, version, checksum, count ▸ ok.countLower, count ▸ ok.countUpper,
    directory (.inl rfl) ok.root, file (by omega) ok.readme, directory (.inr rfl) ok.appDir,
    file (by omega) ok.appA, fun index inside => ?_⟩
  rw [count] at inside
  have same := entries (vertexFsBaseInodeCount + index) (by omega)
  simpa only [dynamicInodeOk, decide_eq_true_eq, same.id, same.kind, same.first, same.count,
    same.parent, same.name, same.reserved] using ok.dynamic index inside

section Placed

variable (placed : layout.Placed)
include placed

theorem superblock_agree (agree : SectionAgree vertexFsSuperblock image other) :
    vertexFsLayoutFromSuperblock image = vertexFsLayoutFromSuperblock other ∧
      checkSuperblock layout image = checkSuperblock layout other := by
  have size : vertexFsSuperblock.byteCount = 512 := rfl
  have start (offset : Nat) : vertexFsSuperblock.address offset = offset := by
    simp [address, vertexFsSuperblock]
  have bytes (offset length : Nat) (inside : offset + length ≤ 512) :
      readBytes image offset length = readBytes other offset length := by
    simpa only [start] using agree.readBytes_eq (by rwa [size])
  have number (offset width : Nat) (inside : offset + width ≤ 512) :
      readLe width image offset = readLe width other offset := by
    simpa only [start] using agree.readLe_eq (by rwa [size])
  have generationFit := placed.generationFit
  have sectionsFit := placed.sectionsFit
  simp only [vertexFsSectionRecordLen, vertexFsSectorSize] at sectionsFit
  have sections (index : Nat) (part : VertexFsSection) (inside : index < 5) :
      layout.sectionMatches image index part = layout.sectionMatches other index part := by
    apply decide_eq_decide.mpr
    simp (disch := omega) only [vertexFsSectionRecordLen, number]
  constructor
  · unfold vertexFsLayoutFromSuperblock
    rw [agree.magicMatches_eq (by decide), agree.magicMatches_eq (by decide)]
  · unfold checkSuperblock
    rw [agree.checksumValid_eq (by decide), bytes 32 64 (by omega), number 16 2 (by omega),
      number 18 2 (by omega), number 24 4 (by omega), number 28 4 (by omega),
      bytes layout.generationOffset 64 (by omega), sections 0 _ (by omega),
      sections 1 _ (by omega), sections 2 _ (by omega), sections 3 _ (by omega),
      sections 4 _ (by omega)]

theorem inode_agree (agree : SectionAgree layout.inodeTable image other) (index : Nat)
    (inside : index < vertexFsBaseInodeCount + layout.dynamicFileCapacity) :
    layout.readInode image index = layout.readInode other index ∧
      layout.inodeNameField image index = layout.inodeNameField other index ∧
      layout.inodeReservedZero image index = layout.inodeReservedZero other index := by
  have fits := placed.inodesFit
  simp only [vertexFsInodeEntryOffset, vertexFsInodeEntryLen] at fits
  simp only [readInode, inodeNameField, inodeReservedZero, inodeOffset_eq,
    address_add, vertexFsInodeNameBytes]
  simp (disch := omega) only [agree.readLe_eq, agree.readBytes_eq, and_self]

theorem directoryEntry_agree (agree : SectionAgree layout.directory image other) (index : Nat)
    (inside : index < vertexFsBaseDirectoryCount + layout.directoryDynamicFileCapacity)
    (parent child kind : Nat) (name : Bytes) :
    layout.directoryEntryEq image index parent child kind name =
      layout.directoryEntryEq other index parent child kind name := by
  have fits := placed.entriesFit
  simp only [vertexFsDirectoryEntryOffset, vertexFsDirectoryEntryLen] at fits
  simp only [directoryEntryEq, directoryOffset_eq, address_add,
    vertexFsDirectoryNameBytes, vertexFsDirectoryEntryLen]
  simp (disch := omega) only [agree.readLe_eq, agree.readBytes_eq]

theorem inodeTableCount_agree (agree : SectionAgree layout.inodeTable image other) :
    layout.inodeTableCount image = layout.inodeTableCount other := by
  have tableCount := placed.tableCount
  apply agree.readLe_eq
  simp only [byteCount, vertexFsSectorSize]
  omega

theorem InodeTableOk_agree (agree : SectionAgree layout.inodeTable image other)
    (ok : layout.InodeTableOk image) : layout.InodeTableOk other := by
  have tableCount := placed.tableCount
  have upper := ok.countUpper
  have lower := ok.countLower
  have base : vertexFsBaseInodeCount = 4 := rfl
  have large : 1024 ≤ layout.inodeTable.byteCount := by
    simp only [byteCount, vertexFsSectorSize]
    omega
  apply InodeTableOk_congr ok
  · rw [← agree.magicMatches_eq (by rw [placed.inodeMagic]; omega)]
    exact ok.magic
  · rw [← agree.readLe_eq (by omega)]
    exact ok.version
  · rw [← agree.checksumValid_eq (by omega)]
    exact ok.checksum
  · exact (inodeTableCount_agree placed agree).symm
  · intro index isDirectory
    exact (inode_agree placed agree index (by omega)).1.symm
  · intro index inside
    obtain ⟨inode, name, reserved⟩ := inode_agree placed agree index (by omega)
    constructor <;> simp only [inode, name, reserved]

theorem parsedInodes_agree (agree : SectionAgree layout.inodeTable image other)
    (ok : layout.InodeTableOk image) : layout.parsedInodes image = layout.parsedInodes other := by
  have entry := fun index inside => (inode_agree placed agree index inside).1
  have countUpper := ok.countUpper
  have base : vertexFsBaseInodeCount = 4 := rfl
  unfold VertexFsLayout.parsedInodes
  rw [← inodeTableCount_agree placed agree, entry 1 (by omega), entry 3 (by omega)]
  congr 1
  apply List.map_congr_left
  intro index inside
  rw [List.mem_range] at inside
  exact entry _ (by omega)

theorem DirectoryOk_congr (agree : SectionAgree layout.directory image other)
    (tableOk : layout.InodeTableOk image)
    (sameCount : layout.inodeTableCount other = layout.inodeTableCount image)
    (sameEntry : ∀ index < layout.inodeTableCount image,
      (layout.readInode other index).id = (layout.readInode image index).id ∧
        layout.inodeNameField other index = layout.inodeNameField image index)
    (ok : layout.DirectoryOk image (layout.parsedInodes image).dynamic) :
    layout.DirectoryOk other (layout.parsedInodes other).dynamic := by
  have directoryCount := placed.directoryCount
  have large : 1024 ≤ layout.directory.byteCount := by
    simp only [byteCount, vertexFsSectorSize]
    omega
  have entry := directoryEntry_agree placed agree
  have base : vertexFsBaseDirectoryCount = 3 := rfl
  have length : (layout.parsedInodes other).dynamic.length =
      (layout.parsedInodes image).dynamic.length := by
    rw [parsedInodes_dynamic_length, parsedInodes_dynamic_length, sameCount]
  have countUpper := ok.countUpper
  refine ⟨?_, ?_, ?_, ?_, length ▸ ok.countUpper, ?_, ?_, ?_, ?_⟩
  · rw [← agree.magicMatches_eq (by rw [placed.directoryMagic]; omega)]
    exact ok.magic
  · rw [← agree.readLe_eq (by omega)]
    exact ok.version
  · rw [← agree.checksumValid_eq (by omega)]
    exact ok.checksum
  · rw [length, ← ok.count]
    exact (agree.readLe_eq (by omega)).symm
  · rw [← entry 0 (by omega)]
    exact ok.readme
  · rw [← entry 1 (by omega)]
    exact ok.appDir
  · rw [← entry 2 (by omega)]
    exact ok.appA
  · rintro ⟨inode, index⟩ member
    obtain ⟨inside, found⟩ := mem_zipIdx_dynamic.mp member
    rw [sameCount] at inside
    rw [found]
    have holds := ok.dynamic _ (mem_zipIdx_dynamic.mpr ⟨inside, rfl⟩)
    have tableUpper := tableOk.countUpper
    obtain ⟨id, field⟩ := sameEntry (vertexFsBaseInodeCount + index) (by omega)
    rw [parsedInodes_dynamic_length] at countUpper
    simpa only [dynamicDirectoryEntryOk, field, id,
      entry (vertexFsBaseDirectoryCount + index) (by omega)] using holds

theorem DirectoryOk_agree (table : SectionAgree layout.inodeTable image other)
    (agree : SectionAgree layout.directory image other) (tableOk : layout.InodeTableOk image)
    (ok : layout.DirectoryOk image (layout.parsedInodes image).dynamic) :
    layout.DirectoryOk other (layout.parsedInodes other).dynamic := by
  have upper := tableOk.countUpper
  apply DirectoryOk_congr placed agree tableOk (inodeTableCount_agree placed table).symm _ ok
  intro index inside
  obtain ⟨inode, field, -⟩ := inode_agree placed table index (by omega)
  rw [inode, field]
  exact ⟨rfl, rfl⟩

theorem FreeMapOk_agree {inodes : VertexFsParsedInodes}
    (agree : SectionAgree layout.freeMap image other) (ok : layout.FreeMapOk image inodes) :
    layout.FreeMapOk other inodes := by
  have size : layout.freeMap.byteCount = 512 := by
    simp [byteCount, placed.freeMapCount, vertexFsSectorSize]
  have byteEq : ∀ sector < vertexFsSectors,
      layout.freeMapByte image sector = layout.freeMapByte other sector := by
    intro sector inside
    apply agree.at_offset
    simp only [size, vertexFsFreeMapOffset, vertexFsSectors] at inside ⊢
    omega
  refine ⟨?_, ?_, ?_, ?_, ?_, ?_⟩
  · rw [← agree.magicMatches_eq (by rw [placed.freeMapMagic]; omega)]
    exact ok.magic
  · rw [← agree.readLe_eq (by omega)]
    exact ok.version
  · rw [← agree.checksumValid_eq (by rw [placed.freeMapCount])]
    exact ok.checksum
  · rw [← agree.readLe_eq (by omega)]
    exact ok.count
  · intro sector inside
    rw [← byteEq sector inside]
    exact ok.bytes sector inside
  · intro sector inside
    rw [← byteEq sector inside]
    exact ok.allocated sector inside

theorem parseJournal_agree (agree : SectionAgree layout.journal image other) :
    layout.parseJournal image = layout.parseJournal other := by
  have magicLength := placed.journalMagic
  have size : layout.journal.byteCount = 512 := by
    simp [byteCount, placed.journalCount, vertexFsSectorSize]
  have magic := agree.magicMatches_eq (show layout.journalMagic.length ≤ _ by omega)
  have valid := agree.checksumValid_eq (by rw [placed.journalCount])
  simp (disch := omega) only [parseJournal, magic, valid, agree.readLe_eq]
  by_cases room : vertexFsJournalPayloadOffset +
      readLe 4 other (layout.journal.address 28) ≤ vertexFsSectorSize
  · rw [agree.readBytes_eq (by rw [size]; exact room)]
  · -- The record is rejected before its payload is read.
    simp only [vertexFsCheck, room, if_false, rejectVertexFsImage, bind, Except.bind]

end Placed

/-- What keeps the body of an image: the metadata and every extent but that of `app/a`. -/
structure BodyAgree (layout : VertexFsLayout) (image other : Image) : Prop where
  superblock : SectionAgree vertexFsSuperblock image other
  table : SectionAgree layout.inodeTable image other
  directory : SectionAgree layout.directory image other
  freeMap : SectionAgree layout.freeMap image other
  readme : SectionAgree (layout.parsedInodes image).readme.extent image other
  dynamic : ∀ inode ∈ (layout.parsedInodes image).dynamic, SectionAgree inode.extent image other

theorem VertexFsLayout.BodyOk.agree {generation : Bytes} (body : layout.BodyOk image generation)
    (agree : BodyAgree layout image other) : layout.BodyOk other generation := by
  have placed := body.placed
  obtain ⟨formatEq, superblockEq⟩ := superblock_agree placed agree.superblock
  have inodesEq := parsedInodes_agree placed agree.table body.table
  have readmeEq := stored_agree body.readmeExtent agree.readme
  refine ⟨?_, ?_, InodeTableOk_agree placed agree.table body.table,
    DirectoryOk_agree placed agree.table agree.directory body.table body.directory,
    ?_, ?_, ?_, ?_, ?_, ?_⟩
  · rw [← formatEq]
    exact body.format
  · rw [← superblockEq]
    exact body.superblock
  all_goals rw [← inodesEq]
  · exact body.readmeExtent
  · have checksum := body.readmeChecksum
    rwa [VertexFsInode.ChecksumOk, readmeEq] at checksum
  · exact body.appAExtent
  · exact body.apart
  · have dynamic := body.dynamic
    refine ⟨dynamic.extent, ?_, dynamic.apartPrior, dynamic.apart⟩
    intro inode member
    have checksum := dynamic.checksum inode member
    rwa [VertexFsInode.ChecksumOk, stored_agree (dynamic.extent inode member)
      (agree.dynamic inode member)] at checksum
  · exact FreeMapOk_agree placed agree.freeMap body.freeMap

end Agreement

end VertexOS
