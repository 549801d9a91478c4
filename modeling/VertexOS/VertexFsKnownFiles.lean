import VertexOS.VertexFsUpdates

/-!
# Syncing a file that the image knows

The files of an accepted image have extents of their own, so a commit of one of
them leaves the others alone, and it ends in an accepted image again.
-/

namespace VertexOS

open ByteStrings ByteImages FailingCalls

def FileIndex (layout : VertexFsLayout) (image : Image) (index : Nat) : Prop :=
  index < layout.inodeTableCount image ∧ index ≠ 0 ∧ index ≠ 2

structure FilesOk (layout : VertexFsLayout) (image : Image) : Prop where
  extent : ∀ index, FileIndex layout image index → (layout.readInode image index).ExtentOk layout
  checksum : ∀ index, FileIndex layout image index →
    (layout.readInode image index).ChecksumOk image
  apart : ∀ first second, FileIndex layout image first → FileIndex layout image second →
    first ≠ second →
    ¬(layout.readInode image first).Overlaps (layout.readInode image second)

variable {layout : VertexFsLayout} {generation : Bytes}

section

variable {image : Image}

theorem not_overlaps_symm {first second : VertexFsInode} (apart : ¬first.Overlaps second) :
    ¬second.Overlaps first :=
  fun overlaps => apart ⟨overlaps.2, overlaps.1⟩

theorem fileIndex_cases {index : Nat} (file : FileIndex layout image index) :
    index = 1 ∨ index = 3 ∨
      ∃ dynamicIndex < layout.inodeTableCount image - vertexFsBaseInodeCount,
        index = vertexFsBaseInodeCount + dynamicIndex := by
  obtain ⟨inside, notRoot, notAppDir⟩ := file
  simp only [vertexFsBaseInodeCount]
  by_cases base : index < 4
  · omega
  · exact Or.inr (Or.inr ⟨index - 4, by omega, by omega⟩)

theorem dynamic_mem {dynamicIndex : Nat}
    (inside : dynamicIndex < layout.inodeTableCount image - vertexFsBaseInodeCount) :
    layout.readInode image (vertexFsBaseInodeCount + dynamicIndex) ∈
      (layout.parsedInodes image).dynamic :=
  List.mem_map.mpr ⟨dynamicIndex, List.mem_range.mpr inside, rfl⟩

theorem CleanImage.filesOk (clean : CleanImage layout image generation) : FilesOk layout image := by
  have body := clean.body
  have dynamic := body.dynamic
  have dynamicApart : ∀ first second, first < second →
      second < layout.inodeTableCount image - vertexFsBaseInodeCount →
      ¬(layout.readInode image (vertexFsBaseInodeCount + first)).Overlaps
        (layout.readInode image (vertexFsBaseInodeCount + second)) := by
    intro first second order inside
    have apart := List.pairwise_map.mp dynamic.apart
    have pair := List.pairwise_iff_getElem.mp apart first second (by simp; omega) (by simpa) order
    simp only [List.getElem_range] at pair
    exact not_overlaps_symm pair
  have prior {dynamicIndex : Nat}
      (inside : dynamicIndex < layout.inodeTableCount image - vertexFsBaseInodeCount) :=
    List.forall_mem_cons.mp (dynamic.apartPrior _ (dynamic_mem inside))
  refine ⟨?_, ?_, ?_⟩
  · intro index file
    rcases fileIndex_cases file with rfl | rfl | ⟨dynamicIndex, inside, rfl⟩
    · exact body.readmeExtent
    · exact body.appAExtent
    · exact dynamic.extent _ (dynamic_mem inside)
  · intro index file
    rcases fileIndex_cases file with rfl | rfl | ⟨dynamicIndex, inside, rfl⟩
    · exact body.readmeChecksum
    · exact clean.checksum
    · exact dynamic.checksum _ (dynamic_mem inside)
  · intro first second firstFile secondFile distinct
    rcases fileIndex_cases firstFile with rfl | rfl | ⟨firstIndex, firstInside, rfl⟩ <;>
      rcases fileIndex_cases secondFile with rfl | rfl | ⟨secondIndex, secondInside, rfl⟩
    · exact absurd rfl distinct
    · exact body.apart
    · exact not_overlaps_symm (prior secondInside).1
    · exact not_overlaps_symm body.apart
    · exact absurd rfl distinct
    · exact not_overlaps_symm ((prior secondInside).2 _ (List.mem_singleton_self _))
    · exact (prior firstInside).1
    · exact (prior firstInside).2 _ (List.mem_singleton_self _)
    · rcases Nat.lt_or_gt_of_ne (show firstIndex ≠ secondIndex by omega) with order | order
      · exact dynamicApart _ _ order secondInside
      · exact not_overlaps_symm (dynamicApart _ _ order firstInside)

theorem cleanImage_of_files (format : vertexFsLayoutFromSuperblock image = .ok layout)
    (superblock : checkSuperblock layout image = .ok generation) (table : layout.InodeTableOk image)
    (directory : layout.DirectoryOk image (layout.parsedInodes image).dynamic)
    (files : FilesOk layout image) (freeMap : layout.FreeMapOk image (layout.parsedInodes image))
    (journal : layout.parseJournal image = .ok none) : CleanImage layout image generation := by
  have countLower := table.countLower
  have base : vertexFsBaseInodeCount = 4 := rfl
  have readme : FileIndex layout image 1 := ⟨by omega, by decide, by decide⟩
  have appA : FileIndex layout image 3 := ⟨by omega, by decide, by decide⟩
  have dynamicFile : ∀ dynamicIndex < layout.inodeTableCount image - vertexFsBaseInodeCount,
      FileIndex layout image (vertexFsBaseInodeCount + dynamicIndex) :=
    fun dynamicIndex inside => ⟨by omega, by omega, by omega⟩
  have dynamicCases : ∀ inode ∈ (layout.parsedInodes image).dynamic,
      ∃ index, FileIndex layout image index ∧ 4 ≤ index ∧ inode = layout.readInode image index := by
    intro inode member
    obtain ⟨dynamicIndex, inside, rfl⟩ := List.mem_map.mp member
    rw [List.mem_range] at inside
    exact ⟨_, dynamicFile dynamicIndex inside, by omega, rfl⟩
  refine ⟨⟨format, superblock, table, directory, files.extent 1 readme, files.checksum 1 readme,
    files.extent 3 appA, files.apart 1 3 readme appA (by decide), ⟨?_, ?_, ?_, ?_⟩, freeMap⟩,
    journal, files.checksum 3 appA⟩
  · intro inode member
    obtain ⟨index, file, -, rfl⟩ := dynamicCases inode member
    exact files.extent index file
  · intro inode member
    obtain ⟨index, file, -, rfl⟩ := dynamicCases inode member
    exact files.checksum index file
  · intro inode member other prior
    obtain ⟨index, file, large, rfl⟩ := dynamicCases inode member
    simp only [List.mem_cons, List.not_mem_nil, or_false] at prior
    rcases prior with rfl | rfl
    · exact files.apart index 1 file readme (by omega)
    · exact files.apart index 3 file appA (by omega)
  · refine List.pairwise_map.mpr (List.pairwise_iff_getElem.mpr ?_)
    intro first second firstInside secondInside order
    simp only [List.length_range] at firstInside secondInside
    simp only [List.getElem_range]
    exact files.apart _ _ (dynamicFile second secondInside) (dynamicFile first firstInside)
      (by omega)

end

section Commit

variable {old : Image} {file : VfsVertexFsFile} {index checksum : Nat} {other : Nat}

/-- The file is the one that the image has in this entry, and small enough for the journal. -/
structure KnownFile (layout : VertexFsLayout) (old : Image) (index : Nat)
    (file : VfsVertexFsFile) : Prop where
  entry : FileIndex layout old index
  inodeId : file.inodeId = index + 1
  extent : file.extent = (layout.readInode old index).extent
  fits : file.len ≤ file.sectorCount * vertexFsSectorSize
  journalFits : file.len ≤ vertexFsSectorSize - vertexFsJournalPayloadOffset

theorem KnownFile.content_fits (known : KnownFile layout old index file) :
    file.content.length ≤ vertexFsSectorSize - vertexFsJournalPayloadOffset := by
  rw [VfsVertexFsFile.content_length]
  exact known.journalFits

def knownMetadataImage (layout : VertexFsLayout) (old : Image) (index : Nat)
    (file : VfsVertexFsFile) (checksum : Nat) : Image :=
  inodeRecordImage layout (commitExtentImage layout old file) index file checksum

def knownCommittedImage (layout : VertexFsLayout) (old : Image) (index : Nat)
    (file : VfsVertexFsFile) (checksum : Nat) : Image :=
  journalCleanImage layout (knownMetadataImage layout old index file checksum)

theorem knownCommittedImage_table (clean : CleanImage layout old generation) (index : Nat)
    (file : VfsVertexFsFile) (checksum : Nat) :
    SectionAgree layout.inodeTable (knownMetadataImage layout old index file checksum)
      (knownCommittedImage layout old index file checksum) :=
  (journalCleanImage_outside clean.body.placed _).agree
    (metadata_apart_journal clean.body.placed).2.1

theorem extent_apart_metadata (clean : CleanImage layout old generation)
    (entry : FileIndex layout old other) :
    (layout.readInode old other).extent.Apart layout.journal ∧
      (layout.readInode old other).extent.Apart layout.inodeTable := by
  obtain ⟨-, table, -, -, journal⟩ := metadata_apart_extent clean.body.placed
    (clean.filesOk.extent other entry)
  exact ⟨journal.symm, table.symm⟩

section Known

variable (clean : CleanImage layout old generation) (known : KnownFile layout old index file)
include clean known

theorem knownCommittedImage_outside (checksum : Nat) {address : Nat}
    (journal : ¬layout.journal.At address) (extent : ¬file.extent.At address)
    (table : ¬layout.inodeTable.At address) :
    old address = knownCommittedImage layout old index file checksum address := by
  have placed := clean.body.placed
  have upper := clean.body.table.countUpper
  have inside := known.entry.1
  calc old address
    _ = _ := journalPendingImage_outside placed old file.inodeId known.content_fits _ journal
    _ = _ := fileExtentImage_outside known.fits _ extent
    _ = _ := inodeRecordImage_outside placed (by omega) _ table
    _ = _ := journalCleanImage_outside placed _ _ journal

theorem knownCommittedImage_agree (checksum : Nat) {part : VertexFsSection}
    (journal : part.Apart layout.journal) (extent : part.Apart file.extent)
    (table : part.Apart layout.inodeTable) :
    SectionAgree part old (knownCommittedImage layout old index file checksum) :=
  fun _ inside => knownCommittedImage_outside clean known checksum (journal.not_at inside)
    (extent.not_at inside) (table.not_at inside)

theorem knownExtentImage_table :
    SectionAgree layout.inodeTable old (commitExtentImage layout old file) := by
  have placed := clean.body.placed
  have extentApart := (metadata_apart_extent placed (clean.filesOk.extent index known.entry)).2.1
  rw [← known.extent] at extentApart
  exact ((journalPendingImage_outside placed old file.inodeId known.content_fits).agree
    (metadata_apart_journal placed).2.1).trans
    ((fileExtentImage_outside known.fits).agree extentApart)

theorem knownCommittedImage_tableOk (checksum : Nat) :
    layout.InodeTableOk (knownCommittedImage layout old index file checksum) := by
  have placed := clean.body.placed
  have extentOk := InodeTableOk_agree placed (knownExtentImage_table clean known) clean.body.table
  exact InodeTableOk_agree placed (knownCommittedImage_table clean index file checksum)
    (InodeTableOk_inodeRecordImage placed extentOk known.entry.2.1 known.entry.2.2)

theorem knownCommittedImage_count (checksum : Nat) :
    layout.inodeTableCount (knownCommittedImage layout old index file checksum) =
      layout.inodeTableCount old := by
  have placed := clean.body.placed
  rw [← inodeTableCount_agree placed (knownCommittedImage_table clean index file checksum),
    knownMetadataImage, inodeTableCount_inodeRecordImage,
    inodeTableCount_agree placed (knownExtentImage_table clean known)]

theorem knownCommittedImage_entry (checksum : Nat) (inside : other < layout.inodeTableCount old) :
    layout.readInode (knownCommittedImage layout old index file checksum) other =
        (if other = index then
          { layout.readInode old index with size := file.len, checksum := checksum % 256 ^ 4 }
        else layout.readInode old other) ∧
      layout.inodeNameField (knownCommittedImage layout old index file checksum) other =
        layout.inodeNameField old other := by
  have placed := clean.body.placed
  have upper := clean.body.table.countUpper
  have small := known.journalFits
  have lenFits : file.len < 256 ^ 8 := by
    simp only [vertexFsSectorSize, vertexFsJournalPayloadOffset] at small
    omega
  have toExtent := inode_agree placed (knownExtentImage_table clean known) other (by omega)
  have toCommitted := inode_agree placed (knownCommittedImage_table clean index file checksum)
    other (by omega)
  have same := sameEntry_inodeRecordImage layout (commitExtentImage layout old file)
    index file checksum other
  constructor
  · rw [← toCommitted.1, knownMetadataImage]
    split_ifs with itself
    · rw [itself, readInode_inodeRecordImage_self lenFits]
      rw [itself] at toExtent
      rw [toExtent.1]
    · rw [readInode_inodeRecordImage_other itself, toExtent.1]
  · rw [← toCommitted.2.1, knownMetadataImage, same.name, toExtent.2.1]

theorem knownCommittedImage_place (checksum : Nat) (inside : other < layout.inodeTableCount old) :
    (layout.readInode (knownCommittedImage layout old index file checksum) other).firstSector =
        (layout.readInode old other).firstSector ∧
      (layout.readInode (knownCommittedImage layout old index file checksum) other).sectorCount =
        (layout.readInode old other).sectorCount ∧
      (layout.readInode (knownCommittedImage layout old index file checksum) other).id =
        (layout.readInode old other).id := by
  rw [(knownCommittedImage_entry clean known checksum inside).1]
  split_ifs with same
  · rw [same]
    exact ⟨rfl, rfl, rfl⟩
  · exact ⟨rfl, rfl, rfl⟩

theorem knownCommittedImage_stored_other (checksum : Nat) (entry : FileIndex layout old other)
    (distinct : other ≠ index) :
    (layout.readInode old other).stored (knownCommittedImage layout old index file checksum) =
      (layout.readInode old other).stored old := by
  obtain ⟨journal, table⟩ := extent_apart_metadata clean entry
  have apart := extent_apart_of_not_overlaps
    (clean.filesOk.apart other index entry known.entry distinct)
  rw [← known.extent] at apart
  exact (stored_agree (clean.filesOk.extent other entry)
    (knownCommittedImage_agree clean known checksum journal apart table)).symm

theorem knownCommittedImage_content (checksum : Nat) :
    readBytes (knownCommittedImage layout old index file checksum)
      ((layout.readInode old index).firstSector * vertexFsSectorSize) file.len = file.content := by
  have placed := clean.body.placed
  have upper := clean.body.table.countUpper
  have inside := known.entry.1
  obtain ⟨journal, table⟩ := extent_apart_metadata clean known.entry
  rw [← known.extent] at journal table
  have agree : SectionAgree file.extent (commitExtentImage layout old file)
      (knownCommittedImage layout old index file checksum) :=
    ((inodeRecordImage_outside placed (by omega)).agree table).trans
      ((journalCleanImage_outside placed _).agree journal)
  have firstSector : (layout.readInode old index).firstSector = file.firstSector :=
    (congrArg VertexFsSection.firstSector known.extent).symm
  rw [firstSector, ← fileExtentImage_content (commitJournalImage layout old file) file]
  have room : 0 + file.len ≤ file.extent.byteCount := by
    simpa [VfsVertexFsFile.extent, VertexFsSection.byteCount] using known.fits
  have same := agree.readBytes_eq room
  simpa only [VfsVertexFsFile.extent, VertexFsSection.address, Nat.add_zero,
    commitExtentImage] using same.symm

theorem knownCommittedImage_filesOk (checksumEq : checksum = vertexFsChecksum32 file.content) :
    FilesOk layout (knownCommittedImage layout old index file checksum) := by
  have files := clean.filesOk
  have fileOld : ∀ other,
      FileIndex layout (knownCommittedImage layout old index file checksum) other →
      FileIndex layout old other := by
    rintro other ⟨inside, notRoot, notAppDir⟩
    rw [knownCommittedImage_count clean known] at inside
    exact ⟨inside, notRoot, notAppDir⟩
  have entry := fun other (file' : FileIndex layout old other) =>
    (knownCommittedImage_entry clean known checksum file'.1).1
  have small := known.journalFits
  have checksumFits : checksum < 256 ^ 4 := by
    rw [checksumEq]
    exact Nat.mod_lt _ (by decide)
  refine ⟨?_, ?_, ?_⟩
  · intro other isFile
    have isOld := fileOld other isFile
    have extent := files.extent other isOld
    rw [entry other isOld]
    split_ifs with same
    · rw [same] at extent
      have sectors : (layout.readInode old index).sectorCount = file.sectorCount :=
        (congrArg VertexFsSection.sectorCount known.extent).symm
      refine ⟨extent.nonempty, extent.lower, extent.upper, extent.bounded, ?_, ?_⟩
      · simp only [sectors]
        exact known.fits
      · simp only [vertexFsSectorSize, vertexFsJournalPayloadOffset, maxVertexFsFileBytes] at *
        omega
    · exact extent
  · intro other isFile
    have isOld := fileOld other isFile
    rw [entry other isOld]
    split_ifs with same
    · have content := knownCommittedImage_content clean known checksum
      unfold VertexFsInode.ChecksumOk VertexFsInode.stored
      simp only
      rw [content, Nat.mod_eq_of_lt checksumFits, checksumEq]
    · unfold VertexFsInode.ChecksumOk
      rw [knownCommittedImage_stored_other clean known checksum isOld same]
      exact files.checksum other isOld
  · intro first second firstFile secondFile distinct
    have apart := files.apart first second (fileOld first firstFile) (fileOld second secondFile)
      distinct
    have firstExtent := knownCommittedImage_place clean known checksum (fileOld first firstFile).1
    have secondExtent :=
      knownCommittedImage_place clean known checksum (fileOld second secondFile).1
    simpa only [VertexFsInode.Overlaps, VertexFsInode.endSector, firstExtent, secondExtent]
      using apart

theorem known_sections_apart (checksum : Nat) :
    SectionAgree vertexFsSuperblock old (knownCommittedImage layout old index file checksum) ∧
      SectionAgree layout.directory old (knownCommittedImage layout old index file checksum) ∧
      SectionAgree layout.freeMap old (knownCommittedImage layout old index file checksum) := by
  have placed := clean.body.placed
  have tableFirst := placed.tableFirst
  have tableEnd := placed.tableEnd
  have directoryEnd := placed.directoryEnd
  obtain ⟨superblock, -, directory, freeMap, -⟩ := metadata_apart_extent placed
    (clean.filesOk.extent index known.entry)
  rw [← known.extent] at superblock directory freeMap
  obtain ⟨superblockJ, -, directoryJ, freeMapJ⟩ := metadata_apart_journal placed
  have superblockT : vertexFsSuperblock.Apart layout.inodeTable := Or.inl tableFirst.ge
  have directoryT : layout.directory.Apart layout.inodeTable := Or.inr tableEnd.le
  have freeMapT : layout.freeMap.Apart layout.inodeTable := Or.inr (by omega)
  exact ⟨knownCommittedImage_agree clean known checksum superblockJ superblock superblockT,
    knownCommittedImage_agree clean known checksum directoryJ directory directoryT,
    knownCommittedImage_agree clean known checksum freeMapJ freeMap freeMapT⟩

theorem knownCommittedImage_allocated (checksum sector : Nat) :
    layout.Allocated
        (layout.parsedInodes (knownCommittedImage layout old index file checksum)) sector ↔
      layout.Allocated (layout.parsedInodes old) sector := by
  have countLower := clean.body.table.countLower
  have base : vertexFsBaseInodeCount = 4 := rfl
  have covers : ∀ other, other < layout.inodeTableCount old →
      ((layout.readInode (knownCommittedImage layout old index file checksum) other).Covers
        sector ↔ (layout.readInode old other).Covers sector) := by
    intro other inside
    obtain ⟨first, count, -⟩ := knownCommittedImage_place clean known checksum inside
    simp only [VertexFsInode.Covers, VertexFsInode.endSector, first, count]
  have dynamic : (∃ inode ∈ (layout.parsedInodes
        (knownCommittedImage layout old index file checksum)).dynamic, inode.Covers sector) ↔
      ∃ inode ∈ (layout.parsedInodes old).dynamic, inode.Covers sector := by
    simp only [VertexFsLayout.parsedInodes, List.mem_map, List.mem_range,
      knownCommittedImage_count clean known, exists_exists_and_eq_and]
    constructor
    · rintro ⟨dynamicIndex, inside, holds⟩
      exact ⟨dynamicIndex, inside, (covers _ (by omega)).mp holds⟩
    · rintro ⟨dynamicIndex, inside, holds⟩
      exact ⟨dynamicIndex, inside, (covers _ (by omega)).mpr holds⟩
  have readme := covers 1 (by omega)
  have appA := covers 3 (by omega)
  unfold VertexFsLayout.Allocated
  rw [dynamic]
  exact or_congr_right (or_congr_right (or_congr_right (or_congr_right (or_congr_right
    (or_congr readme (or_congr appA Iff.rfl))))))

theorem knownCommittedImage_directoryOk (checksum : Nat) :
    layout.DirectoryOk (knownCommittedImage layout old index file checksum)
      (layout.parsedInodes (knownCommittedImage layout old index file checksum)).dynamic := by
  apply DirectoryOk_congr clean.body.placed (known_sections_apart clean known checksum).2.1
    clean.body.table (knownCommittedImage_count clean known checksum) _ clean.body.directory
  intro other inside
  exact ⟨(knownCommittedImage_place clean known checksum inside).2.2,
    (knownCommittedImage_entry clean known checksum inside).2⟩

theorem cleanImage_knownCommitted (checksumEq : checksum = vertexFsChecksum32 file.content) :
    CleanImage layout (knownCommittedImage layout old index file checksum) generation := by
  have placed := clean.body.placed
  obtain ⟨superblock, -, freeMap⟩ := known_sections_apart clean known checksum
  obtain ⟨formatEq, superblockEq⟩ := superblock_agree placed superblock
  apply cleanImage_of_files
  · rw [← formatEq]
    exact clean.body.format
  · rw [← superblockEq]
    exact clean.body.superblock
  · exact knownCommittedImage_tableOk clean known checksum
  · exact knownCommittedImage_directoryOk clean known checksum
  · exact knownCommittedImage_filesOk clean known checksumEq
  · have kept := FreeMapOk_agree placed freeMap clean.body.freeMap
    refine ⟨kept.magic, kept.version, kept.checksum, kept.count, kept.bytes, ?_⟩
    intro sector inside
    rw [knownCommittedImage_allocated clean known]
    exact kept.allocated sector inside
  · exact parseJournal_clean placed _

theorem knownExtentImage_format :
    vertexFsLayoutFromSuperblock (commitExtentImage layout old file) = .ok layout := by
  have placed := clean.body.placed
  have apart := (metadata_apart_extent placed (clean.filesOk.extent index known.entry)).1
  rw [← known.extent] at apart
  have superblock := ((journalPendingImage_outside placed old file.inodeId
    known.content_fits).agree (metadata_apart_journal placed).1).trans
    ((fileExtentImage_outside known.fits).agree apart)
  have format := (superblock_agree placed superblock).1
  rw [clean.body.format] at format
  exact format.symm

theorem knownExtentImage_lookup :
    layout.inodeIndexById (commitExtentImage layout old file) file.inodeId = .ok (some index) := by
  have placed := clean.body.placed
  have inside := known.entry.1
  have table := knownExtentImage_table clean known
  rw [inodeIndexById_eq placed (InodeTableOk_agree placed table clean.body.table),
    ← inodeTableCount_agree placed table, known.inodeId, if_pos ⟨by omega, by omega⟩,
    Nat.add_sub_cancel]

end Known

/-- The record of a file has the extent that the image gives its inode. -/
def FileOf (image : Image) (file : VfsVertexFsFile) : Prop :=
  ∀ layout index, vertexFsLayoutFromSuperblock image = .ok layout →
    layout.inodeIndexById image file.inodeId = .ok (some index) →
    file.firstSector = (layout.readInode image index).firstSector ∧
      file.sectorCount = (layout.readInode image index).sectorCount

theorem committed_known {state : VertexFsState} {after found : VertexFsLayout} {metadata : Image}
    {metadataWrites : List VertexFsDeviceWrite}
    (clean : CleanImage layout state.image generation) (fileOf : FileOf state.image file)
    (entry : FileIndex layout state.image index) (inode : file.inodeId = index + 1)
    (committed : Committed file checksum state found after metadata metadataWrites) :
    KnownFile layout state.image index file ∧ found = layout ∧ after = layout ∧
      metadata = knownMetadataImage layout state.image index file checksum ∧
      metadataWrites = sectorWrites (knownMetadataImage layout state.image index file checksum)
        layout.inodeTable := by
  have placed := clean.body.placed
  have inside := entry.1
  have foundEq : found = layout := by
    have := committed.format.symm.trans clean.body.format
    injection this
  subst foundEq
  have lookup := inodeIndexById_eq placed clean.body.table file.inodeId
  rw [inode, if_pos ⟨by omega, by omega⟩, Nat.add_sub_cancel, ← inode] at lookup
  obtain ⟨firstSector, sectorCount⟩ := fileOf found _ clean.body.format lookup
  have known : KnownFile found state.image index file := by
    refine ⟨entry, inode, ?_, committed.fits.2.1, committed.fits.2.2⟩
    simp only [VfsVertexFsFile.extent, VertexFsInode.extent, firstSector, sectorCount]
  have afterEq : after = found := by
    have := committed.formatAfter.symm.trans (knownExtentImage_format clean known)
    injection this
  subst afterEq
  have lookupAfter := knownExtentImage_lookup clean known
  refine ⟨known, rfl, rfl, ?_⟩
  cases committed.written with
  | existing indexFound =>
    rw [indexFound] at lookupAfter
    cases lookupAfter
    exact ⟨rfl, rfl⟩
  | created absent =>
    rw [absent] at lookupAfter
    cases lookupAfter

/-- A sync of a known file is committed: nothing in the code can refuse it. -/
theorem commit_known_ok {state : VertexFsState} (clean : CleanImage layout state.image generation)
    (known : KnownFile layout state.image index file)
    (checksumEq : checksum = vertexFsChecksum32 file.content)
    (room : file.sectorCount ≤ 14) (tableRoom : layout.inodeTable.sectorCount ≤ 8) :
    exec (commitVertexFsFileToImage file checksum) state =
      (.ok (commitWrites layout layout state.image file
          (knownMetadataImage layout state.image index file checksum)
          (sectorWrites (knownMetadataImage layout state.image index file checksum)
            layout.inodeTable)).length,
        state.during (knownCommittedImage layout state.image index file checksum)
          (commitWrites layout layout state.image file
            (knownMetadataImage layout state.image index file checksum)
            (sectorWrites (knownMetadataImage layout state.image index file checksum)
              layout.inodeTable))) := by
  have placed := clean.body.placed
  have extentOk := clean.filesOk.extent index known.entry
  have lookup := knownExtentImage_lookup clean known
  have firstSector : file.firstSector = (layout.readInode state.image index).firstSector :=
    congrArg VertexFsSection.firstSector known.extent
  have sectorCount : file.sectorCount = (layout.readInode state.image index).sectorCount :=
    congrArg VertexFsSection.sectorCount known.extent
  apply commitVertexFsFileToImage_existing lookup rfl
  refine ⟨⟨?_, known.fits, known.journalFits⟩, clean.body.format, ?_,
    knownExtentImage_format clean known, .existing lookup, ?_, ?_⟩
  · simp only [vertexFsSectorSize]
    omega
  · have upper := extentOk.upper
    have dataEnd := placed.dataEnd
    simp only [VertexFsInode.endSector] at upper
    simp only [vertexFsImageBytes, vertexFsSectors, vertexFsSectorSize] at *
    omega
  · have committed := cleanImage_knownCommitted clean known checksumEq
    have accepted := parseVertexFsImage_clean committed.body committed.journal committed.checksum
    unfold knownCommittedImage knownMetadataImage at accepted
    rw [accepted]
    rfl
  · have journalCount := placed.journalCount
    simp only [commitWrites, List.length_append, sectorWrites_length, vertexFsSyncMaxDeviceWrites]
    omega

end Commit

end VertexOS
