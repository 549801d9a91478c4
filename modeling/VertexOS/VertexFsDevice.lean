import VertexOS.VertexFsCreate
import VertexOS.VertexFsKnownFiles

/-!
# The device under a sync

When a sync is over, the device is the shadow image wherever the sync writes.
-/

namespace VertexOS

open ByteStrings ByteImages FailingCalls

variable {file : VfsVertexFsFile}

section

variable {layout : VertexFsLayout} {image : Image} {dynamicIndex checksum : Nat}

theorem CreatedFileFits.index_lt (fits : CreatedFileFits layout image dynamicIndex file) :
    dynamicIndex < layout.dynamicFileCapacity := by
  have inode := fits.inode
  unfold vertexFsDynamicIndexForInode at inode
  split_ifs at inode with low high
  cases inode
  omega

theorem dynamicMetadataImage_outside (placed : layout.Placed)
    (fits : CreatedFileFits layout image dynamicIndex file) {address : Nat}
    (table : ¬layout.inodeTable.At address) (directory : ¬layout.directory.At address)
    (freeMap : ¬layout.freeMap.At address) :
    image address = dynamicMetadataImage layout image dynamicIndex file checksum address := by
  have inside := fits.index_lt
  have sector := fits.sector
  have tableCount := placed.tableCount
  have inodesFit := placed.inodesFit
  have directoryCount := placed.directoryCount
  have entriesFit := placed.entriesFit
  have named := placed.dynamicNamed
  have freeMapCount := placed.freeMapCount
  have dynamicFit := placed.dynamicFit
  have dataEnd := placed.dataEnd
  have tableName := fixedName_length fits.name.2
  have directoryName := fixedName_length
    (fits.name.2.trans (show _ ≤ vertexFsDirectoryNameBytes by decide))
  have mark : ([1] : Bytes).length = 1 := rfl
  simp only [dynamicMetadataImage, dynamicFreeMapImage, dynamicDirectoryImage, dynamicInodeImage,
    writeVertexFsSectorChecksum_eq, inodeOffset_eq, directoryOffset_eq, VertexFsSection.At,
    VertexFsSection.address, VertexFsSection.byteCount, VertexFsLayout.dynamicDataSector,
    vertexFsSectorSize, vertexFsSectors, vertexFsChecksumOffset, vertexFsFreeMapOffset,
    vertexFsInodeEntryOffset, vertexFsInodeEntryLen, vertexFsInodeNameBytes,
    vertexFsBaseInodeCount, vertexFsDirectoryEntryOffset, vertexFsDirectoryEntryLen,
    vertexFsDirectoryNameBytes, vertexFsBaseDirectoryCount] at *
  simp (disch := omega) only [writeLe_outside, writeBytes_outside]

end

section

variable {layout : VertexFsLayout} {image other : Image} {index inodeId checksum : Nat}

theorem inodeEntryFits_iff :
    layout.inodeEntryFits index = true ↔ 32 + index * 64 + 64 ≤ layout.inodeTable.byteCount := by
  unfold VertexFsLayout.inodeEntryFits
  exact decide_eq_true_iff

theorem inodeEntryFits_of_findInode {indices : List Nat}
    (found : layout.findInode image inodeId indices = .ok (some index)) :
    layout.inodeEntryFits index = true := by
  induction indices with
  | nil => cases found
  | cons first rest ih =>
    simp only [VertexFsLayout.findInode] at found
    split_ifs at found with fits here
    · cases found
      exact fits
    · exact ih found

theorem inodeIndexById_agree (placed : layout.Placed)
    (agree : SectionAgree layout.inodeTable image other) (inodeId : Nat) :
    layout.inodeIndexById image inodeId = layout.inodeIndexById other inodeId := by
  unfold VertexFsLayout.inodeIndexById
  rw [inodeTableCount_agree placed agree]
  generalize List.range _ = indices
  induction indices with
  | nil => rfl
  | cons first rest ih =>
    simp only [VertexFsLayout.findInode, ih]
    split
    · rename_i fits
      have inside := inodeEntryFits_iff.mp fits
      rw [inodeOffset_eq, agree.readLe_eq (by omega)]
    · rfl

theorem inodeRecordImage_outside_of_fits (placed : layout.Placed)
    (fits : layout.inodeEntryFits index = true) :
    UnchangedOutside layout.inodeTable image
      (inodeRecordImage layout image index file checksum) := by
  have tableCount := placed.tableCount
  rw [inodeEntryFits_iff] at fits
  rw [inodeRecordImage_eq]
  exact ((unchangedOutside_writeLe (by omega)).trans (unchangedOutside_writeLe (by omega))).trans
    (writeVertexFsSectorChecksum_outside (by omega))

end

/-- The tables that the sync of a file changes, which the image knows or not. -/
def metadataSections (layout : VertexFsLayout) (known : Bool) : List VertexFsSection :=
  if known then [layout.inodeTable] else [layout.inodeTable, layout.directory, layout.freeMap]

def syncSections (layout : VertexFsLayout) (file : VfsVertexFsFile) (known : Bool) :
    List VertexFsSection :=
  layout.journal :: file.extent :: metadataSections layout known

def AgreeOutside (parts : List VertexFsSection) (image other : Image) : Prop :=
  ∀ address, (∀ part ∈ parts, ¬part.At address) → image address = other address

def VfsVertexFsFile.InData (file : VfsVertexFsFile) (layout : VertexFsLayout) : Prop :=
  layout.data.firstSector ≤ file.firstSector ∧
    file.firstSector + file.sectorCount ≤ layout.data.firstSector + layout.data.sectorCount

section Sent

variable {layout after : VertexFsLayout} {state : VertexFsState} {checksum : Nat}
  {metadata device : Image} {metadataWrites : List VertexFsDeviceWrite} {known : Bool}
  {address : Nat} {part : VertexFsSection} {image : Image}

theorem VfsVertexFsFile.InData.apart (inData : file.InData layout) (placed : layout.Placed) :
    vertexFsSuperblock.Apart file.extent ∧ layout.inodeTable.Apart file.extent ∧
      layout.directory.Apart file.extent ∧ layout.freeMap.Apart file.extent ∧
      layout.journal.Apart file.extent := by
  obtain ⟨lower, -⟩ := inData
  have row := placed.row
  simp only [VertexFsSection.Apart, vertexFsSuperblock, VfsVertexFsFile.extent]
  omega

theorem applyWrites_sectorWrites_at (inside : part.At address) :
    applyWrites device (sectorWrites image part) address = image address := by
  rw [applyWrites_sectorWrites, copyRange, if_pos]
  simpa [VertexFsSection.At, VertexFsSection.address] using inside

theorem applyWrites_sectorWrites_outside (outside : ¬part.At address) :
    applyWrites device (sectorWrites image part) address = device address := by
  rw [applyWrites_sectorWrites, copyRange, if_neg]
  simpa [VertexFsSection.At, VertexFsSection.address] using outside

theorem MetadataWritten.sent_outside {index : Option Nat}
    (written : MetadataWritten layout image file checksum metadata metadataWrites)
    (placed : layout.Placed) (lookup : layout.inodeIndexById image file.inodeId = .ok index)
    (outside : ∀ part ∈ metadataSections layout index.isSome, ¬part.At address) :
    applyWrites device metadataWrites address = device address ∧
      image address = metadata address := by
  cases written with
  | existing found =>
    cases lookup.symm.trans found
    have table := outside layout.inodeTable (by simp [metadataSections])
    exact ⟨applyWrites_sectorWrites_outside table, inodeRecordImage_outside_of_fits placed
      (inodeEntryFits_of_findInode found) address table⟩
  | created absent fits =>
    cases lookup.symm.trans absent
    have table := outside layout.inodeTable (by simp [metadataSections])
    have directory := outside layout.directory (by simp [metadataSections])
    have freeMap := outside layout.freeMap (by simp [metadataSections])
    rw [applyWrites_append, applyWrites_append, applyWrites_sectorWrites_outside freeMap,
      applyWrites_sectorWrites_outside directory, applyWrites_sectorWrites_outside table]
    exact ⟨rfl, dynamicMetadataImage_outside placed fits table directory freeMap⟩

theorem MetadataWritten.sent_inside {index : Option Nat}
    (written : MetadataWritten layout image file checksum metadata metadataWrites)
    (lookup : layout.inodeIndexById image file.inodeId = .ok index)
    (isPart : part ∈ metadataSections layout index.isSome) (inside : part.At address) :
    applyWrites device metadataWrites address = metadata address := by
  cases written with
  | existing found =>
    cases lookup.symm.trans found
    obtain rfl : part = layout.inodeTable := by simpa [metadataSections] using isPart
    exact applyWrites_sectorWrites_at inside
  | created absent fits =>
    cases lookup.symm.trans absent
    rw [applyWrites_append, applyWrites_append]
    by_cases freeMap : layout.freeMap.At address
    · exact applyWrites_sectorWrites_at freeMap
    rw [applyWrites_sectorWrites_outside freeMap]
    by_cases directory : layout.directory.At address
    · exact applyWrites_sectorWrites_at directory
    rw [applyWrites_sectorWrites_outside directory]
    have table : layout.inodeTable.At address := by
      simp only [metadataSections, Option.isSome_none, Bool.false_eq_true, if_false,
        List.mem_cons, List.not_mem_nil, or_false] at isPart
      rcases isPart with rfl | rfl | rfl
      · exact inside
      · exact absurd inside directory
      · exact absurd inside freeMap
    exact applyWrites_sectorWrites_at table

variable (committed : Committed file checksum state layout after metadata metadataWrites)
include committed

theorem Committed.journal_outside :
    UnchangedOutside layout.journal state.image (commitJournalImage layout state.image file) := by
  refine journalPendingImage_outside (placed_of_layoutFromSuperblock committed.format) _ _ ?_
  rw [VfsVertexFsFile.content_length]
  exact committed.fits.2.2

theorem Committed.extent_outside :
    UnchangedOutside file.extent (commitJournalImage layout state.image file)
      (commitExtentImage layout state.image file) :=
  fileExtentImage_outside committed.fits.2.1

variable (inData : file.InData layout)
include inData

theorem Committed.after_eq : after = layout := by
  have placed := placed_of_layoutFromSuperblock committed.format
  have superblock := (committed.journal_outside.agree (metadata_apart_journal placed).1).trans
    (committed.extent_outside.agree (inData.apart placed).1)
  have same := (superblock_agree placed superblock).1
  rw [committed.format, committed.formatAfter] at same
  injection same.symm

theorem Committed.table_agree :
    SectionAgree layout.inodeTable state.image (commitExtentImage layout state.image file) := by
  have placed := placed_of_layoutFromSuperblock committed.format
  exact (committed.journal_outside.agree (metadata_apart_journal placed).2.1).trans
    (committed.extent_outside.agree (inData.apart placed).2.1)

variable (lookup : vertexFsImageHasInode state.image file.inodeId = .ok known)
include lookup

/-- Where a sync sends, the device is the shadow image when the sync is over. -/
theorem Committed.sent_inside (isPart : part ∈ syncSections layout file known)
    (inside : part.At address) :
    applyWrites device (commitWrites layout after state.image file metadata metadataWrites)
      address = journalCleanImage after metadata address := by
  obtain rfl := committed.after_eq inData
  have placed := placed_of_layoutFromSuperblock committed.format
  obtain ⟨index, found, rfl⟩ := (vertexFsImageHasInode_ok committed.format).mp lookup
  rw [inodeIndexById_agree placed (committed.table_agree inData)] at found
  simp only [commitWrites, applyWrites_append]
  by_cases journal : after.journal.At address
  · exact applyWrites_sectorWrites_at journal
  rw [applyWrites_sectorWrites_outside journal, ← journalCleanImage_outside placed _ _ journal]
  by_cases tables : ∃ part ∈ metadataSections after index.isSome, part.At address
  · obtain ⟨part, isPart, inside⟩ := tables
    exact committed.written.sent_inside found isPart inside
  simp only [not_exists, not_and] at tables
  obtain ⟨unsent, same⟩ := committed.written.sent_outside placed found tables
  rw [unsent, ← same]
  have extent : file.extent.At address := by
    simp only [syncSections, List.mem_cons] at isPart
    rcases isPart with rfl | rfl | isTable
    · exact absurd inside journal
    · exact inside
    · exact absurd inside (tables part isTable)
  exact applyWrites_sectorWrites_at extent

theorem Committed.sent_outside
    (outside : ∀ part ∈ syncSections layout file known, ¬part.At address) :
    applyWrites device (commitWrites layout after state.image file metadata metadataWrites)
        address = device address ∧
      journalCleanImage after metadata address = state.image address := by
  obtain rfl := committed.after_eq inData
  have placed := placed_of_layoutFromSuperblock committed.format
  obtain ⟨index, found, rfl⟩ := (vertexFsImageHasInode_ok committed.format).mp lookup
  rw [inodeIndexById_agree placed (committed.table_agree inData)] at found
  simp only [syncSections, List.forall_mem_cons] at outside
  obtain ⟨journal, extent, tables⟩ := outside
  obtain ⟨unsent, same⟩ := committed.written.sent_outside placed found tables
  simp only [commitWrites, applyWrites_append]
  rw [applyWrites_sectorWrites_outside journal, ← journalCleanImage_outside placed _ _ journal,
    unsent, ← same, ← committed.extent_outside address extent,
    ← committed.journal_outside address journal]
  refine ⟨?_, rfl⟩
  exact (applyWrites_sectorWrites_outside (by exact extent)).trans
    (applyWrites_sectorWrites_outside journal)

/-- A device that differs from the shadow image only where the sync sends is the shadow
image when the sync is over. -/
theorem Committed.sent (agree : AgreeOutside (syncSections layout file known) device state.image) :
    applyWrites device (commitWrites layout after state.image file metadata metadataWrites) =
      journalCleanImage after metadata := by
  funext address
  by_cases sends : ∃ part ∈ syncSections layout file known, part.At address
  · obtain ⟨part, isPart, inside⟩ := sends
    exact committed.sent_inside inData lookup isPart inside
  · simp only [not_exists, not_and] at sends
    obtain ⟨unsent, same⟩ := committed.sent_outside inData lookup sends
    rw [unsent, same, agree address sends]

end Sent

end VertexOS
