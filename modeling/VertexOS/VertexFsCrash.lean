import VertexOS.VertexFsCreate
import VertexOS.VertexFsKnownFiles

/-!
# A crash during a sync

A crash leaves a first part of the recorded sector writes on the device.  The journal
replay knows only `app/a`, so every such image is in order for `app/a` and for no other
file.
-/

namespace VertexOS

open ByteStrings ByteImages FailingCalls VertexFsSection

def vertexFsContents (image : Image) : Except VertexFsRejection (List (Nat × Bytes)) := do
  let boot ← parseVertexFsImage image
  let layout ← vertexFsLayoutFromSuperblock image
  return (vertexFsInodeReadme, boot.readme.payload) :: (vertexFsInodeAppA, boot.appA.payload) ::
    (layout.parsedInodes image).dynamic.map fun inode => (inode.id, inode.stored image)

/-- After any number of the writes, up to `total`, the image is accepted, the other files are
as before, and the file has its old content or its new one. -/
def CrashConsistent (old : Image) (contents : List (Nat × Bytes)) (file : VfsVertexFsFile)
    (writes : List VertexFsDeviceWrite) (total : Nat) : Prop :=
  ∀ count ≤ total, ∃ after,
    vertexFsContents (applyWrites old (writes.take count)) = .ok after ∧
    (∀ inodeId ≠ file.inodeId, after.lookup inodeId = contents.lookup inodeId) ∧
    (after.lookup file.inodeId = contents.lookup file.inodeId ∨
      after.lookup file.inodeId = some file.content)

variable {layout : VertexFsLayout}

section

variable {image other : Image} {generation appA : Bytes} {replayed : Bool}

def VertexFsLayout.contents (layout : VertexFsLayout) (image : Image) (appA : Bytes) :
    List (Nat × Bytes) :=
  (vertexFsInodeReadme, (layout.parsedInodes image).readme.stored image) ::
    (vertexFsInodeAppA, appA) ::
    (layout.parsedInodes image).dynamic.map fun inode => (inode.id, inode.stored image)

theorem vertexFsContents_eq (body : layout.BodyOk image generation)
    (accepted : parseVertexFsImage image = .ok (layout.bootFiles image generation appA replayed)) :
    vertexFsContents image = .ok (layout.contents image appA) := by
  unfold vertexFsContents
  rw [accepted, body.format]
  rfl

theorem contents_lookup_other {inodeId : Nat} (other : inodeId ≠ vertexFsInodeAppA)
    (first second : Bytes) : (layout.contents image first).lookup inodeId =
      (layout.contents image second).lookup inodeId := by
  have differs : (inodeId == vertexFsInodeAppA) = false := by simpa using other
  simp only [VertexFsLayout.contents, List.lookup_cons, differs]

theorem contents_lookup_appA (appA : Bytes) :
    (layout.contents image appA).lookup vertexFsInodeAppA = some appA := by
  simp [VertexFsLayout.contents, List.lookup_cons, vertexFsInodeAppA, vertexFsInodeReadme]

theorem contents_congr (readme : (layout.parsedInodes image).readme =
      (layout.parsedInodes other).readme)
    (dynamic : (layout.parsedInodes image).dynamic = (layout.parsedInodes other).dynamic)
    (readmeStored : (layout.parsedInodes image).readme.stored image =
      (layout.parsedInodes image).readme.stored other)
    (dynamicStored : ∀ inode ∈ (layout.parsedInodes image).dynamic,
      inode.stored image = inode.stored other) :
    layout.contents image appA = layout.contents other appA := by
  unfold VertexFsLayout.contents
  rw [← readme, ← dynamic, readmeStored]
  congr 2
  apply List.map_congr_left
  intro inode member
  rw [dynamicStored inode member]

theorem contents_agree (body : layout.BodyOk image generation)
    (agree : BodyAgree layout image other) :
    layout.contents image appA = layout.contents other appA := by
  have inodes := parsedInodes_agree body.placed agree.table body.table
  apply contents_congr
  · rw [inodes]
  · rw [inodes]
  · exact stored_agree body.readmeExtent agree.readme
  · intro inode member
    exact stored_agree (body.dynamic.extent inode member) (agree.dynamic inode member)

/-- The images agree outside the journal and the extent of `app/a`. -/
def UnchangedBody (layout : VertexFsLayout) (image other : Image) : Prop :=
  ∀ address, ¬layout.journal.At address → ¬(layout.parsedInodes image).appA.extent.At address →
    image address = other address

theorem SectionAgree.of_unchangedBody (unchanged : UnchangedBody layout image other)
    (part : VertexFsSection) (journal : part.Apart layout.journal)
    (appA : part.Apart (layout.parsedInodes image).appA.extent) :
    SectionAgree part image other := by
  intro address inside
  apply unchanged
  all_goals
    simp only [At, VertexFsSection.address, byteCount, Apart, vertexFsSectorSize] at *
    omega

theorem bodyAgree_of_unchanged (body : layout.BodyOk image generation)
    (unchanged : UnchangedBody layout image other) : BodyAgree layout image other := by
  have placed := body.placed
  obtain ⟨superblock, table, directory, freeMap, -⟩ := metadata_apart_extent placed body.appAExtent
  obtain ⟨superblockJ, tableJ, directoryJ, freeMapJ⟩ := metadata_apart_journal placed
  have agree := SectionAgree.of_unchangedBody unchanged
  refine ⟨agree _ superblockJ superblock, agree _ tableJ table, agree _ directoryJ directory,
    agree _ freeMapJ freeMap, ?_, ?_⟩
  · exact agree _ (metadata_apart_extent placed body.readmeExtent).2.2.2.2.symm
      (extent_apart_of_not_overlaps body.apart)
  · intro inode member
    refine agree _ (metadata_apart_extent placed (body.dynamic.extent inode member)).2.2.2.2.symm
      (extent_apart_of_not_overlaps ?_)
    exact body.dynamic.apartPrior inode member _ (by simp)

end

theorem CleanImage.contents {layout : VertexFsLayout} {image : Image} {generation : Bytes}
    (clean : CleanImage layout image generation) :
    vertexFsContents image =
      .ok (layout.contents image ((layout.parsedInodes image).appA.stored image)) :=
  vertexFsContents_eq clean.body (parseVertexFsImage_clean clean.body clean.journal clean.checksum)

variable {generation : Bytes} {file : VfsVertexFsFile}

section Stages

variable {old image : Image} {checksum : Nat} {generation' : Bytes}

theorem parseJournal_of_agree (placed : layout.Placed) (appA : KnownFile layout old 3 file)
    (agree : SectionAgree layout.journal (commitJournalImage layout old file) image) :
    layout.parseJournal image = .ok (some ⟨vertexFsInodeAppA, file.content⟩) := by
  have id : file.inodeId < 256 ^ 4 := by
    rw [appA.inodeId]
    decide
  have pending := parseJournal_pending placed old id appA.content_fits
  rw [← parseJournal_agree placed agree, commitJournalImage, pending, appA.inodeId]
  rfl

theorem contents_pending (body : layout.BodyOk image generation)
    (appA : KnownFile layout old 3 file)
    (agree : SectionAgree layout.journal (commitJournalImage layout old file) image)
    (vouched : (layout.parsedInodes image).appA.ChecksumOk image ∨
      readBytes image ((layout.parsedInodes image).appA.firstSector * vertexFsSectorSize)
        file.content.length = file.content) :
    vertexFsContents image = .ok (layout.contents image file.content) :=
  vertexFsContents_eq body
    (parseVertexFsImage_pending body (parseJournal_of_agree body.placed appA agree) vouched
      (appA.content_fits.trans (Nat.sub_le _ _)))

theorem commitJournalImage_outside (placed : layout.Placed) (appA : KnownFile layout old 3 file) :
    UnchangedOutside layout.journal old (commitJournalImage layout old file) :=
  journalPendingImage_outside placed old file.inodeId appA.content_fits

theorem commitExtentImage_outside (appA : KnownFile layout old 3 file) :
    UnchangedOutside file.extent (commitJournalImage layout old file)
      (commitExtentImage layout old file) :=
  fileExtentImage_outside appA.fits

theorem applyWrites_section {part : VertexFsSection} {next : Image}
    (unchanged : UnchangedOutside part image next) :
    applyWrites image (sectorWrites next part) = next := by
  rw [applyWrites_sectorWrites]
  apply copyRange_eq_of_agree
  intro address outside
  apply unchanged
  simp only [At, VertexFsSection.address] at *
  omega

theorem bodyAgree_committed (placed : layout.Placed)
    (committed : CleanImage layout (journalCleanImage layout image) generation') :
    BodyAgree layout (journalCleanImage layout image) image :=
  bodyAgree_of_unchanged committed.body fun address journal _ =>
    (journalCleanImage_outside placed image address journal).symm

section Known

variable (clean : CleanImage layout old generation) (appA : KnownFile layout old 3 file)
include clean appA

theorem contents_extent_stage (sectors : Nat) :
    vertexFsContents (copyRange (commitJournalImage layout old file)
        (commitExtentImage layout old file) (file.extent.address 0)
        (sectors * vertexFsSectorSize)) = .ok (layout.contents old file.content) := by
  have placed := clean.body.placed
  have extentEq : file.extent = (layout.parsedInodes old).appA.extent := appA.extent
  have journalApart := (metadata_apart_extent placed clean.body.appAExtent).2.2.2.2
  rw [← extentEq] at journalApart
  have journalStep := commitJournalImage_outside placed appA
  have extentStep := commitExtentImage_outside appA
  set mixed := copyRange (commitJournalImage layout old file)
    (commitExtentImage layout old file) (file.extent.address 0) (sectors * vertexFsSectorSize)
    with mixedDef
  have mixedStep : UnchangedOutside file.extent (commitJournalImage layout old file) mixed := by
    intro address outside
    simp only [mixedDef, copyRange]
    split_ifs
    · exact extentStep address outside
    · rfl
  have unchanged : UnchangedBody layout old mixed := by
    intro address journal extent
    rw [← extentEq] at extent
    exact (journalStep address journal).trans (mixedStep address extent)
  have agree := bodyAgree_of_unchanged clean.body unchanged
  have body := clean.body.agree agree
  have inodes := parsedInodes_agree placed agree.table clean.body.table
  rw [contents_agree clean.body agree]
  apply contents_pending body appA (mixedStep.agree journalApart)
  rw [← inodes]
  rcases Nat.eq_zero_or_pos sectors with none | some
  · left
    have untouched : mixed = commitJournalImage layout old file := by
      funext address
      simp [mixedDef, copyRange, none]
    have extentAgree : SectionAgree (layout.parsedInodes old).appA.extent old mixed := by
      rw [untouched, ← extentEq]
      exact journalStep.agree journalApart.symm
    have checksum := clean.checksum
    rwa [VertexFsInode.ChecksumOk, stored_agree clean.body.appAExtent extentAgree] at checksum
  · right
    have firstSector : (layout.parsedInodes old).appA.firstSector = file.firstSector :=
      (congrArg firstSector extentEq).symm
    rw [firstSector, VfsVertexFsFile.content_length]
    have small := appA.journalFits
    rw [← fileExtentImage_content (commitJournalImage layout old file) file]
    apply readBytes_congr
    intro address above below
    simp only [mixedDef, copyRange]
    rw [if_pos]
    · rfl
    · simp only [VfsVertexFsFile.extent, VertexFsSection.address, vertexFsSectorSize,
        vertexFsJournalPayloadOffset] at *
      omega

theorem knownMetadataImage_journal (checksum : Nat) :
    SectionAgree layout.journal (commitJournalImage layout old file)
      (knownMetadataImage layout old 3 file checksum) := by
  have placed := clean.body.placed
  have upper := clean.body.table.countUpper
  have inside := appA.entry.1
  have extentApart := (extent_apart_metadata clean appA.entry).1.symm
  rw [← appA.extent] at extentApart
  exact ((commitExtentImage_outside appA).agree extentApart).trans
    ((inodeRecordImage_outside placed (by omega)).agree (metadata_apart_journal placed).2.1.symm)

theorem cleanImage_committed
    (accepted : (parseVertexFsImage (knownCommittedImage layout old 3 file checksum)).isOk) :
    ∃ generation', CleanImage layout (knownCommittedImage layout old 3 file checksum)
      generation' := by
  have placed := clean.body.placed
  have superblock := (known_sections_apart clean appA checksum).1
  have format := (superblock_agree placed superblock).1
  rw [clean.body.format] at format
  exact cleanImage_of_isOk accepted format.symm (parseJournal_clean placed _)

theorem knownCommittedImage_contents (checksum : Nat) (content : Bytes) :
    layout.contents (knownCommittedImage layout old 3 file checksum) content =
      layout.contents old content := by
  have countLower := clean.body.table.countLower
  have base : vertexFsBaseInodeCount = 4 := rfl
  have readmeEntry : FileIndex layout old 1 := ⟨by omega, by decide, by decide⟩
  have readme := (knownCommittedImage_entry clean appA checksum readmeEntry.1).1
  rw [if_neg (by decide)] at readme
  symm
  apply contents_congr
  · exact readme.symm
  · simp only [VertexFsLayout.parsedInodes, knownCommittedImage_count clean appA]
    apply List.map_congr_left
    intro dynamicIndex inside
    rw [List.mem_range] at inside
    rw [(knownCommittedImage_entry clean appA checksum (by omega)).1, if_neg (by omega)]
  · exact (knownCommittedImage_stored_other clean appA checksum readmeEntry (by decide)).symm
  · intro inode member
    obtain ⟨dynamicIndex, inside, rfl⟩ := List.mem_map.mp member
    rw [List.mem_range] at inside
    exact (knownCommittedImage_stored_other clean appA checksum
      ⟨by omega, by omega, by omega⟩ (by omega)).symm

theorem crash_images (checksum count : Nat) (inside : count ≤ (commitWrites layout layout old file
      (knownMetadataImage layout old 3 file checksum)
      (sectorWrites (knownMetadataImage layout old 3 file checksum) layout.inodeTable)).length) :
    let left := applyWrites old ((commitWrites layout layout old file
      (knownMetadataImage layout old 3 file checksum)
      (sectorWrites (knownMetadataImage layout old 3 file checksum) layout.inodeTable)).take count)
    left = old ∨
      (∃ sectors, left = copyRange (commitJournalImage layout old file)
        (commitExtentImage layout old file) (file.extent.address 0)
        (sectors * vertexFsSectorSize)) ∨ left = knownMetadataImage layout old 3 file checksum ∨
      left = knownCommittedImage layout old 3 file checksum := by
  have placed := clean.body.placed
  have journalCount := placed.journalCount
  have tableCount := placed.tableCount
  have journalWritten : applyWrites old
      (sectorWrites (commitJournalImage layout old file) layout.journal) =
      commitJournalImage layout old file :=
    applyWrites_section (commitJournalImage_outside placed appA)
  have extentWritten : applyWrites (commitJournalImage layout old file)
      (sectorWrites (commitExtentImage layout old file) file.extent) =
      commitExtentImage layout old file :=
    applyWrites_section (commitExtentImage_outside appA)
  have upper := clean.body.table.countUpper
  have entry := appA.entry.1
  have metadataStep : UnchangedOutside layout.inodeTable (commitExtentImage layout old file)
      (knownMetadataImage layout old 3 file checksum) :=
    inodeRecordImage_outside placed (by omega)
  have extentEq : (⟨file.firstSector, file.sectorCount⟩ : VertexFsSection) = file.extent := rfl
  have extentCount : file.extent.sectorCount = file.sectorCount := rfl
  simp only [commitWrites, extentEq, List.length_append, sectorWrites_length,
    extentCount] at inside ⊢
  simp only [List.take_append, List.length_append, sectorWrites_length, extentCount]
  rcases Nat.lt_or_ge count 1 with none | some
  · left
    simp [show count = 0 by omega]
  rcases Nat.lt_or_ge (1 + file.sectorCount) count with metadata | extent
  · -- The journal and the whole extent are on the device.
    rw [List.take_of_length_le (by simp; omega), List.take_of_length_le (by simp; omega)]
    rcases Nat.lt_or_ge (1 + file.sectorCount + layout.inodeTable.sectorCount) count with last | table
    · right; right; right
      rw [List.take_of_length_le (by simp; omega), List.take_of_length_le (by simp; omega)]
      rw [applyWrites_append, applyWrites_append, applyWrites_append, journalWritten,
        extentWritten, applyWrites_section metadataStep,
        applyWrites_section (journalCleanImage_outside placed _), knownCommittedImage]
    · right; right; left
      rw [show count - (layout.journal.sectorCount + file.sectorCount +
        layout.inodeTable.sectorCount) = 0 by omega, List.take_zero, List.append_nil]
      rw [applyWrites_append, applyWrites_append, journalWritten, extentWritten,
        applyWrites_take_sectorWrites _ _ _ (by omega)]
      -- The first sector of the table holds everything that changes.
      apply copyRange_eq_of_agree
      intro address outside
      apply inodeRecordImage_outside_first (by decide)
      have one : 1 ≤ count - (layout.journal.sectorCount + file.sectorCount) := by omega
      simp only [At, VertexFsSection.address, byteCount, vertexFsSectorSize] at *
      omega
  · right; left
    refine ⟨count - 1, ?_⟩
    rw [List.take_of_length_le (by simp; omega)]
    rw [show count - (layout.journal.sectorCount + file.sectorCount) = 0 by omega,
      show count - (layout.journal.sectorCount + file.sectorCount +
        layout.inodeTable.sectorCount) = 0 by omega,
      List.take_zero, List.take_zero, List.append_nil, List.append_nil, applyWrites_append,
      journalWritten, journalCount, applyWrites_take_sectorWrites _ _ _ (by rw [extentCount]; omega)]

theorem contents_metadata_stage
    (committed : CleanImage layout (knownCommittedImage layout old 3 file checksum) generation') :
    vertexFsContents (knownMetadataImage layout old 3 file checksum) =
      .ok (layout.contents old file.content) := by
  have placed := clean.body.placed
  have agree := bodyAgree_committed placed committed
  have body := committed.body.agree agree
  have inodes := parsedInodes_agree placed agree.table committed.body.table
  have place := (knownCommittedImage_place clean appA checksum appA.entry.1).1
  have extentApart := (metadata_apart_extent placed committed.body.appAExtent).2.2.2.2.symm
  have extentAgree := ((journalCleanImage_outside placed
    (knownMetadataImage layout old 3 file checksum)).agree extentApart).symm
  rw [contents_pending body appA (knownMetadataImage_journal clean appA checksum),
    ← contents_agree committed.body agree, knownCommittedImage_contents clean appA]
  right
  have content := knownCommittedImage_content clean appA checksum
  have room : 0 + file.len ≤ (layout.parsedInodes
      (knownCommittedImage layout old 3 file checksum)).appA.extent.byteCount := by
    have sectors := (knownCommittedImage_place clean appA checksum appA.entry.1).2.1
    have extentSectors := congrArg sectorCount appA.extent
    have fits := appA.fits
    simp only [VfsVertexFsFile.extent, VertexFsInode.extent] at extentSectors
    simp only [VertexFsLayout.parsedInodes, VertexFsInode.extent, byteCount,
      sectors, ← extentSectors]
    omega
  have same := extentAgree.readBytes_eq room
  rw [← place] at content
  rw [← inodes, VfsVertexFsFile.content_length]
  simp only [VertexFsInode.extent, address, Nat.add_zero] at same
  exact same.symm.trans content

theorem contents_committed
    (committed : CleanImage layout (knownCommittedImage layout old 3 file checksum) generation') :
    vertexFsContents (knownCommittedImage layout old 3 file checksum) =
      .ok (layout.contents old file.content) := by
  have entry := (knownCommittedImage_entry clean appA checksum appA.entry.1).1
  rw [if_pos rfl] at entry
  have inode : (layout.parsedInodes (knownCommittedImage layout old 3 file checksum)).appA =
      { layout.readInode old 3 with size := file.len, checksum := checksum % 256 ^ 4 } := entry
  rw [committed.contents, knownCommittedImage_contents clean appA, inode]
  congr 2
  exact knownCommittedImage_content clean appA checksum

end Known

end Stages

section

variable {checksum total : Nat} {state next : VertexFsState} {contents : List (Nat × Bytes)}
  {metadataWrites : List VertexFsDeviceWrite} {found after : VertexFsLayout}

theorem crashConsistent_appA {boot : VertexFsBootFiles}
    (accepted : parseVertexFsImage state.image = .ok boot)
    (journalClean : boot.journalReplayed = false)
    (listed : vertexFsContents state.image = .ok contents) (fileOf : FileOf state.image file)
    (run : exec (commitVertexFsFileToImage file checksum) state = (.ok total, next))
    (inode : file.inodeId = vertexFsInodeAppA) :
    CrashConsistent state.image contents file next.recorded total := by
  obtain ⟨layout, generation, clean, -⟩ := cleanImage_of_parse accepted journalClean
  obtain ⟨found, after, metadata, metadataWrites, committed, rfl, rfl⟩ :=
    commitVertexFsFileToImage_ok run
  have countLower := clean.body.table.countLower
  have entry : FileIndex layout state.image 3 := ⟨countLower, by decide, by decide⟩
  obtain ⟨appA, rfl, rfl, rfl, rfl⟩ := committed_known clean fileOf entry inode committed
  rw [clean.contents] at listed
  cases listed
  obtain ⟨generation', cleanAfter⟩ := cleanImage_committed clean appA committed.accepted
  intro count inside
  rw [VertexFsState.during_recorded]
  -- Whatever is left holds the files of the old image, with one of two contents of `app/a`.
  suffices held : ∃ content,
      vertexFsContents (applyWrites state.image
        ((commitWrites after after state.image file
          (knownMetadataImage after state.image 3 file checksum)
          (sectorWrites (knownMetadataImage after state.image 3 file checksum)
            after.inodeTable)).take count)) = .ok (after.contents state.image content) ∧
      (content = (after.parsedInodes state.image).appA.stored state.image ∨
        content = file.content) by
    obtain ⟨content, contentsEq, which⟩ := held
    refine ⟨_, contentsEq, ?_, ?_⟩
    · intro inodeId other
      rw [inode] at other
      exact contents_lookup_other other _ _
    · rw [inode, contents_lookup_appA, contents_lookup_appA]
      rcases which with rfl | rfl
      · exact Or.inl rfl
      · exact Or.inr rfl
  rcases crash_images clean appA checksum count inside with
    untouched | ⟨sectors, extent⟩ | metadata | finished
  · rw [untouched]
    exact ⟨_, clean.contents, Or.inl rfl⟩
  · rw [extent]
    exact ⟨_, contents_extent_stage clean appA sectors, Or.inr rfl⟩
  · rw [metadata]
    exact ⟨_, contents_metadata_stage clean appA cleanAfter, Or.inr rfl⟩
  · rw [finished]
    exact ⟨_, contents_committed clean appA cleanAfter, Or.inr rfl⟩

theorem inodeId_lt_of_findInode {image : Image} {inodeId index : Nat} {indices : List Nat}
    (found : layout.findInode image inodeId indices = .ok (some index)) : inodeId < 256 ^ 4 := by
  induction indices with
  | nil => cases found
  | cons first rest ih =>
    simp only [VertexFsLayout.findInode] at found
    split_ifs at found with fits here
    · rw [← here]
      exact readLe_lt 4 image _
    · exact ih found

theorem Committed.inodeId_lt {metadata : Image}
    (committed : Committed file checksum state found after metadata metadataWrites) :
    file.inodeId < 256 ^ 4 := by
  cases committed.written with
  | existing index => exact inodeId_lt_of_findInode index
  | created absent fits =>
    have inode := fits.inode
    have placed := placed_of_layoutFromSuperblock committed.formatAfter
    have dynamicFit := placed.dynamicFit
    have dataEnd := placed.dataEnd
    unfold vertexFsDynamicIndexForInode at inode
    split_ifs at inode with low high
    simp only [vertexFsSectors, vertexFsDynamicInodeFirst] at *
    omega

theorem applyWrites_take_one {metadata : Image}
    (committed : Committed file checksum state found after metadata metadataWrites) :
    applyWrites state.image
        ((commitWrites found after state.image file metadata metadataWrites).take 1) =
      commitJournalImage found state.image file := by
  have placed := placed_of_layoutFromSuperblock committed.format
  have small : file.content.length ≤ vertexFsSectorSize - vertexFsJournalPayloadOffset := by
    rw [VfsVertexFsFile.content_length]
    exact committed.fits.2.2
  have firstWrite : (commitWrites found after state.image file metadata metadataWrites).take 1 =
      sectorWrites (commitJournalImage found state.image file) found.journal := by
    have length : (sectorWrites (commitJournalImage found state.image file)
        found.journal).length = 1 := by
      rw [sectorWrites_length, placed.journalCount]
    unfold commitWrites
    rw [List.append_assoc, List.append_assoc, List.take_append, length, Nat.sub_self,
      List.take_zero, List.append_nil, List.take_of_length_le (by omega)]
  rw [firstWrite]
  exact applyWrites_section (journalPendingImage_outside placed state.image file.inodeId small)

theorem not_crashConsistent_other
    (run : exec (commitVertexFsFileToImage file checksum) state = (.ok total, next))
    (other : file.inodeId ≠ vertexFsInodeAppA) :
    ¬CrashConsistent state.image contents file next.recorded total := by
  obtain ⟨found, after, metadata, metadataWrites, committed, rfl, rfl⟩ :=
    commitVertexFsFileToImage_ok run
  have placed := placed_of_layoutFromSuperblock committed.format
  have small : file.content.length ≤ vertexFsSectorSize - vertexFsJournalPayloadOffset := by
    rw [VfsVertexFsFile.content_length]
    exact committed.fits.2.2
  intro consistent
  have some : 1 ≤ (commitWrites found after state.image file metadata metadataWrites).length := by
    simp only [commitWrites, List.length_append, sectorWrites_length, placed.journalCount]
    omega
  obtain ⟨left, held, -⟩ := consistent 1 some
  rw [VertexFsState.during_recorded, applyWrites_take_one committed, vertexFsContents,
    outcome_bind_ok] at held
  obtain ⟨boot, accepted, -⟩ := held
  have superblock := (journalPendingImage_outside placed state.image file.inodeId small).agree
    (metadata_apart_journal placed).1
  have format := (superblock_agree placed superblock).1
  rw [committed.format] at format
  exact not_parseVertexFsImage_of_target format.symm
    (parseJournal_pending placed state.image committed.inodeId_lt small) other boot accepted

/-- A sync is crash consistent exactly when it syncs `app/a`. -/
theorem crashConsistent_iff_appA {contents : List (Nat × Bytes)} {boot : VertexFsBootFiles}
    (accepted : parseVertexFsImage state.image = .ok boot)
    (journalClean : boot.journalReplayed = false)
    (listed : vertexFsContents state.image = .ok contents) (fileOf : FileOf state.image file)
    (run : exec (commitVertexFsFileToImage file checksum) state = (.ok total, next)) :
    CrashConsistent state.image contents file next.recorded total ↔
      file.inodeId = vertexFsInodeAppA := by
  constructor
  · intro consistent
    by_contra other
    exact not_crashConsistent_other run other consistent
  · exact crashConsistent_appA accepted journalClean listed fileOf run

end

def createdState : VertexFsState :=
  { VertexFsState.empty with
    image := createImage vertexFsLayoutV1 (utf8 "gen:1")
    imageLoaded := true }

def editedFile (name : String) (inodeId parentInodeId firstSector : Nat) (content : Bytes) :
    VfsVertexFsFile :=
  { VfsVertexFsFile.empty with
    name
    inodeId
    parentInodeId
    firstSector
    sectorCount := 1
    bytes := writeBytes (fun _ => 0) 0 content
    len := content.length
    dirty := true }

def editedReadme : VfsVertexFsFile :=
  editedFile "readme" vertexFsInodeReadme vertexFsInodeRoot 7 (utf8 "new readme")

def editedAppA : VfsVertexFsFile :=
  editedFile "a" vertexFsInodeAppA vertexFsInodeAppDir 8 (utf8 "a=2")

theorem createdState_image : createdState.image = createImage vertexFsLayoutV1 (utf8 "gen:1") := by
  simp only [createdState]

theorem generation_fieldText : FieldText 64 (utf8 "gen:1") := by
  constructor <;> decide

theorem createdState_clean : CleanImage vertexFsLayoutV1 createdState.image (utf8 "gen:1") := by
  rw [createdState_image]
  exact (cleanImage_createImage (Or.inl rfl) generation_fieldText).1

theorem createdState_inodes :
    vertexFsLayoutV1.parsedInodes createdState.image = createdInodes vertexFsLayoutV1 := by
  rw [createdState_image]
  exact (cleanImage_createImage (Or.inl rfl) generation_fieldText).2.1

theorem editedReadme_known : KnownFile vertexFsLayoutV1 createdState.image 1 editedReadme := by
  have countLower := createdState_clean.body.table.countLower
  have base : vertexFsBaseInodeCount = 4 := rfl
  refine ⟨⟨by omega, by decide, by decide⟩, rfl, ?_, by decide, by decide⟩
  have inode := congrArg VertexFsParsedInodes.readme createdState_inodes
  change _ = VertexFsInode.extent (vertexFsLayoutV1.parsedInodes createdState.image).readme
  rw [inode]
  rfl

theorem editedAppA_known : KnownFile vertexFsLayoutV1 createdState.image 3 editedAppA := by
  have countLower := createdState_clean.body.table.countLower
  have base : vertexFsBaseInodeCount = 4 := rfl
  refine ⟨⟨by omega, by decide, by decide⟩, rfl, ?_, by decide, by decide⟩
  have inode := congrArg VertexFsParsedInodes.appA createdState_inodes
  change _ = VertexFsInode.extent (vertexFsLayoutV1.parsedInodes createdState.image).appA
  rw [inode]
  rfl

theorem KnownFile.fileOf {layout : VertexFsLayout} {image : Image} {generation : Bytes}
    {index : Nat} {file : VfsVertexFsFile} (clean : CleanImage layout image generation)
    (known : KnownFile layout image index file) : FileOf image file := by
  intro found place format lookup
  have inside := known.entry.1
  have foundEq : found = layout := by
    have := format.symm.trans clean.body.format
    injection this
  subst foundEq
  rw [inodeIndexById_eq clean.body.placed clean.body.table, known.inodeId,
    if_pos ⟨by omega, by omega⟩, Nat.add_sub_cancel] at lookup
  cases lookup
  exact ⟨congrArg firstSector known.extent, congrArg sectorCount known.extent⟩

/-- A sync of `app/a` on a created image survives every crash. -/
theorem crashConsistent_editedAppA :
    ∃ boot contents total next,
      parseVertexFsImage createdState.image = .ok boot ∧ boot.journalReplayed = false ∧
      vertexFsContents createdState.image = .ok contents ∧ FileOf createdState.image editedAppA ∧
      exec (commitVertexFsFileToImage editedAppA (vertexFsChecksum32 editedAppA.content))
        createdState = (.ok total, next) ∧
      CrashConsistent createdState.image contents editedAppA next.recorded total := by
  have clean := createdState_clean
  have accepted := parseVertexFsImage_clean clean.body clean.journal clean.checksum
  have run := commit_known_ok clean editedAppA_known rfl (by decide) (by decide)
  have fileOf := editedAppA_known.fileOf clean
  exact ⟨_, _, _, _, accepted, rfl, clean.contents, fileOf, run,
    (crashConsistent_iff_appA accepted rfl clean.contents fileOf run).mpr rfl⟩

/-- A crash after the first write of a sync of the readme leaves an image that the kernel
rejects. -/
theorem not_crashConsistent_editedReadme :
    ∃ boot contents total next,
      parseVertexFsImage createdState.image = .ok boot ∧ boot.journalReplayed = false ∧
      vertexFsContents createdState.image = .ok contents ∧ FileOf createdState.image editedReadme ∧
      exec (commitVertexFsFileToImage editedReadme (vertexFsChecksum32 editedReadme.content))
        createdState = (.ok total, next) ∧
      ¬CrashConsistent createdState.image contents editedReadme next.recorded total := by
  have clean := createdState_clean
  have accepted := parseVertexFsImage_clean clean.body clean.journal clean.checksum
  have run := commit_known_ok clean editedReadme_known rfl (by decide) (by decide)
  exact ⟨_, _, _, _, accepted, rfl, clean.contents, editedReadme_known.fileOf clean, run,
    not_crashConsistent_other run (by decide)⟩

end VertexOS
