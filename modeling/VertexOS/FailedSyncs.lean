import VertexOS.VertexFsCrash
import VertexOS.VertexFsPages
import VertexOS.VertexFsRuns

/-!
# Syncs after a failed one

A sync that ends early leaves the shadow image ahead of the device.  The next sync
sends only its own sectors.  It leaves an accepted device when those are all that
differ, and a rejected one when the contents of another file were lost.
-/

namespace VertexOS

open ByteStrings ByteImages FailingCalls VertexFsState

/-- A sync of the file sends every sector in which the device differs from the shadow
image. -/
def FsWorld.Covers (world : FsWorld) (backing : Nat) : Prop :=
  ∃ layout known, vertexFsLayoutFromSuperblock world.vertexfs.image = .ok layout ∧
    vertexFsImageHasInode world.vertexfs.image (world.vertexfs.files backing).inodeId =
      .ok known ∧
    AgreeOutside (syncSections layout (world.vertexfs.files backing) known) world.device
      world.vertexfs.image

variable {state : VertexFsState} {file : VfsVertexFsFile}

section

variable {start before after : FsWorld} {boot : VertexFsBootFiles} {backing : Nat}
  {homes : VertexFsHomes}

theorem FsWorld.Syncs.device_eq (holds : homes.Holds before.vertexfs)
    (syncs : before.Syncs backing after) (covers : before.Covers backing) :
    after.device = after.vertexfs.image := by
  obtain ⟨inData, metadata, metadataWrites, committed, image, device, -⟩ := syncs.committed holds
  obtain ⟨layout, known, format, lookup, agree⟩ := covers
  obtain rfl : layout = homes.layout := by
    have same := format.symm.trans holds.format
    injection same
  rw [device, image, committed.sent inData lookup agree]

/-- Whatever syncs failed before, a sync that sends all differences leaves a device that
boots. -/
theorem accepted_of_covers (boots : start.Boots boot) (reaches : start.Reaches before)
    (syncs : before.Syncs backing after) (covers : before.Covers backing) :
    (parseVertexFsImage after.device).isOk := by
  obtain ⟨homes, -, -, holds⟩ := boots.inPlace
  have holds := holds.reaches reaches
  obtain ⟨-, metadata, metadataWrites, committed, image, -⟩ := syncs.committed holds
  rw [syncs.device_eq holds covers, image]
  exact committed.accepted

end

variable {layout : VertexFsLayout} {generation : Bytes}

section

variable {image device : Image} {first second : VfsVertexFsFile}
  {firstIndex secondIndex firstChecksum secondChecksum : Nat}
  {metadataWrites : List VertexFsDeviceWrite}

theorem lookup_of_known {index : Nat} (clean : CleanImage layout image generation)
    (known : KnownFile layout image index file) :
    vertexFsImageHasInode image file.inodeId = .ok true := by
  have inside := known.entry.1
  refine (vertexFsImageHasInode_ok clean.body.format).mpr ⟨some index, ?_, rfl⟩
  rw [inodeIndexById_eq clean.body.placed clean.body.table, known.inodeId,
    if_pos ⟨by omega, by omega⟩, Nat.add_sub_cancel]

theorem KnownFile.inData {index : Nat} (clean : CleanImage layout image generation)
    (known : KnownFile layout image index file) : file.InData layout := by
  have extent := clean.filesOk.extent index known.entry
  have within : (layout.readInode image index).extent.Within layout.data :=
    ⟨extent.lower, extent.upper⟩
  rw [← known.extent] at within
  exact within

theorem Committed.device_agree {metadata : Image} {known : Bool} {checksum : Nat}
    {part : VertexFsSection}
    (committed : Committed file checksum state layout layout metadata metadataWrites)
    (inData : file.InData layout)
    (lookup : vertexFsImageHasInode state.image file.inodeId = .ok known)
    (apart : ∀ sent ∈ syncSections layout file known, part.Apart sent) :
    SectionAgree part device (applyWrites device
      (commitWrites layout layout state.image file metadata metadataWrites)) := by
  intro address inside
  exact (committed.sent_outside inData lookup
    fun sent isSent => (apart sent isSent).not_at inside).1.symm

theorem not_accepted_of_lost {metadata : Image} (clean : CleanImage layout image generation)
    (known : KnownFile layout image firstIndex first)
    (isChecksum : firstChecksum = vertexFsChecksum32 first.content)
    (shadow : state.image = knownCommittedImage layout image firstIndex first firstChecksum)
    (other : KnownFile layout state.image secondIndex second) (distinct : firstIndex ≠ secondIndex)
    (committed : Committed second secondChecksum state layout layout metadata metadataWrites)
    (lost : vertexFsChecksum32 (readBytes image
      ((layout.readInode image firstIndex).firstSector * vertexFsSectorSize) first.len) ≠
        firstChecksum) :
    ¬(parseVertexFsImage (applyWrites image
      (commitWrites layout layout state.image second metadata metadataWrites))).isOk := by
  intro accepted
  have placed := clean.body.placed
  have cleanShadow : CleanImage layout state.image generation :=
    shadow ▸ cleanImage_knownCommitted clean known isChecksum
  have lookup := lookup_of_known cleanShadow other
  have inData := other.inData cleanShadow
  obtain ⟨-, -, -, rfl, rfl⟩ := committed_known cleanShadow (other.fileOf cleanShadow) other.entry
    other.inodeId committed
  set left := applyWrites image (commitWrites layout layout state.image second
    (knownMetadataImage layout state.image secondIndex second secondChecksum)
    (sectorWrites (knownMetadataImage layout state.image secondIndex second secondChecksum)
      layout.inodeTable)) with isLeft
  have sent (part : VertexFsSection) (isPart : part ∈ syncSections layout second true) :
      SectionAgree part (knownCommittedImage layout state.image secondIndex second secondChecksum)
        left :=
    fun address inside => (committed.sent_inside inData lookup isPart inside).symm
  have table := sent layout.inodeTable (by simp [syncSections, metadataSections])
  have journal := sent layout.journal (by simp [syncSections])
  -- The device has the format of the image it started from.
  have superblock : SectionAgree vertexFsSuperblock image left := by
    refine committed.device_agree inData lookup ?_
    simp only [syncSections, metadataSections, if_true, List.forall_mem_cons]
    exact ⟨(metadata_apart_journal placed).1, (inData.apart placed).1, .inl placed.tableFirst.ge,
      fun _ none => absurd none List.not_mem_nil⟩
  have format := (superblock_agree placed superblock).1
  rw [clean.body.format] at format
  obtain ⟨generation', cleanLeft⟩ := cleanImage_of_isOk accepted format.symm
    ((parseJournal_agree placed journal).symm.trans (parseJournal_clean placed _))
  -- It has the new inode of the first file.
  have inside := known.entry.1
  have insideShadow : firstIndex < layout.inodeTableCount state.image := by
    rwa [shadow, knownCommittedImage_count clean known]
  have countLeft : layout.inodeTableCount left = layout.inodeTableCount state.image := by
    rw [← inodeTableCount_agree placed table, knownCommittedImage_count cleanShadow other]
  have upper := cleanShadow.body.table.countUpper
  have inode : layout.readInode left firstIndex = { layout.readInode image firstIndex with
        size := first.len, checksum := firstChecksum % 256 ^ 4 } := by
    rw [← (inode_agree placed table firstIndex (by omega)).1,
      (knownCommittedImage_entry cleanShadow other secondChecksum insideShadow).1,
      if_neg distinct, shadow, (knownCommittedImage_entry clean known firstChecksum inside).1,
      if_pos rfl]
  -- And the old content.
  have entry : FileIndex layout state.image firstIndex := ⟨insideShadow, known.entry.2⟩
  have content : SectionAgree (layout.readInode image firstIndex).extent image left := by
    have place := knownCommittedImage_place clean known firstChecksum inside
    rw [← shadow] at place
    have extent : (layout.readInode state.image firstIndex).extent =
        (layout.readInode image firstIndex).extent := by
      simp only [VertexFsInode.extent, place.1, place.2.1]
    refine committed.device_agree inData lookup ?_
    simp only [syncSections, metadataSections, if_true, List.forall_mem_cons]
    have apart := extent_apart_of_not_overlaps
      (cleanShadow.filesOk.apart firstIndex secondIndex entry other.entry distinct)
    obtain ⟨apartJournal, apartTable⟩ := extent_apart_metadata cleanShadow entry
    rw [extent] at apart apartJournal apartTable
    rw [← other.extent] at apart
    exact ⟨apartJournal, apart, apartTable, fun _ none => absurd none List.not_mem_nil⟩
  have checked := cleanLeft.filesOk.checksum firstIndex
    ⟨by rw [countLeft]; exact insideShadow, known.entry.2⟩
  have room : 0 + first.len ≤ (layout.readInode image firstIndex).extent.byteCount := by
    have fits := known.fits
    have sectors := congrArg VertexFsSection.sectorCount known.extent
    simp only [VfsVertexFsFile.extent, VertexFsInode.extent] at sectors
    simp only [VertexFsInode.extent, VertexFsSection.byteCount, ← sectors]
    omega
  have stored := content.readBytes_eq room
  simp only [VertexFsInode.extent, VertexFsSection.address, Nat.add_zero] at stored
  simp only [VertexFsInode.ChecksumOk, VertexFsInode.stored, inode, ← stored] at checked
  have small : firstChecksum < 256 ^ 4 := isChecksum ▸ Nat.mod_lt _ (by decide)
  rw [Nat.mod_eq_of_lt small] at checked
  exact lost checked

end

section

variable {device : Image} {index checksum address : Nat} {before started last broken : FsWorld}
  {backing : Nat}

theorem applyWrite_outside {image : Image} {part : VertexFsSection} {write : VertexFsDeviceWrite}
    (isWrite : write ∈ sectorWrites image part) (outside : ¬part.At address) :
    applyWrite device write address = device address := by
  obtain ⟨sector, inside, rfl⟩ := List.mem_map.mp isWrite
  rw [List.mem_range] at inside
  rw [applyWrite_sectorWrite, copyRange, if_neg]
  rintro ⟨lower, upper⟩
  apply outside
  simp only [VertexFsSection.At, VertexFsSection.address, VertexFsSection.byteCount,
    vertexFsSectorSize] at lower upper ⊢
  omega

theorem applyWrites_outside {writes : List VertexFsDeviceWrite}
    (each : ∀ write ∈ writes, ∀ device, applyWrite device write address = device address) :
    applyWrites device writes address = device address := by
  induction writes generalizing device with
  | nil => rfl
  | cons write rest ih =>
    rw [List.forall_mem_cons] at each
    exact (ih each.2).trans (each.1 device)

/-- However many writes of a sync of a known file are on the device, it has changed in the
sections of that sync only. -/
theorem applyWrites_take_outside (journal : ¬layout.journal.At address)
    (extent : ¬file.extent.At address) (table : ¬layout.inodeTable.At address)
    (image metadata : Image) (sent : Nat) :
    applyWrites device ((commitWrites layout layout image file metadata
      (sectorWrites metadata layout.inodeTable)).take sent) address = device address := by
  apply applyWrites_outside
  intro write isWrite device
  have isWrite := List.mem_of_mem_take isWrite
  simp only [commitWrites, List.mem_append] at isWrite
  rcases isWrite with ((isJournal | isExtent) | isTable) | isClean
  · exact applyWrite_outside isJournal journal
  · exact applyWrite_outside isExtent extent
  · exact applyWrite_outside isTable table
  · exact applyWrite_outside isClean journal

/-- Where the device was the shadow image, a sync of a known file that breaks off can be
tried again: the same file sends all that differs. -/
theorem FsWorld.covers_of_breaks (clean : CleanImage layout before.vertexfs.image generation)
    (synced : before.device = before.vertexfs.image)
    (known : KnownFile layout before.vertexfs.image index (before.vertexfs.files backing))
    (alone : before.waiters = []) (starts : before.Starts backing started)
    (proceeds : Relation.ReflTransGen FsWorld.Proceeds started last) (breaks : last.Breaks broken)
    (same : (broken.vertexfs.files backing).place = (before.vertexfs.files backing).place) :
    broken.Covers backing := by
  obtain ⟨inodeId, checksum, writeCount, prepared, run, underway⟩ := starts.underway alone proceeds
  obtain ⟨-, -, rfl, found, after, metadata, metadataWrites, committed, image, recorded, -⟩ :=
    prepareVertexFsSyncFile_journaled run
  obtain ⟨-, rfl, rfl, rfl, rfl⟩ := committed_known clean (known.fileOf clean) known.entry
    known.inodeId committed
  obtain ⟨shadow, sent, device⟩ := underway.breaks breaks
  have isShadow := shadow.trans image
  have cleanShadow : CleanImage after broken.vertexfs.image generation :=
    isShadow ▸ cleanImage_knownCommitted clean known rfl
  have inode : (broken.vertexfs.files backing).inodeId = (before.vertexfs.files backing).inodeId :=
    congrArg Prod.fst same
  have extent : (broken.vertexfs.files backing).extent = (before.vertexfs.files backing).extent :=
    congrArg Prod.snd same
  refine ⟨after, true, cleanShadow.body.format, ?_, ?_⟩
  · have inside := known.entry.1
    rw [← knownCommittedImage_count clean known
      (vertexFsChecksum32 (before.vertexfs.files backing).content)] at inside
    refine (vertexFsImageHasInode_ok cleanShadow.body.format).mpr ⟨some index, ?_, rfl⟩
    rw [inodeIndexById_eq cleanShadow.body.placed cleanShadow.body.table, inode, known.inodeId,
      if_pos ⟨by omega, isShadow ▸ by exact inside⟩, Nat.add_sub_cancel]
  · intro address outside
    simp only [syncSections, metadataSections, if_true, List.forall_mem_cons, extent] at outside
    obtain ⟨journal, extent, table, -⟩ := outside
    rw [device, recorded, applyWrites_take_outside journal extent table, synced, isShadow]
    exact knownCommittedImage_outside clean known _ journal extent table

end

def namedAppA (fs : VertexFsState) : VfsState :=
  { VfsState.empty with
    nodes := [some
      { id := ⟨Nat.succPNat 0⟩, name := .empty, parent := none, kind := .regularFile
        backing := .vertexFsFile 1, mountSource := vertexFsSource, metadataVersion := 0 }]
    vertexfs := fs }

theorem FsWorld.exists_broken {world : FsWorld} {backing inodeId checksum writeCount : Nat}
    {prepared : VertexFsState} (alone : world.waiters = [])
    (run : exec (prepareVertexFsSyncFile backing) world.vertexfs =
      (.ok (.journaled inodeId checksum writeCount), prepared)) :
    ∃ started, world.Starts backing started ∧ started.Breaks (world.withVertexFs prepared) := by
  obtain ⟨vfs, device, waiters⟩ := world
  obtain rfl : waiters = [] := alone
  refine ⟨_, .intro run (List.getElem?_eq_getElem (one_le_recorded run)), ?_⟩
  exact @Breaks.intro _ [] [] _ device prepared rfl (.inl rfl) (.inl rfl)

section Rejected

variable {image : Image} {boot : VertexFsBootFiles} {fs : VertexFsState}

theorem knownFile_of_place {index : Nat} {file : VfsVertexFsFile}
    (clean : CleanImage layout image generation) (entry : FileIndex layout image index)
    (place : file.place = (index + 1, (layout.readInode image index).extent))
    (small : file.len ≤ vertexFsSectorSize - vertexFsJournalPayloadOffset) :
    KnownFile layout image index file := by
  have extent : file.extent = (layout.readInode image index).extent := congrArg Prod.snd place
  have sectors : file.sectorCount = (layout.readInode image index).sectorCount :=
    congrArg VertexFsSection.sectorCount extent
  have nonempty := (clean.filesOk.extent index entry).nonempty
  refine ⟨entry, congrArg Prod.fst place, extent, ?_, small⟩
  simp only [vertexFsSectorSize, vertexFsJournalPayloadOffset] at small ⊢
  omega

theorem KnownFile.committed {index other : Nat} {file known : VfsVertexFsFile}
    (clean : CleanImage layout image generation) (isFile : KnownFile layout image index file)
    (isKnown : KnownFile layout image other known) (checksum : Nat) :
    KnownFile layout (knownCommittedImage layout image index file checksum) other known := by
  have inside := isKnown.entry.1
  have place := knownCommittedImage_place clean isFile checksum inside
  refine ⟨⟨?_, isKnown.entry.2⟩, isKnown.inodeId, ?_, isKnown.fits, isKnown.journalFits⟩
  · rwa [knownCommittedImage_count clean isFile]
  · rw [isKnown.extent]
    simp only [VertexFsInode.extent, place.1, place.2.1]

theorem sectorCount_of_known {index : Nat} {file : VfsVertexFsFile}
    (known : KnownFile layout image index file) :
    file.sectorCount = (layout.readInode image index).sectorCount :=
  congrArg VertexFsSection.sectorCount known.extent

section

variable (installed : booted image boot = .ok fs) (clean : CleanImage layout image generation)
  (isBoot : boot = layout.bootFiles image generation
    ((layout.parsedInodes image).appA.stored image) false)
include installed clean isBoot

theorem exists_edited (bytes : Bytes) (sameLength : bytes.length = boot.appA.payload.length)
    (nonempty : bytes ≠ [])
    (small : bytes.length ≤ vertexFsSectorSize - vertexFsJournalPayloadOffset) :
    ∃ (edits : VertexFsState) (slot : PageIndex),
      exec (writeVertexFsPageCache 0 1 0 bytes) fs = (.ok (bytes.length, bytes.length), edits) ∧
      edits.image = image ∧ edits.recorded = fs.recorded ∧ edits.imageLoaded = true ∧
      edits.fileCount = 2 ∧ edits.files 0 = fs.files 0 ∧ KnownFile layout image 3 (edits.files 1) ∧
      (edits.files 1).len = bytes.length ∧ (edits.files 1).content = bytes ∧
      edits.PageAt 1 slot ∧ (edits.pageCache slot).dirty = true ∧
      (edits.pageCache slot).pinned = false := by
  have table := bootTable_of_booted installed
  obtain ⟨place, -, oldLen⟩ := new_ok table.appA
  have unused (index : PageIndex) : (fs.pageCache index).valid = false := by
    rw [table.pageCache]
    rfl
  have paged : fs.Paged 0 :=
    paged_of_empty (fun backing => (files_of_booted installed backing).2) table.pageCache
  obtain ⟨slot, -, write⟩ := exec_write_of_absent bytes paged
    (table.fileCount.symm ▸ Nat.one_lt_two) (small.trans (by decide)) nonempty
    (fun index here => by simp [VertexFsState.PageAt, unused] at here)
    (fun index valid => by simp [unused] at valid) ⟨⟨0, by decide⟩, unused _⟩ (.inr unused)
  set edits := ((fs.updatePage slot fun _ => fs.freshPage 0 (fs.pageKey 1) 1 0).updatePage slot
    fun page => page.written 0 bytes).updateFile 1 fun file => file.written 0 bytes with isEdits
  have changed : edits.files 1 = (fs.files 1).written 0 bytes := by
    simp [isEdits, updateFile, updatePage]
  have page : edits.pageCache slot = (fs.freshPage 0 (fs.pageKey 1) 1 0).written 0 bytes := by
    simp [isEdits, updateFile, updatePage]
  have len : (edits.files 1).len = bytes.length := by
    rw [changed]
    change max (fs.files 1).len (0 + bytes.length) = _
    omega
  have countLower := clean.body.table.countLower
  have base : vertexFsBaseInodeCount = 4 := rfl
  refine ⟨edits, slot, write, table.image, rfl, table.loaded, table.fileCount, ?_, ?_, len, ?_, ?_,
    by rw [page]; rfl, by rw [page]; rfl⟩
  · simp [isEdits, updateFile, updatePage]
  · refine knownFile_of_place clean ⟨by omega, by decide, by decide⟩ ?_ (len ▸ small)
    rw [changed]
    refine place.trans ?_
    rw [isBoot]
    exact Prod.ext clean.body.appA_id rfl
  · rw [VfsVertexFsFile.content, len, changed]
    exact readBytes_writeBytes_self (fs.files 1).bytes 0 bytes
  · rw [VertexFsState.PageAt, page]
    exact ⟨rfl, rfl⟩

/-- A sync of `app/a` breaks off before its first sector is written.  The sync of the
readme then ends well, and the device does not boot. -/
theorem exists_rejected_after_break (bytes : Bytes)
    (readmeRoom : (layout.readInode image 1).sectorCount ≤ 14)
    (appARoom : (layout.readInode image 3).sectorCount ≤ 14)
    (tableRoom : layout.inodeTable.sectorCount ≤ 8)
    (readmeSmall : boot.readme.payload.length ≤ vertexFsSectorSize - vertexFsJournalPayloadOffset)
    (sameLength : bytes.length = boot.appA.payload.length) (nonempty : bytes ≠ [])
    (small : bytes.length ≤ vertexFsSectorSize - vertexFsJournalPayloadOffset)
    (differs : vertexFsChecksum32 bytes ≠ vertexFsChecksum32 boot.appA.payload) :
    ∃ edited started broken after : FsWorld,
      FsWorld.Operates ⟨namedAppA fs, image, []⟩ edited ∧ edited.Starts 1 started ∧
      started.Breaks broken ∧ broken.Syncs 0 after ∧ ¬(parseVertexFsImage after.device).isOk := by
  have table := bootTable_of_booted installed
  obtain ⟨readmePlace, -, readmeLen⟩ := new_ok table.readme
  obtain rfl : fs.image = image := table.image
  obtain ⟨edits, -, write, sameImage, recorded, isLoaded, twoFiles, unchanged, appA, len, content,
    -⟩ := exists_edited installed clean isBoot bytes sameLength nonempty small
  have operates :
      FsWorld.Operates ⟨namedAppA fs, fs.image, []⟩ ⟨namedAppA edits, fs.image, []⟩ := by
    have writes : fs.Edits 0 1 _ := .writes fs 0 bytes
    rw [write] at writes
    have effect : VfsEffect 0 True (namedAppA fs) (namedAppA edits) := .edits rfl writes
    exact .intro effect sameImage recorded
  -- Its sync is prepared in the shadow image and breaks off.
  have countLower := clean.body.table.countLower
  have base : vertexFsBaseInodeCount = 4 := rfl
  have inside : 1 < edits.fileCount := by omega
  obtain ⟨count, prepared, run, shadow, files, fileCount, loaded⟩ :=
    exists_prepared_known (sameImage.symm ▸ clean) (sameImage.symm ▸ appA) inside isLoaded
      (sectorCount_of_known appA ▸ appARoom) tableRoom
  rw [sameImage] at shadow
  obtain ⟨started, starts, breaks⟩ : ∃ started, FsWorld.Starts 1 ⟨namedAppA edits, fs.image, []⟩
      started ∧ started.Breaks ⟨namedAppA prepared, fs.image, []⟩ := FsWorld.exists_broken rfl run
  -- The readme is synced.
  have cleanShadow : CleanImage layout prepared.image generation :=
    shadow ▸ cleanImage_knownCommitted clean appA rfl
  have readmeOld : KnownFile layout fs.image 1 (prepared.files 0) := by
    refine knownFile_of_place clean ⟨by omega, by decide, by decide⟩ ?_ ?_
    · rw [files, unchanged, readmePlace, isBoot]
      exact Prod.ext clean.body.readme_id rfl
    · rw [files, unchanged, readmeLen]
      exact readmeSmall
  have readme : KnownFile layout prepared.image 1 (prepared.files 0) :=
    shadow ▸ appA.committed clean readmeOld _
  obtain ⟨_, _, second, -⟩ := exists_prepared_known cleanShadow readme
    (by rw [fileCount]; exact Nat.zero_lt_of_lt inside)
    (loaded.trans isLoaded) (sectorCount_of_known readmeOld ▸ readmeRoom) tableRoom
  obtain ⟨after, syncs⟩ : ∃ after, FsWorld.Syncs 0 ⟨namedAppA prepared, fs.image, []⟩ after :=
    FsWorld.exists_syncs rfl second
  refine ⟨_, started, _, after, operates, starts, breaks, syncs, ?_⟩
  have holds : (layout.homes fs.image clean.body).Holds
      (FsWorld.mk (namedAppA fs) fs.image []).vertexfs :=
    homes_holds_booted clean.body (isBoot ▸ installed)
  have holds := ((holds.step (.operates operates)).step (.starts starts)).step (.breaks breaks)
  obtain ⟨-, metadata, metadataWrites, committed, -, device, -⟩ := syncs.committed holds
  rw [device]
  refine not_accepted_of_lost clean appA rfl shadow readme (by decide) committed ?_
  have stored : boot.appA.payload = (layout.readInode fs.image 3).stored fs.image :=
    congrArg (fun boot => boot.appA.payload) isBoot
  have size : boot.appA.payload.length = (layout.readInode fs.image 3).size := by
    rw [stored, VertexFsInode.stored, readBytes_length]
  rw [len, content, sameLength, size]
  rw [stored] at differs
  exact differs.symm

theorem exists_retried (appARoom : (layout.readInode image 3).sectorCount ≤ 14)
    (tableRoom : layout.inodeTable.sectorCount ≤ 8)
    (small : boot.appA.payload.length ≤ vertexFsSectorSize - vertexFsJournalPayloadOffset) :
    ∃ before after : FsWorld, FsWorld.Reaches ⟨namedAppA fs, image, []⟩ before ∧
      before.Syncs 1 after ∧ before.Covers 1 := by
  have table := bootTable_of_booted installed
  obtain ⟨place, -, len⟩ := new_ok table.appA
  obtain rfl : fs.image = image := table.image
  have countLower := clean.body.table.countLower
  have inside : 1 < fs.fileCount := table.fileCount.symm ▸ Nat.one_lt_two
  have appA : KnownFile layout fs.image 3 (fs.files 1) := by
    refine knownFile_of_place clean ⟨countLower, by decide, by decide⟩ ?_ (len ▸ small)
    rw [place, isBoot]
    exact Prod.ext clean.body.appA_id rfl
  have room : (fs.files 1).sectorCount ≤ 14 := sectorCount_of_known appA ▸ appARoom
  obtain ⟨count, prepared, run, shadow, files, fileCount, loaded⟩ :=
    exists_prepared_known clean appA inside table.loaded room tableRoom
  obtain ⟨started, starts, breaks⟩ : ∃ started, FsWorld.Starts 1 ⟨namedAppA fs, fs.image, []⟩
      started ∧ started.Breaks ⟨namedAppA prepared, fs.image, []⟩ := FsWorld.exists_broken rfl run
  have covers := FsWorld.covers_of_breaks (by exact clean) rfl (by exact appA) rfl starts .refl breaks
    (by exact congrArg (fun files => (files 1).place) files)
  have again : KnownFile layout prepared.image 3 (prepared.files 1) := by
    rw [shadow, files]
    exact appA.committed clean appA _
  obtain ⟨_, _, second, -⟩ := exists_prepared_known
    (by rw [shadow]; exact cleanImage_knownCommitted clean appA rfl) again (fileCount.symm ▸ inside)
    (loaded.trans table.loaded) (files.symm ▸ room) tableRoom
  obtain ⟨after, syncs⟩ : ∃ after, FsWorld.Syncs 1 ⟨namedAppA prepared, fs.image, []⟩ after :=
    FsWorld.exists_syncs rfl second
  exact ⟨_, after, .head (.starts starts) (.single (.breaks breaks)), syncs, covers⟩

end

end Rejected

def createdBoot : VertexFsBootFiles := createdFiles vertexFsLayoutV1 (utf8 "gen:1")

theorem createdBoot_accepted : parseVertexFsImage createdState.image = .ok createdBoot := by
  rw [createdState_image]
  exact parseVertexFsImage_createImage (.inl rfl) generation_fieldText

theorem exists_booted_created (image : Image) : ∃ fs, booted image createdBoot = .ok fs := by
  have accepted : (booted image createdBoot).isOk = true := rfl
  cases installed : booted image createdBoot with
  | ok fs => exact ⟨fs, rfl⟩
  | error reason =>
    rw [installed] at accepted
    cases accepted

theorem boots_namedAppA {image : Image} {boot : VertexFsBootFiles} {fs : VertexFsState}
    (accepted : parseVertexFsImage image = .ok boot) (installed : booted image boot = .ok fs) :
    FsWorld.Boots ⟨namedAppA fs, image, []⟩ boot :=
  ⟨accepted, installed, rfl⟩

theorem createdBoot_eq : createdBoot = vertexFsLayoutV1.bootFiles createdState.image (utf8 "gen:1")
    ((vertexFsLayoutV1.parsedInodes createdState.image).appA.stored createdState.image) false := by
  have clean := createdState_clean
  have accepted := parseVertexFsImage_clean clean.body clean.journal clean.checksum
  exact Except.ok.inj (createdBoot_accepted.symm.trans accepted)

theorem created_sectorCounts :
    (vertexFsLayoutV1.readInode createdState.image 1).sectorCount = 1 ∧
      (vertexFsLayoutV1.readInode createdState.image 3).sectorCount = 1 := by
  have inodes := createdState_inodes
  exact ⟨congrArg (fun inodes => inodes.readme.sectorCount) inodes,
    congrArg (fun inodes => inodes.appA.sectorCount) inodes⟩

/-- The program writes another digit to `app/a`. -/
theorem exists_rejected_created :
    ∃ (start edited started broken after : FsWorld) (boot : VertexFsBootFiles),
      start.Boots boot ∧ start.Operates edited ∧ edited.Starts 1 started ∧
      started.Breaks broken ∧ broken.Syncs 0 after ∧ ¬(parseVertexFsImage after.device).isOk := by
  obtain ⟨fs, installed⟩ := exists_booted_created createdState.image
  obtain ⟨readmeCount, appACount⟩ := created_sectorCounts
  obtain ⟨edited, started, broken, after, run⟩ :=
    exists_rejected_after_break installed createdState_clean createdBoot_eq
      (utf8 "vertexfs:a=2\n") (by omega) (by omega) (by decide) (by decide) (by decide) (by decide)
      (by decide) (by decide)
  exact ⟨_, edited, started, broken, after, createdBoot,
    boots_namedAppA createdBoot_accepted installed, run⟩

/-- A sync of `app/a` that is tried again leaves a device that boots. -/
theorem accepted_of_covers_retried :
    ∃ (start before after : FsWorld) (boot : VertexFsBootFiles),
      start.Boots boot ∧ start.Reaches before ∧ before.Syncs 1 after ∧ before.Covers 1 ∧
      (parseVertexFsImage after.device).isOk := by
  obtain ⟨fs, installed⟩ := exists_booted_created createdState.image
  have boots := boots_namedAppA createdBoot_accepted installed
  have appACount := created_sectorCounts.2
  obtain ⟨before, after, reaches, syncs, covers⟩ :=
    exists_retried installed createdState_clean createdBoot_eq (by omega) (by decide) (by decide)
  exact ⟨_, before, after, createdBoot, boots, reaches, syncs, covers,
    accepted_of_covers boots reaches syncs covers⟩

end VertexOS
