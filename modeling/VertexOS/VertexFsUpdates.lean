import VertexOS.VertexFsSectors

/-!
# What the image writers change

Each writer changes its own section and keeps its checksum valid.
-/

namespace VertexOS

open ByteStrings ByteImages FailingCalls VertexFsLayout VertexFsSection

def UnchangedOutside (part : VertexFsSection) (image other : Image) : Prop :=
  ∀ address, ¬part.At address → image address = other address

def VertexFsSection.Apart (part other : VertexFsSection) : Prop :=
  part.firstSector + part.sectorCount ≤ other.firstSector ∨
    other.firstSector + other.sectorCount ≤ part.firstSector

theorem VertexFsSection.Apart.not_at {part other : VertexFsSection} (apart : part.Apart other)
    {address : Nat} (inside : part.At address) : ¬other.At address := by
  simp only [Apart, At, VertexFsSection.address, byteCount, vertexFsSectorSize] at *
  omega

theorem UnchangedOutside.agree {part other : VertexFsSection} {image next : Image}
    (unchanged : UnchangedOutside part image next) (apart : other.Apart part) :
    SectionAgree other image next :=
  fun address inside => unchanged address (apart.not_at inside)

variable {layout : VertexFsLayout} {image : Image} {part : VertexFsSection}

section

variable {middle next : Image}

theorem UnchangedOutside.trans (first : UnchangedOutside part image middle)
    (second : UnchangedOutside part middle next) : UnchangedOutside part image next :=
  fun address outside => (first address outside).trans (second address outside)

theorem unchangedOutside_writeBytes {offset : Nat} {bytes : Bytes}
    (inside : offset + bytes.length ≤ part.byteCount) :
    UnchangedOutside part image (writeBytes image (part.address offset) bytes) := by
  intro address outside
  refine (writeBytes_outside ?_).symm
  simp only [At, VertexFsSection.address] at *
  omega

theorem unchangedOutside_writeLe {offset width value : Nat}
    (inside : offset + width ≤ part.byteCount) :
    UnchangedOutside part image (writeLe width image (part.address offset) value) :=
  unchangedOutside_writeBytes (by simpa using inside)

theorem unchangedOutside_clearBytes {length : Nat} (inside : length ≤ part.byteCount) :
    UnchangedOutside part image (clearBytes image (part.address 0) length) := by
  intro address outside
  refine (clearBytes_outside ?_).symm
  simp only [At, VertexFsSection.address] at *
  omega

end

section

theorem writeVertexFsSectorChecksum_eq : writeVertexFsSectorChecksum image part =
    writeLe 4 image (part.address vertexFsChecksumOffset) (vertexFsSectionChecksum image part) :=
  writeLe_writeLe_same

theorem vertexFsSectionChecksum_lt (image : Image) (part : VertexFsSection) :
    vertexFsSectionChecksum image part < 256 ^ 4 :=
  Nat.mod_lt _ (by decide)

theorem checksumValid_writeVertexFsSectorChecksum :
    vertexFsChecksumValid (writeVertexFsSectorChecksum image part) part := by
  rw [writeVertexFsSectorChecksum_eq]
  unfold vertexFsChecksumValid
  rw [readLe_writeLe_self _ _ (vertexFsSectionChecksum_lt image part)]
  simp only [vertexFsSectionChecksum, writeLe_writeLe_same, decide_true]

theorem writeVertexFsSectorChecksum_outside (nonempty : 1 ≤ part.sectorCount) :
    UnchangedOutside part image (writeVertexFsSectorChecksum image part) := by
  rw [writeVertexFsSectorChecksum_eq]
  apply unchangedOutside_writeLe
  simp only [byteCount, vertexFsSectorSize, vertexFsChecksumOffset]
  omega

theorem readLe_writeVertexFsSectorChecksum {width offset : Nat}
    (apart : offset + width ≤ 20 ∨ 24 ≤ offset) :
    readLe width (writeVertexFsSectorChecksum image part) (part.address offset) =
      readLe width image (part.address offset) := by
  rw [writeVertexFsSectorChecksum_eq, readLe_writeLe_apart]
  simp only [address, vertexFsChecksumOffset]
  omega

theorem readBytes_writeVertexFsSectorChecksum {offset length : Nat}
    (apart : offset + length ≤ 20 ∨ 24 ≤ offset) :
    readBytes (writeVertexFsSectorChecksum image part) (part.address offset) length =
      readBytes image (part.address offset) length := by
  rw [writeVertexFsSectorChecksum_eq, readBytes_writeLe_apart]
  simp only [address, vertexFsChecksumOffset]
  omega

end

section Journal

variable {inodeId : Nat} {payload : Bytes}

theorem readLe_field_apart {width offset other start value : Nat}
    (apart : offset + width ≤ start ∨ start + other ≤ offset) :
    readLe width (writeLe other image (part.address start) value) (part.address offset) =
      readLe width image (part.address offset) := by
  apply readLe_writeLe_apart
  simp only [address]
  omega

theorem readBytes_field_apart {offset length other start value : Nat}
    (apart : offset + length ≤ start ∨ start + other ≤ offset) :
    readBytes (writeLe other image (part.address start) value) (part.address offset) length =
      readBytes image (part.address offset) length := by
  apply readBytes_writeLe_apart
  simp only [address]
  omega

theorem readLe_payload_apart {width offset start : Nat} {bytes : Bytes}
    (apart : offset + width ≤ start ∨ start + bytes.length ≤ offset) :
    readLe width (writeBytes image (part.address start) bytes) (part.address offset) =
      readLe width image (part.address offset) := by
  apply readLe_writeBytes_apart
  simp only [address]
  omega

theorem readBytes_payload_apart {offset length start : Nat} {bytes : Bytes}
    (apart : offset + length ≤ start ∨ start + bytes.length ≤ offset) :
    readBytes (writeBytes image (part.address start) bytes) (part.address offset) length =
      readBytes image (part.address offset) length := by
  apply readBytes_writeBytes_apart
  simp only [address]
  omega

structure PendingFields (layout : VertexFsLayout) (image : Image) (inodeId : Nat)
    (payload : Bytes) : Prop where
  magic : readBytes image (layout.journal.address 0) layout.journalMagic.length =
    layout.journalMagic
  version : readLe 2 image (layout.journal.address 16) = layout.version
  state : readLe 2 image (layout.journal.address 18) = vertexFsJournalStatePending
  target : readLe 4 image (layout.journal.address 24) = inodeId
  length : readLe 4 image (layout.journal.address 28) = payload.length
  checksum : readLe 4 image (layout.journal.address 32) = vertexFsChecksum32 payload
  sequence : layout.format = .v2 → readLe 8 image (layout.journal.address 40) = 1
  replayTarget : layout.format = .v2 → readLe 4 image (layout.journal.address 48) = inodeId
  replayLength : layout.format = .v2 →
    readLe 4 image (layout.journal.address 52) = payload.length
  replayChecksum : layout.format = .v2 →
    readLe 4 image (layout.journal.address 56) = vertexFsChecksum32 payload
  payload : readBytes image (layout.journal.address vertexFsJournalPayloadOffset)
    payload.length = payload

theorem parseJournal_of_fields {journal : Image}
    (fields : PendingFields layout journal inodeId payload)
    (valid : vertexFsChecksumValid journal layout.journal)
    (payloadFits : payload.length ≤ vertexFsSectorSize - vertexFsJournalPayloadOffset) :
    layout.parseJournal journal = .ok (some ⟨inodeId, payload⟩) := by
  unfold parseJournal
  have room : vertexFsJournalPayloadOffset + payload.length ≤ vertexFsSectorSize := by
    simp only [vertexFsSectorSize, vertexFsJournalPayloadOffset] at payloadFits ⊢
    omega
  have pending : ¬vertexFsJournalStatePending = vertexFsJournalStateClean := by decide
  simp only [outcome_bind_ok, vertexFsCheck_ok, exists_const, fields.state, fields.target,
    fields.length, fields.checksum, fields.payload, fields.version, if_neg pending]
  refine ⟨by simp [vertexFsMagicMatches, fields.magic], ⟨trivial, valid⟩, trivial, ?_, room,
    trivial, rfl⟩
  intro format
  refine ⟨fields.replayTarget format, fields.replayLength format, fields.replayChecksum format, ?_⟩
  rw [fields.sequence format]
  decide

variable (placed : layout.Placed) (image : Image)
include placed

theorem journalHeader_fields {state : Nat} (stateFits : state < 256 ^ 2) :
    readBytes (journalHeader layout image state) (layout.journal.address 0)
        layout.journalMagic.length = layout.journalMagic ∧
      readLe 2 (journalHeader layout image state) (layout.journal.address 16) = layout.version ∧
      readLe 2 (journalHeader layout image state) (layout.journal.address 18) = state := by
  have magic := placed.journalMagic
  unfold journalHeader
  refine ⟨?_, ?_, ?_⟩
  · rw [readBytes_field_apart (by omega), readBytes_field_apart (by omega),
      readBytes_writeBytes_self]
  · rw [readLe_field_apart (by omega), readLe_writeLe_self _ _ placed.versionFit]
  · rw [readLe_writeLe_self _ _ stateFits]

theorem parseJournal_clean : layout.parseJournal (journalCleanImage layout image) = .ok none := by
  have magicLength := placed.journalMagic
  obtain ⟨magic, version, state⟩ := journalHeader_fields placed image
    (show vertexFsJournalStateClean < 256 ^ 2 by decide)
  unfold parseJournal journalCleanImage
  simp only [outcome_bind_ok, vertexFsCheck_ok, exists_const]
  refine ⟨?_, ⟨?_, checksumValid_writeVertexFsSectorChecksum⟩, ?_⟩
  · rw [vertexFsMagicMatches, readBytes_writeVertexFsSectorChecksum (by omega), magic]
    simp
  · rw [readLe_writeVertexFsSectorChecksum (by omega), version]
  · rw [readLe_writeVertexFsSectorChecksum (by omega), state]
    rfl

theorem journalPendingImage_fields (idFits : inodeId < 256 ^ 4)
    (payloadFits : payload.length ≤ vertexFsSectorSize - vertexFsJournalPayloadOffset) :
    PendingFields layout (journalPendingImage layout image inodeId payload) inodeId payload := by
  have magicLength := placed.journalMagic
  have lengthFits : payload.length < 256 ^ 4 := by
    simp only [vertexFsSectorSize, vertexFsJournalPayloadOffset] at payloadFits
    omega
  have checksumFits : vertexFsChecksum32 payload < 256 ^ 4 := Nat.mod_lt _ (by decide)
  have oneFits : 1 < 256 ^ 8 := by decide
  obtain ⟨magic, version, state⟩ := journalHeader_fields placed image
    (show vertexFsJournalStatePending < 256 ^ 2 by decide)
  unfold journalPendingImage
  cases format : layout.format with
  | v1 =>
    constructor <;>
    simp (disch := omega) only [readLe_writeVertexFsSectorChecksum, vertexFsJournalPayloadOffset,
      readBytes_writeVertexFsSectorChecksum, readLe_field_apart, readBytes_field_apart,
      readLe_payload_apart, readBytes_payload_apart, readLe_writeLe_self,
      readBytes_writeBytes_self, magic, version, state]
    all_goals simp [format]
  | v2 =>
    constructor <;>
    simp (disch := omega) only [readLe_writeVertexFsSectorChecksum, vertexFsJournalPayloadOffset,
      readBytes_writeVertexFsSectorChecksum, readLe_field_apart, readBytes_field_apart,
      readLe_payload_apart, readBytes_payload_apart, readLe_writeLe_self,
      readBytes_writeBytes_self, magic, version, state, implies_true]

theorem parseJournal_pending (idFits : inodeId < 256 ^ 4)
    (payloadFits : payload.length ≤ vertexFsSectorSize - vertexFsJournalPayloadOffset) :
    layout.parseJournal (journalPendingImage layout image inodeId payload) =
      .ok (some ⟨inodeId, payload⟩) :=
  parseJournal_of_fields (journalPendingImage_fields placed image idFits payloadFits)
    checksumValid_writeVertexFsSectorChecksum payloadFits

theorem journalHeader_outside (state : Nat) :
    UnchangedOutside layout.journal image (journalHeader layout image state) := by
  have magicLength := placed.journalMagic
  have size : layout.journal.byteCount = 512 := by
    simp [byteCount, placed.journalCount, vertexFsSectorSize]
  unfold journalHeader
  refine .trans (.trans (.trans (unchangedOutside_clearBytes ?_) (unchangedOutside_writeBytes ?_))
    (unchangedOutside_writeLe ?_)) (unchangedOutside_writeLe ?_)
  · rw [size, vertexFsSectorSize]
  all_goals omega

theorem journalCleanImage_outside :
    UnchangedOutside layout.journal image (journalCleanImage layout image) :=
  (journalHeader_outside placed image _).trans
    (writeVertexFsSectorChecksum_outside (by rw [placed.journalCount]))

theorem journalPendingImage_outside (inodeId : Nat)
    (payloadFits : payload.length ≤ vertexFsSectorSize - vertexFsJournalPayloadOffset) :
    UnchangedOutside layout.journal image (journalPendingImage layout image inodeId payload) := by
  have size : layout.journal.byteCount = 512 := by
    simp [byteCount, placed.journalCount, vertexFsSectorSize]
  simp only [vertexFsSectorSize, vertexFsJournalPayloadOffset] at payloadFits
  have field : ∀ {image : Image} (width offset value : Nat), offset + width ≤ 64 →
      UnchangedOutside layout.journal image
        (writeLe width image (layout.journal.address offset) value) :=
    fun width offset value inside => unchangedOutside_writeLe (by omega)
  have payloadField : ∀ {image : Image}, UnchangedOutside layout.journal image
      (writeBytes image (layout.journal.address vertexFsJournalPayloadOffset) payload) :=
    unchangedOutside_writeBytes (by simp only [vertexFsJournalPayloadOffset]; omega)
  have base := (((journalHeader_outside placed image vertexFsJournalStatePending).trans
    (field 4 24 inodeId (by omega))).trans (field 4 28 payload.length (by omega))).trans
    (field 4 32 (vertexFsChecksum32 payload) (by omega))
  refine .trans ?_ (writeVertexFsSectorChecksum_outside (by rw [placed.journalCount]))
  refine .trans ?_ payloadField
  cases layout.format with
  | v1 => exact base
  | v2 =>
    exact (((base.trans (field 8 40 _ (by omega))).trans (field 4 48 _ (by omega))).trans
      (field 4 52 _ (by omega))).trans (field 4 56 _ (by omega))

end Journal

variable {file : VfsVertexFsFile}

section

def VfsVertexFsFile.extent (file : VfsVertexFsFile) : VertexFsSection :=
  ⟨file.firstSector, file.sectorCount⟩

@[simp]
theorem VfsVertexFsFile.content_length (file : VfsVertexFsFile) :
    file.content.length = file.len := by
  simp [VfsVertexFsFile.content]

theorem fileExtentImage_outside (fits : file.len ≤ file.sectorCount * vertexFsSectorSize) :
    UnchangedOutside file.extent image (fileExtentImage image file) := by
  have start : file.firstSector * vertexFsSectorSize = file.extent.address 0 := by
    simp [VfsVertexFsFile.extent, address]
  unfold fileExtentImage
  rw [start]
  refine .trans (unchangedOutside_clearBytes (Nat.le_refl _)) (unchangedOutside_writeBytes ?_)
  simpa [VfsVertexFsFile.extent, byteCount] using fits

theorem fileExtentImage_content (image : Image) (file : VfsVertexFsFile) :
    readBytes (fileExtentImage image file) (file.firstSector * vertexFsSectorSize) file.len =
      file.content := by
  have stored := readBytes_writeBytes_self (clearBytes image (file.firstSector * vertexFsSectorSize)
      (file.sectorCount * vertexFsSectorSize))
    (file.firstSector * vertexFsSectorSize) file.content
  rwa [VfsVertexFsFile.content_length] at stored

end

section

variable {index checksum : Nat}

theorem inodeRecordImage_eq : inodeRecordImage layout image index file checksum =
    writeVertexFsSectorChecksum
      (writeLe 4 (writeLe 8 image (layout.inodeTable.address (32 + index * 64 + 8)) file.len)
        (layout.inodeTable.address (32 + index * 64 + 28)) checksum) layout.inodeTable := by
  simp only [inodeRecordImage, inodeOffset_add]

theorem readLe_inodeRecordImage {width offset : Nat} (behind : offset + width ≤ 20 ∨ 24 ≤ offset)
    (size : offset + width ≤ 32 + index * 64 + 8 ∨ 32 + index * 64 + 16 ≤ offset)
    (sum : offset + width ≤ 32 + index * 64 + 28 ∨ 32 + index * 64 + 32 ≤ offset) :
    readLe width (inodeRecordImage layout image index file checksum)
        (layout.inodeTable.address offset) =
      readLe width image (layout.inodeTable.address offset) := by
  rw [inodeRecordImage_eq, readLe_writeVertexFsSectorChecksum behind,
    readLe_field_apart (by omega), readLe_field_apart (by omega)]

theorem readBytes_inodeRecordImage {offset length : Nat}
    (behind : offset + length ≤ 20 ∨ 24 ≤ offset)
    (size : offset + length ≤ 32 + index * 64 + 8 ∨ 32 + index * 64 + 16 ≤ offset)
    (sum : offset + length ≤ 32 + index * 64 + 28 ∨ 32 + index * 64 + 32 ≤ offset) :
    readBytes (inodeRecordImage layout image index file checksum)
        (layout.inodeTable.address offset) length =
      readBytes image (layout.inodeTable.address offset) length := by
  rw [inodeRecordImage_eq, readBytes_writeVertexFsSectorChecksum behind,
    readBytes_field_apart (by omega), readBytes_field_apart (by omega)]

theorem readInode_inodeRecordImage_other {other : Nat} (distinct : other ≠ index) :
    layout.readInode (inodeRecordImage layout image index file checksum) other =
      layout.readInode image other := by
  simp only [readInode, inodeOffset_add]
  rw [inodeOffset_eq]
  congr 1 <;> exact readLe_inodeRecordImage (by omega) (by omega) (by omega)

theorem readInode_inodeRecordImage_self (lenFits : file.len < 256 ^ 8) :
    layout.readInode (inodeRecordImage layout image index file checksum) index =
      { layout.readInode image index with size := file.len, checksum := checksum % 256 ^ 4 } := by
  simp only [readInode, inodeOffset_add]
  rw [inodeOffset_eq]
  congr 1
  · exact readLe_inodeRecordImage (by omega) (by omega) (by omega)
  · exact readLe_inodeRecordImage (by omega) (by omega) (by omega)
  · rw [inodeRecordImage_eq, readLe_writeVertexFsSectorChecksum (by omega),
      readLe_field_apart (by omega), readLe_writeLe_self _ _ lenFits]
  · exact readLe_inodeRecordImage (by omega) (by omega) (by omega)
  · exact readLe_inodeRecordImage (by omega) (by omega) (by omega)
  · rw [inodeRecordImage_eq, readLe_writeVertexFsSectorChecksum (by omega),
      readLe_writeLe_mod]
  · exact readLe_inodeRecordImage (by omega) (by omega) (by omega)

theorem sameEntry_inodeRecordImage (layout : VertexFsLayout) (image : Image)
    (index : Nat) (file : VfsVertexFsFile) (checksum other : Nat) :
    SameEntry layout image (inodeRecordImage layout image index file checksum) other := by
  have number : ∀ width offset, offset + width ≤ 64 →
      offset + width ≤ 8 ∨ (16 ≤ offset ∧ offset + width ≤ 28) ∨ 32 ≤ offset →
      readLe width (inodeRecordImage layout image index file checksum)
          (layout.inodeTable.address (32 + other * 64 + offset)) =
        readLe width image (layout.inodeTable.address (32 + other * 64 + offset)) := by
    intro width offset inside apart
    exact readLe_inodeRecordImage (by omega) (by omega) (by omega)
  constructor
  all_goals simp only [readInode, inodeNameField, inodeReservedZero, inodeOffset_add]
  · rw [inodeOffset_eq]
    exact number 4 0 (by omega) (by omega)
  · exact number 2 4 (by omega) (by omega)
  · exact number 8 16 (by omega) (by omega)
  · exact number 4 24 (by omega) (by omega)
  · exact number 4 32 (by omega) (by omega)
  · apply readBytes_inodeRecordImage <;> simp only [vertexFsInodeNameBytes] <;> omega
  · rw [number 2 6 (by omega) (by omega)]

theorem inodeTableCount_inodeRecordImage :
    layout.inodeTableCount (inodeRecordImage layout image index file checksum) =
      layout.inodeTableCount image :=
  readLe_inodeRecordImage (by omega) (by omega) (by omega)

theorem inodeRecordImage_outside (placed : layout.Placed)
    (inside : index < vertexFsBaseInodeCount + layout.dynamicFileCapacity) :
    UnchangedOutside layout.inodeTable image
      (inodeRecordImage layout image index file checksum) := by
  have fits := placed.inodesFit
  have tableCount := placed.tableCount
  simp only [vertexFsInodeEntryOffset, vertexFsInodeEntryLen] at fits
  rw [inodeRecordImage_eq]
  exact ((unchangedOutside_writeLe (by omega)).trans (unchangedOutside_writeLe (by omega))).trans
    (writeVertexFsSectorChecksum_outside (by omega))

theorem inodeRecordImage_outside_first (inside : index < vertexFsBaseInodeCount) :
    UnchangedOutside ⟨layout.inodeTable.firstSector, 1⟩ image
      (inodeRecordImage layout image index file checksum) := by
  intro address outside
  have base : vertexFsBaseInodeCount = 4 := rfl
  rw [inodeRecordImage_eq, writeVertexFsSectorChecksum_eq, writeLe_outside, writeLe_outside,
    writeLe_outside]
  all_goals
    simp only [At, VertexFsSection.address, byteCount,
      vertexFsSectorSize, vertexFsChecksumOffset] at *
    omega

theorem InodeTableOk_inodeRecordImage (placed : layout.Placed) (ok : layout.InodeTableOk image)
    (notRoot : index ≠ 0) (notAppDir : index ≠ 2) :
    layout.InodeTableOk (inodeRecordImage layout image index file checksum) := by
  have magicLength := placed.inodeMagic
  apply InodeTableOk_congr ok
  · have magic := ok.magic
    rwa [vertexFsMagicMatches, ← readBytes_inodeRecordImage (by omega) (by omega) (by omega)]
      at magic
  · rw [readLe_inodeRecordImage (by omega) (by omega) (by omega)]
    exact ok.version
  · exact checksumValid_writeVertexFsSectorChecksum
  · exact inodeTableCount_inodeRecordImage
  · intro other isDirectory
    exact readInode_inodeRecordImage_other (by omega)
  · intro other _
    exact sameEntry_inodeRecordImage layout image index file checksum other

end

theorem findInode_eq_find {inodeId : Nat} {indices : List Nat}
    (fit : ∀ index ∈ indices, layout.inodeEntryFits index) :
    layout.findInode image inodeId indices =
      .ok (indices.find? fun index => readLe 4 image (layout.inodeOffset index) = inodeId) := by
  induction indices with
  | nil => rfl
  | cons index rest ih =>
    rw [findInode, if_pos (fit index (by simp)),
      ih fun other member => fit other (by simp [member])]
    by_cases found : readLe 4 image (layout.inodeOffset index) = inodeId <;> simp [found]

theorem inodeIndexById_eq (placed : layout.Placed) (ok : layout.InodeTableOk image)
    (inodeId : Nat) : layout.inodeIndexById image inodeId =
      .ok (if 1 ≤ inodeId ∧ inodeId ≤ layout.inodeTableCount image then some (inodeId - 1)
        else none) := by
  have upper := ok.countUpper
  have inodesFit := placed.inodesFit
  unfold inodeIndexById
  rw [findInode_eq_find]
  · congr 1
    have number : ∀ index < layout.inodeTableCount image,
        readLe 4 image (layout.inodeOffset index) = index + 1 :=
      fun index inside => ok.id_eq inside
    split_ifs with known
    · rw [List.find?_range_eq_some]
      refine ⟨?_, by simp; omega, fun other below => ?_⟩
      · rw [number _ (by omega)]
        simp
        omega
      · rw [number _ (by omega)]
        simp
        omega
    · rw [List.find?_eq_none]
      intro index member
      rw [List.mem_range] at member
      rw [number index member]
      simp
      omega
  · intro index member
    rw [List.mem_range] at member
    rw [inodeEntryFits, decide_eq_true_eq]
    simp only [vertexFsInodeEntryOffset, vertexFsInodeEntryLen] at inodesFit ⊢
    omega

theorem metadata_apart_extent (placed : layout.Placed) {inode : VertexFsInode}
    (extent : inode.ExtentOk layout) :
    vertexFsSuperblock.Apart inode.extent ∧ layout.inodeTable.Apart inode.extent ∧
      layout.directory.Apart inode.extent ∧ layout.freeMap.Apart inode.extent ∧
      layout.journal.Apart inode.extent := by
  have lower := extent.lower
  have row := placed.row
  simp only [Apart, VertexFsInode.extent, vertexFsSuperblock]
  omega

theorem metadata_apart_journal (placed : layout.Placed) :
    vertexFsSuperblock.Apart layout.journal ∧ layout.inodeTable.Apart layout.journal ∧
      layout.directory.Apart layout.journal ∧ layout.freeMap.Apart layout.journal := by
  have row := placed.row
  simp only [Apart, vertexFsSuperblock]
  omega

theorem VertexFsSection.Apart.symm {part second : VertexFsSection} (apart : part.Apart second) :
    second.Apart part :=
  Or.symm apart

theorem extent_apart_of_not_overlaps {inode second : VertexFsInode}
    (apart : ¬inode.Overlaps second) : inode.extent.Apart second.extent := by
  simp only [VertexFsInode.Overlaps, VertexFsInode.endSector, Apart,
    VertexFsInode.extent] at apart ⊢
  omega

end VertexOS
