import VertexOS.VertexFsImage

/-!
# Generation metadata on disk

The sector that names the selected generation and the others, and how it is read.
-/

namespace VertexOS

open ByteStrings ByteImages

def diskSectorSize : Nat := 512
def diskStringLen : Nat := 64
def vertexDiskMagic : Bytes := utf8 "VERTEXDISKV1" ++ List.replicate 4 0
def generationMetadataMagic : Bytes := utf8 "VDISKGENMETAV0" ++ List.replicate 2 0
def vertexDiskVersion : Nat := 3
def diskVersionOffset : Nat := 16
def diskSectorSizeOffset : Nat := 18
def diskChecksumOffset : Nat := 20
def diskTotalSectorsOffset : Nat := 24
def diskSectionTableOffset : Nat := 32
def diskSectionRecordLen : Nat := 16
def generationMetadataSection : Nat := 0
def graphStoreSection : Nat := 7

def metadataCountOffset : Nat := 18
def metadataTransactionStateOffset : Nat := 24
def metadataFailureReasonOffset : Nat := 26
def metadataSelectedOffset : Nat := 32
def metadataPreviousOffset : Nat := metadataSelectedOffset + diskStringLen
def metadataKnownGoodOffset : Nat := metadataPreviousOffset + diskStringLen
def metadataTransactionTargetOffset : Nat := metadataKnownGoodOffset + diskStringLen
def metadataEntryOffset : Nat := metadataTransactionTargetOffset + diskStringLen
def metadataEntryLen : Nat := diskStringLen

def transactionClean : Nat := 0
def transactionPrepare : Nat := 1
def transactionCommit : Nat := 2
def transactionRollback : Nat := 3
def transactionAbort : Nat := 4

def failureNone : Nat := 0
def failureActivationFailed : Nat := 1
def failureVerificationFailed : Nat := 2
def failureRuntimeBuildFailed : Nat := 3
def failureRollbackBuildFailed : Nat := 4

def generationTransactionLabel : Nat → String
  | 0 => "clean"
  | 1 => "prepare"
  | 2 => "commit"
  | 3 => "rollback"
  | 4 => "abort"
  | _ => "unknown"

def generationFailureReasonLabel : Nat → String
  | 0 => ""
  | 1 => "activation-failed"
  | 2 => "verification-failed"
  | 3 => "runtime-build-failed"
  | 4 => "rollback-build-failed"
  | _ => "unknown"

def fixedString (field : Bytes) (allowEmpty : Bool) : Option Bytes :=
  let text := field.takeWhile (· ≠ 0)
  if text = [] ∧ allowEmpty = false then none
  else if (field.drop text.length).all (· = 0) then some text
  else none

def readFixedString (sector : Image) (offset : Nat) (allowEmpty : Bool) : Option Bytes :=
  if diskSectorSize < offset + diskStringLen then none
  else fixedString (readBytes sector offset diskStringLen) allowEmpty

def fixedStrAt (sector : Image) (offset : Nat) (allowEmpty : Bool) : Option String :=
  (readFixedString sector offset allowEmpty).bind fromUtf8?

def metadataChecksum (image : Image) (start length : Nat) : Nat :=
  vertexFsChecksum32 (readBytes (writeLe 4 image (start + diskChecksumOffset) 0) start length)

def metadataChecksumValid (image : Image) (start length : Nat) : Bool :=
  readLe 4 image (start + diskChecksumOffset) = metadataChecksum image start length

def startsWith (image : Image) (start : Nat) (magic : Bytes) : Bool :=
  readBytes image start magic.length = magic

def vertexDiskSection (superblock : Image) (index : Nat) : Nat × Nat :=
  let offset := diskSectionTableOffset + index * diskSectionRecordLen
  (readLe 8 superblock offset, readLe 8 superblock (offset + 8))

def sectorOf (image : Image) (sector : Nat) : Image := fun index =>
  image (sector * diskSectorSize + index)

def metadataCount (sector : Image) : Nat := readLe 2 sector metadataCountOffset

def writeFixedString (sector : Image) (offset : Nat) (value : Bytes) : Image :=
  writeBytes (clearBytes sector offset diskStringLen) offset value

def writeMetadataChecksum (sector : Image) : Image :=
  writeLe 4 sector diskChecksumOffset (metadataChecksum sector 0 diskSectorSize)

structure VertexDisk where
  bytes : Image
  length : Nat

def SectionInside (superblock : Image) (index : Nat) : Prop :=
  (vertexDiskSection superblock index).2 ≠ 0 ∧
    (vertexDiskSection superblock index).1 + (vertexDiskSection superblock index).2 ≤
      readLe 4 superblock diskTotalSectorsOffset

instance (superblock : Image) (index : Nat) : Decidable (SectionInside superblock index) :=
  inferInstanceAs (Decidable (_ ∧ _))

def validVertexdiskSuperblock (superblock : Image) : Bool :=
  startsWith superblock 0 vertexDiskMagic ∧
    readLe 2 superblock diskVersionOffset = vertexDiskVersion ∧
    readLe 2 superblock diskSectorSizeOffset = diskSectorSize ∧
    metadataChecksumValid superblock 0 diskSectorSize ∧
    ∀ index ≤ graphStoreSection, SectionInside superblock index

def loadVertexdiskGenerationMetadata (disk : VertexDisk) : Option Image :=
  if disk.length < diskSectorSize ∨ validVertexdiskSuperblock disk.bytes = false then none
  else
    let (start, count) := vertexDiskSection disk.bytes generationMetadataSection
    let offset := start * diskSectorSize
    if disk.length < offset + count * diskSectorSize then none
    else if count * diskSectorSize < diskSectorSize ∨
        startsWith disk.bytes offset generationMetadataMagic = false ∨
        readLe 2 disk.bytes (offset + diskVersionOffset) ≠ vertexDiskVersion ∨
        metadataChecksumValid disk.bytes offset (count * diskSectorSize) = false then none
    else some (sectorOf disk.bytes start)

structure VertexDiskGenerationRecovery where
  selectedGeneration : String
  previousGeneration : String
  knownGoodGeneration : String
  transactionState : Nat
  transactionTarget : String
  failureReason : Nat
deriving DecidableEq, Repr

/-- What a metadata sector says; without a selected generation it is the one that the
boot loader chose. -/
def recoverFromMetadata (metadata : Image) (bootstrapGeneration : String) :
    Option VertexDiskGenerationRecovery := do
  let transactionState := readLe 2 metadata metadataTransactionStateOffset
  let selectedGeneration :=
    (fixedStrAt metadata metadataSelectedOffset false).getD bootstrapGeneration
  let previousGeneration ← fixedStrAt metadata metadataPreviousOffset true
  let knownGoodGeneration ← fixedStrAt metadata metadataKnownGoodOffset true
  let transactionTarget ← fixedStrAt metadata metadataTransactionTargetOffset true
  if generationTransactionLabel transactionState = "unknown" then none
  else
    return {
      selectedGeneration, previousGeneration, knownGoodGeneration, transactionState
      transactionTarget
      failureReason := readLe 2 metadata metadataFailureReasonOffset }

def recoverVertexdiskGenerationSelection (disk : Option VertexDisk)
    (bootstrapGeneration : String) : Option VertexDiskGenerationRecovery := do
  let metadata ← disk.bind loadVertexdiskGenerationMetadata
  recoverFromMetadata metadata bootstrapGeneration

section

variable (image : Image) (sector : Nat)

theorem readBytes_sectorOf (offset length : Nat) :
    readBytes (sectorOf image sector) offset length =
      readBytes image (sector * diskSectorSize + offset) length :=
  readBytes_shift image _ offset length

theorem readLe_sectorOf (width offset : Nat) :
    readLe width (sectorOf image sector) offset =
      readLe width image (sector * diskSectorSize + offset) :=
  readLe_shift image _ width offset

theorem sectorOf_writeBytes (offset : Nat) (bytes : Bytes) :
    sectorOf (writeBytes image (sector * diskSectorSize + offset) bytes) sector =
      writeBytes (sectorOf image sector) offset bytes :=
  (writeBytes_shift image _ offset bytes).symm

theorem startsWith_sectorOf (magic : Bytes) :
    startsWith (sectorOf image sector) 0 magic =
      startsWith image (sector * diskSectorSize) magic := by
  simp [startsWith, readBytes_sectorOf]

theorem metadataChecksum_sectorOf (length : Nat) :
    metadataChecksum (sectorOf image sector) 0 length =
      metadataChecksum image (sector * diskSectorSize) length := by
  unfold metadataChecksum writeLe
  rw [Nat.zero_add, ← sectorOf_writeBytes, readBytes_sectorOf, Nat.add_zero]

theorem metadataChecksumValid_sectorOf (length : Nat) :
    metadataChecksumValid (sectorOf image sector) 0 length =
      metadataChecksumValid image (sector * diskSectorSize) length := by
  unfold metadataChecksumValid
  rw [metadataChecksum_sectorOf, readLe_sectorOf, Nat.zero_add]

end

section

variable {image other : Image} {length : Nat}

theorem metadataChecksum_congr (agree : ∀ address < length, image address = other address) :
    metadataChecksum image 0 length = metadataChecksum other 0 length := by
  unfold metadataChecksum
  congr 1
  apply readBytes_congr
  intro address _ inside
  simp [writeLe, writeBytes, agree address (by omega)]

theorem metadataChecksumValid_congr (long : diskSectorSize ≤ length)
    (agree : ∀ address < length, image address = other address) :
    metadataChecksumValid image 0 length = metadataChecksumValid other 0 length := by
  unfold metadataChecksumValid
  rw [metadataChecksum_congr agree, readLe_congr fun address _ inside => agree address ?_]
  simp only [diskSectorSize, diskChecksumOffset] at long inside
  omega

variable (agree : ∀ address < diskSectorSize, image address = other address)

include agree

theorem readLe_sector_congr {width offset : Nat} (inside : offset + width ≤ diskSectorSize) :
    readLe width image offset = readLe width other offset :=
  readLe_congr fun address _ before => agree address (by omega)

theorem startsWith_congr {magic : Bytes} (short : magic.length ≤ diskSectorSize) :
    startsWith image 0 magic = startsWith other 0 magic := by
  unfold startsWith
  rw [readBytes_congr fun address _ before => agree address (by omega)]

theorem vertexDiskSection_congr {index : Nat} (known : index ≤ graphStoreSection) :
    vertexDiskSection image index = vertexDiskSection other index := by
  have inside : diskSectionTableOffset + index * diskSectionRecordLen + 16 ≤ diskSectorSize := by
    simp only [graphStoreSection] at known
    simp only [diskSectionTableOffset, diskSectionRecordLen, diskSectorSize]
    omega
  unfold vertexDiskSection
  dsimp only
  rw [readLe_sector_congr agree (by omega), readLe_sector_congr agree (by omega)]

theorem validVertexdiskSuperblock_congr :
    validVertexdiskSuperblock image = validVertexdiskSuperblock other := by
  have sections : (∀ index ≤ graphStoreSection, SectionInside image index) ↔
      ∀ index ≤ graphStoreSection, SectionInside other index := by
    refine forall₂_congr fun index known => ?_
    unfold SectionInside
    rw [vertexDiskSection_congr agree known, readLe_sector_congr agree (by decide)]
  unfold validVertexdiskSuperblock
  rw [startsWith_congr agree (by decide), readLe_sector_congr agree (by decide),
    readLe_sector_congr agree (by decide), metadataChecksumValid_congr le_rfl agree]
  simp only [sections]

theorem readFixedString_congr {offset : Nat} {allowEmpty : Bool} :
    readFixedString image offset allowEmpty = readFixedString other offset allowEmpty := by
  unfold readFixedString
  split
  · rfl
  · rw [readBytes_congr fun address _ before => agree address (by omega)]

theorem fixedStrAt_congr {offset : Nat} {allowEmpty : Bool} :
    fixedStrAt image offset allowEmpty = fixedStrAt other offset allowEmpty := by
  unfold fixedStrAt
  rw [readFixedString_congr agree]

theorem recoverFromMetadata_congr (bootstrap : String) :
    recoverFromMetadata image bootstrap = recoverFromMetadata other bootstrap := by
  have state : readLe 2 image metadataTransactionStateOffset =
      readLe 2 other metadataTransactionStateOffset := readLe_sector_congr agree (by decide)
  have reason : readLe 2 image metadataFailureReasonOffset =
      readLe 2 other metadataFailureReasonOffset := readLe_sector_congr agree (by decide)
  unfold recoverFromMetadata
  simp only [fixedStrAt_congr agree, state, reason]

end

namespace VertexDisk

def metadataSection (disk : VertexDisk) : Nat × Nat :=
  vertexDiskSection disk.bytes generationMetadataSection

def metadata (disk : VertexDisk) : Image := sectorOf disk.bytes disk.metadataSection.1

structure Accepted (disk : VertexDisk) : Prop where
  long : diskSectorSize ≤ disk.length
  superblock : validVertexdiskSuperblock disk.bytes = true
  inside : (disk.metadataSection.1 + disk.metadataSection.2) * diskSectorSize ≤ disk.length
  magic : startsWith disk.metadata 0 generationMetadataMagic = true
  version : readLe 2 disk.metadata diskVersionOffset = vertexDiskVersion
  checksum :
    metadataChecksumValid disk.metadata 0 (disk.metadataSection.2 * diskSectorSize) = true

theorem sectionInside_of_valid {superblock : Image} {index : Nat}
    (valid : validVertexdiskSuperblock superblock = true) (known : index ≤ graphStoreSection) :
    SectionInside superblock index := by
  simp only [validVertexdiskSuperblock, decide_eq_true_eq] at valid
  exact valid.2.2.2.2 index known

theorem load_of_accepted {disk : VertexDisk} (accepted : disk.Accepted) :
    loadVertexdiskGenerationMetadata disk = some disk.metadata := by
  obtain ⟨long, superblock, inside, magic, version, checksum⟩ := accepted
  have nonempty : disk.metadataSection.2 ≠ 0 := (sectionInside_of_valid superblock (by decide)).1
  rw [metadata, startsWith_sectorOf] at magic
  rw [metadata, readLe_sectorOf] at version
  rw [metadata, metadataChecksumValid_sectorOf] at checksum
  rw [Nat.add_mul] at inside
  have enough : diskSectorSize ≤ disk.metadataSection.2 * diskSectorSize :=
    Nat.le_mul_of_pos_left _ (Nat.pos_of_ne_zero nonempty)
  unfold metadataSection at inside magic version checksum enough
  unfold loadVertexdiskGenerationMetadata
  rw [if_neg (by simp [superblock, long])]
  dsimp only
  rw [if_neg (Nat.not_lt.mpr inside), if_neg]
  · rfl
  · rintro (short | wrong | wrong | wrong)
    · exact absurd enough (Nat.not_le.mpr short)
    · exact absurd magic (by simpa using wrong)
    · exact wrong version
    · exact absurd checksum (by simpa using wrong)

theorem accepted_of_load {disk : VertexDisk} {metadata : Image}
    (load : loadVertexdiskGenerationMetadata disk = some metadata) :
    disk.Accepted ∧ metadata = disk.metadata := by
  unfold loadVertexdiskGenerationMetadata at load
  split at load
  · cases load
  · rename_i ready
    dsimp only at load
    split at load
    · cases load
    · rename_i inside
      split at load
      · cases load
      · rename_i fields
        cases load
        simp only [not_or, Bool.not_eq_false, ne_eq, not_not, Nat.not_lt] at ready inside fields
        refine ⟨⟨ready.1, ready.2, ?_, ?_, ?_, ?_⟩, rfl⟩
        · rw [Nat.add_mul]
          exact inside
        · rw [VertexDisk.metadata, startsWith_sectorOf]
          exact fields.2.1
        · rw [VertexDisk.metadata, readLe_sectorOf]
          exact fields.2.2.1
        · rw [VertexDisk.metadata, metadataChecksumValid_sectorOf]
          exact fields.2.2.2

end VertexDisk

theorem fixedString_false_ne_nil {field text : Bytes}
    (read : fixedString field false = some text) : text ≠ [] := by
  unfold fixedString at read
  dsimp only at read
  split at read
  · cases read
  · rename_i nonempty
    split at read
    · cases read
      simpa using nonempty
    · cases read

theorem fixedStrAt_false_ne_empty {sector : Image} {offset : Nat} {text : String}
    (read : fixedStrAt sector offset false = some text) : text ≠ "" := by
  obtain ⟨bytes, field, decoded⟩ := Option.bind_eq_some_iff.mp read
  unfold readFixedString at field
  split at field
  · cases field
  · rintro rfl
    exact fixedString_false_ne_nil field (fromUtf8?_eq_some.mp decoded).symm

theorem recoverFromMetadata_selectedGeneration {metadata : Image} {bootstrap : String}
    {recovered : VertexDiskGenerationRecovery}
    (recovery : recoverFromMetadata metadata bootstrap = some recovered) :
    recovered.selectedGeneration =
      (fixedStrAt metadata metadataSelectedOffset false).getD bootstrap := by
  obtain ⟨_, _, recovery⟩ := Option.bind_eq_some_iff.mp recovery
  obtain ⟨_, _, recovery⟩ := Option.bind_eq_some_iff.mp recovery
  obtain ⟨_, _, recovery⟩ := Option.bind_eq_some_iff.mp recovery
  split at recovery
  · cases recovery
  · cases recovery
    rfl

def createdSections : List (Nat × Nat) :=
  [(1, 1), (2, 16), (32, 49152), (49184, 1), (49185, 8), (49193, 16), (49209, 64), (49273, 128)]

def createdSectors : Nat := 65536

def createdSuperblock : Image :=
  let header := writeBytes (fun _ => 0) 0 vertexDiskMagic
  let header := writeLe 2 header diskVersionOffset vertexDiskVersion
  let header := writeLe 2 header diskSectorSizeOffset diskSectorSize
  let header := writeLe 4 header diskTotalSectorsOffset createdSectors
  writeMetadataChecksum <| createdSections.zipIdx.foldl (fun sector (part, index) =>
    let offset := diskSectionTableOffset + index * diskSectionRecordLen
    writeLe 8 (writeLe 8 sector offset part.1) (offset + 8) part.2) header

def hostString (text : String) : Bytes := (utf8 text).take diskStringLen

/-- The metadata of a new disk: its first generation is selected and known to be good. -/
def createdMetadata (selected : String) (others : List String) : Image :=
  let header := writeBytes (fun _ => 0) 0 generationMetadataMagic
  let header := writeLe 2 header diskVersionOffset vertexDiskVersion
  let header := writeLe 2 header metadataCountOffset (others.length + 1)
  let header := writeLe 2 header metadataTransactionStateOffset transactionClean
  let header := writeLe 2 header metadataFailureReasonOffset failureNone
  let header := writeFixedString header metadataSelectedOffset (hostString selected)
  let header := writeFixedString header metadataKnownGoodOffset (hostString selected)
  writeMetadataChecksum <| (selected :: others).zipIdx.foldl (fun sector (generation, index) =>
    writeFixedString sector (metadataEntryOffset + index * metadataEntryLen)
      (hostString generation)) header

/-- Two generations, of which the second is selected. -/
def secondSelected : Image := createdMetadata "gen:2" ["gen:1"]

/-- A new disk with the given metadata; the other sections stay empty here. -/
def createdDisk (metadata : Image) : VertexDisk where
  bytes address :=
    if address < diskSectorSize then createdSuperblock address
    else if address < 2 * diskSectorSize then metadata (address - diskSectorSize)
    else 0
  length := createdSectors * diskSectorSize

theorem validVertexdiskSuperblock_createdSuperblock :
    validVertexdiskSuperblock createdSuperblock = true := by
  decide +kernel

theorem metadataSection_createdDisk (metadata : Image) :
    (createdDisk metadata).metadataSection = (1, 1) := by
  have same : (createdDisk metadata).metadataSection =
      vertexDiskSection createdSuperblock generationMetadataSection :=
    vertexDiskSection_congr (fun address inside => by simp [createdDisk, inside]) (by decide)
  rw [same]
  decide +kernel

theorem metadata_createdDisk (metadata : Image) {address : Nat} (inside : address < diskSectorSize) :
    (createdDisk metadata).metadata address = metadata address := by
  unfold VertexDisk.metadata
  rw [metadataSection_createdDisk]
  simp only [diskSectorSize] at inside
  simp [sectorOf, createdDisk, diskSectorSize, show ¬512 + address < 512 by omega,
    show 512 + address < 1024 by omega]

theorem accepted_createdDisk {metadata : Image}
    (magic : startsWith metadata 0 generationMetadataMagic = true)
    (version : readLe 2 metadata diskVersionOffset = vertexDiskVersion)
    (checksum : metadataChecksumValid metadata 0 diskSectorSize = true) :
    (createdDisk metadata).Accepted := by
  have agree : ∀ address < diskSectorSize,
      (createdDisk metadata).metadata address = metadata address :=
    fun _ inside => metadata_createdDisk metadata inside
  constructor
  case long => simp [createdDisk, createdSectors, diskSectorSize]
  case superblock =>
    have same : validVertexdiskSuperblock (createdDisk metadata).bytes =
        validVertexdiskSuperblock createdSuperblock :=
      validVertexdiskSuperblock_congr fun address inside => by simp [createdDisk, inside]
    rw [same]
    exact validVertexdiskSuperblock_createdSuperblock
  case inside =>
    rw [metadataSection_createdDisk]
    simp [createdDisk, createdSectors, diskSectorSize]
  case magic => rwa [startsWith_congr agree (by decide)]
  case version => rwa [readLe_sector_congr agree (by decide)]
  case checksum =>
    rw [metadataSection_createdDisk, Nat.one_mul]
    rwa [metadataChecksumValid_congr le_rfl agree]

end VertexOS
