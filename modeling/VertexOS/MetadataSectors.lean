import VertexOS.GenerationManager

/-!
# Rewriting the metadata sector

A checkpoint that was written is read back, and the other fields keep their bytes.
-/

namespace VertexOS

open ByteStrings ByteImages

theorem metadataLayout :
    diskSectorSize = 512 ∧ diskStringLen = 64 ∧ diskVersionOffset = 16 ∧
      metadataCountOffset = 18 ∧ diskChecksumOffset = 20 ∧ metadataTransactionStateOffset = 24 ∧
      metadataFailureReasonOffset = 26 ∧ metadataSelectedOffset = 32 ∧
      metadataPreviousOffset = 96 ∧ metadataKnownGoodOffset = 160 ∧
      metadataTransactionTargetOffset = 224 ∧ metadataEntryOffset = 288 ∧ metadataEntryLen = 64 := by
  decide

/-- The bytes fit a field and can be told from the zeros behind them. -/
structure PaddedText (bytes : Bytes) : Prop where
  short : bytes.length ≤ diskStringLen
  zeroFree : 0 ∉ bytes

section

variable {sector : Image} {offset : Nat} {bytes : Bytes} {allowEmpty : Bool}

theorem paddedText_of_readFixedString (read : readFixedString sector offset allowEmpty = some bytes) :
    PaddedText bytes := by
  unfold readFixedString fixedString at read
  split at read
  · cases read
  · dsimp only at read
    split at read
    · cases read
    · split at read
      · cases read
        constructor
        · refine (List.takeWhile_sublist _).length_le.trans ?_
          simp
        · intro zero
          simpa using List.mem_takeWhile_imp zero
      · cases read

theorem readFixedString_false_ne_nil (read : readFixedString sector offset false = some bytes) :
    bytes ≠ [] := by
  unfold readFixedString at read
  split at read
  · cases read
  · exact fixedString_false_ne_nil read

theorem fixedString_padded (text : PaddedText bytes) (nonempty : bytes = [] → allowEmpty = true)
    (padding : Nat) : fixedString (bytes ++ List.replicate padding 0) allowEmpty = some bytes := by
  have taken : (bytes ++ List.replicate padding 0).takeWhile (· ≠ 0) = bytes := by
    rw [List.takeWhile_append_of_pos]
    · simp
    · intro byte isByte
      simp only [decide_eq_true_eq]
      rintro rfl
      exact text.zeroFree isByte
  unfold fixedString
  simp only [taken]
  rw [if_neg (by rintro ⟨empty, wrong⟩; simp [nonempty empty] at wrong)]
  simp

theorem readBytes_writeFixedString (short : bytes.length ≤ diskStringLen) :
    readBytes (writeFixedString sector offset bytes) offset diskStringLen =
      bytes ++ List.replicate (diskStringLen - bytes.length) 0 := by
  apply List.ext_getElem?
  intro index
  by_cases inside : index < diskStringLen
  · rw [readBytes_getElem inside]
    simp only [writeFixedString, writeBytes, Nat.le_add_right, if_true, Nat.add_sub_cancel_left,
      clearBytes]
    by_cases written : index < bytes.length
    · simp [List.getElem?_append_left written, List.getElem?_eq_getElem written]
    · rw [List.getElem?_append_right (by omega)]
      simp [List.getElem?_eq_none (Nat.not_lt.mp written), inside,
        show index - bytes.length < diskStringLen - bytes.length by omega]
  · rw [List.getElem?_eq_none (by simpa using inside), List.getElem?_eq_none]
    simp
    omega

theorem readFixedString_writeFixedString (text : PaddedText bytes)
    (nonempty : bytes = [] → allowEmpty = true) (inside : offset + diskStringLen ≤ diskSectorSize) :
    readFixedString (writeFixedString sector offset bytes) offset allowEmpty = some bytes := by
  unfold readFixedString
  rw [if_neg (by omega), readBytes_writeFixedString text.short]
  exact fixedString_padded text nonempty _

theorem writeFixedString_outside {address : Nat} (short : bytes.length ≤ diskStringLen)
    (apart : address < offset ∨ offset + diskStringLen ≤ address) :
    writeFixedString sector offset bytes address = sector address := by
  unfold writeFixedString
  rw [writeBytes_outside (by omega), clearBytes_outside (by omega)]

theorem readFixedString_of_agree {other : Image}
    (agree : ∀ address, offset ≤ address → address < offset + diskStringLen →
      sector address = other address) :
    readFixedString sector offset allowEmpty = readFixedString other offset allowEmpty := by
  unfold readFixedString
  rw [readBytes_congr agree]

theorem readFixedString_writeFixedString_apart {start : Nat} (short : bytes.length ≤ diskStringLen)
    (apart : offset + diskStringLen ≤ start ∨ start + diskStringLen ≤ offset) :
    readFixedString (writeFixedString sector start bytes) offset allowEmpty =
      readFixedString sector offset allowEmpty :=
  readFixedString_of_agree fun _ _ _ => writeFixedString_outside short (by omega)

theorem readFixedString_writeLe_apart {width start value : Nat}
    (apart : offset + diskStringLen ≤ start ∨ start + width ≤ offset) :
    readFixedString (writeLe width sector start value) offset allowEmpty =
      readFixedString sector offset allowEmpty :=
  readFixedString_of_agree fun _ _ _ => writeLe_outside (by omega)

end

theorem weightedSum_append (weight : Nat) (left right : Bytes) :
    weightedSum weight (left ++ right) =
      weightedSum weight left + weightedSum (weight + left.length) right := by
  induction left generalizing weight with
  | nil => simp [weightedSum]
  | cons byte rest ih =>
    simp only [List.cons_append, weightedSum, ih, List.length_cons]
    rw [Nat.add_assoc, Nat.add_assoc, Nat.add_comm 1]

theorem readBytes_add (image : Image) (offset first second : Nat) :
    readBytes image offset (first + second) =
      readBytes image offset first ++ readBytes image (offset + first) second := by
  simp [readBytes, List.range_add, Nat.add_assoc]

section

variable {sector other : Image}

/-- What the bytes behind the sector add to the checksum of the section. -/
def tailSum (sector : Image) (tail : Nat) : Nat :=
  weightedSum (1 + diskSectorSize) (readBytes sector diskSectorSize tail)

theorem metadataChecksum_tail (sector : Image) (tail : Nat) :
    metadataChecksum sector 0 (diskSectorSize + tail) =
      (metadataChecksum sector 0 diskSectorSize + tailSum sector tail) % 2 ^ 32 := by
  have outside : readBytes (writeLe 4 sector diskChecksumOffset 0) diskSectorSize tail =
      readBytes sector diskSectorSize tail := by
    apply readBytes_writeLe_apart
    simp [diskChecksumOffset, diskSectorSize]
  unfold metadataChecksum vertexFsChecksum32 tailSum
  rw [Nat.zero_add, readBytes_add, weightedSum_append, readBytes_length, Nat.zero_add, outside,
    Nat.mod_add_mod]

theorem metadataChecksum_lt (sector : Image) (start length : Nat) :
    metadataChecksum sector start length < 256 ^ 4 :=
  Nat.mod_lt _ (by norm_num)

/-- The manager and the kernel both accept the sector exactly if what is behind it adds
nothing. -/
theorem tailSum_of_valid {tail : Nat} (own : metadataChecksumValid sector 0 diskSectorSize = true)
    (whole : metadataChecksumValid sector 0 (diskSectorSize + tail) = true) :
    tailSum sector tail % 2 ^ 32 = 0 := by
  have fits := metadataChecksum_lt sector 0 diskSectorSize
  simp only [metadataChecksumValid, decide_eq_true_eq] at own whole
  rw [own, metadataChecksum_tail] at whole
  norm_num at fits
  omega

theorem metadataChecksumValid_tail {tail : Nat}
    (own : metadataChecksumValid sector 0 diskSectorSize = true)
    (nothing : tailSum sector tail % 2 ^ 32 = 0) :
    metadataChecksumValid sector 0 (diskSectorSize + tail) = true := by
  have fits := metadataChecksum_lt sector 0 diskSectorSize
  simp only [metadataChecksumValid, decide_eq_true_eq] at own ⊢
  rw [own, metadataChecksum_tail]
  norm_num at fits
  omega

theorem writeMetadataChecksum_outside {address : Nat}
    (apart : address < diskChecksumOffset ∨ diskChecksumOffset + 4 ≤ address) :
    writeMetadataChecksum sector address = sector address :=
  writeLe_outside apart

theorem metadataChecksumValid_writeMetadataChecksum (sector : Image) :
    metadataChecksumValid (writeMetadataChecksum sector) 0 diskSectorSize = true := by
  unfold metadataChecksumValid writeMetadataChecksum
  rw [decide_eq_true_eq, Nat.zero_add, readLe_writeLe_self _ _ (metadataChecksum_lt ..)]
  unfold metadataChecksum
  rw [Nat.zero_add, writeLe_writeLe_same]

end

def metadataEntries (sector : Image) : List (Option Bytes) :=
  (List.range (metadataCount sector)).map fun index =>
    readFixedString sector (entryOffset index) false

theorem containsGeneration_iff {sector : Image} {generation : Bytes} :
    containsGeneration sector generation = true ↔ some generation ∈ metadataEntries sector := by
  unfold containsGeneration metadataEntries entryGeneration
  simp only [List.any_eq_true, List.mem_range, List.mem_map, decide_eq_true_eq]
  refine exists_congr fun index => and_congr_right fun counted => ?_
  rw [if_neg (by omega)]

/-- The sector is written anew: magic and version stay, what is behind it stays, and its
checksum is right. -/
structure Rewritten (sector new : Image) : Prop where
  head : ∀ address < metadataCountOffset, new address = sector address
  tail : ∀ address, diskSectorSize ≤ address → new address = sector address
  checksum : metadataChecksumValid new 0 diskSectorSize = true

namespace Checkpoint

structure Readable (checkpoint : Checkpoint) : Prop where
  named : checkpoint.selected ≠ []
  selected : PaddedText checkpoint.selected
  previous : PaddedText checkpoint.previous
  knownGood : PaddedText checkpoint.knownGood
  target : PaddedText checkpoint.target

theorem Readable.fits {checkpoint : Checkpoint} (readable : checkpoint.Readable) :
    checkpoint.Fits :=
  ⟨readable.named, readable.selected.short, readable.previous.short, readable.knownGood.short,
    readable.target.short⟩

end Checkpoint

section

variable {sector : Image} {checkpoint : Checkpoint}

theorem checkpointSector_outside (fits : checkpoint.Fits) {address : Nat}
    (apart : address < diskChecksumOffset ∨ metadataEntryOffset ≤ address) :
    checkpointSector sector checkpoint address = sector address := by
  have layout := metadataLayout
  obtain ⟨-, selected, previous, knownGood, target⟩ := fits
  unfold checkpointSector
  simp (disch := omega) only [writeMetadataChecksum_outside, writeLe_outside,
    writeFixedString_outside]

theorem rewritten_checkpointSector (fits : checkpoint.Fits) :
    Rewritten sector (checkpointSector sector checkpoint) where
  head _ before := checkpointSector_outside fits (.inl (before.trans (by decide)))
  tail _ behind := checkpointSector_outside fits (.inr (le_trans (by decide) behind))
  checksum := metadataChecksumValid_writeMetadataChecksum _

theorem metadataCount_checkpointSector (fits : checkpoint.Fits) :
    metadataCount (checkpointSector sector checkpoint) = metadataCount sector := by
  unfold metadataCount
  refine readLe_congr fun address _ before => checkpointSector_outside fits (.inl ?_)
  simp only [metadataCountOffset, diskChecksumOffset] at before ⊢
  omega

theorem metadataEntries_checkpointSector (fits : checkpoint.Fits) :
    metadataEntries (checkpointSector sector checkpoint) = metadataEntries sector := by
  unfold metadataEntries
  rw [metadataCount_checkpointSector fits]
  refine List.map_congr_left fun index _ => readFixedString_of_agree fun address starts _ =>
    checkpointSector_outside fits (.inr ?_)
  exact le_trans (Nat.le_add_right _ _) starts

theorem fields_checkpointSector (readable : checkpoint.Readable) :
    readFixedString (checkpointSector sector checkpoint) metadataSelectedOffset false =
        some checkpoint.selected ∧
      readFixedString (checkpointSector sector checkpoint) metadataPreviousOffset true =
        some checkpoint.previous ∧
      readFixedString (checkpointSector sector checkpoint) metadataKnownGoodOffset true =
        some checkpoint.knownGood ∧
      readFixedString (checkpointSector sector checkpoint) metadataTransactionTargetOffset true =
        some checkpoint.target := by
  have layout := metadataLayout
  obtain ⟨-, -, previous, knownGood, target⟩ := readable.fits
  unfold checkpointSector writeMetadataChecksum
  simp (disch := omega) only [readFixedString_writeLe_apart, readFixedString_writeFixedString_apart]
  exact ⟨readFixedString_writeFixedString readable.selected (absurd · readable.named) (by omega),
    readFixedString_writeFixedString readable.previous (fun _ => rfl) (by omega),
    readFixedString_writeFixedString readable.knownGood (fun _ => rfl) (by omega),
    readFixedString_writeFixedString readable.target (fun _ => rfl) (by omega)⟩

theorem transactionState_checkpointSector (fits : checkpoint.transactionState < 256 ^ 2) :
    readLe 2 (checkpointSector sector checkpoint) metadataTransactionStateOffset =
      checkpoint.transactionState := by
  have layout := metadataLayout
  unfold checkpointSector writeMetadataChecksum
  rw [readLe_writeLe_apart (by omega), readLe_writeLe_apart (by omega),
    readLe_writeLe_self _ _ fits]

end

section

variable {sector : Image} {generation : Bytes}

theorem entryOffset_of_room {index : Nat} (room : index < maxGenerationEntries) :
    entryOffset index + diskStringLen ≤ diskSectorSize := by
  have capacity : maxGenerationEntries = 3 := by decide
  have layout := metadataLayout
  unfold entryOffset
  rw [show metadataEntryLen = 64 from rfl]
  omega

theorem metadataCount_appendedSector (room : metadataCount sector < maxGenerationEntries) :
    metadataCount (appendedSector sector generation) = metadataCount sector + 1 := by
  have layout := metadataLayout
  have capacity : maxGenerationEntries = 3 := by decide
  unfold appendedSector writeMetadataChecksum
  rw [metadataCount, readLe_writeLe_apart (by omega), readLe_writeLe_self _ _ (by omega)]

variable (short : generation.length ≤ diskStringLen)
include short

theorem appendedSector_outside {address : Nat} (apart : address < metadataCountOffset ∨
      metadataTransactionStateOffset ≤ address ∧ address < entryOffset (metadataCount sector) ∨
      entryOffset (metadataCount sector) + diskStringLen ≤ address) :
    appendedSector sector generation address = sector address := by
  have layout := metadataLayout
  have behind : metadataEntryOffset ≤ entryOffset (metadataCount sector) := Nat.le_add_right _ _
  unfold appendedSector
  rw [writeMetadataChecksum_outside (by omega), writeLe_outside (by omega),
    writeFixedString_outside short (by omega)]

theorem rewritten_appendedSector (room : metadataCount sector < maxGenerationEntries) :
    Rewritten sector (appendedSector sector generation) where
  head _ before := appendedSector_outside short (.inl before)
  tail _ behind :=
    appendedSector_outside short (.inr (.inr ((entryOffset_of_room room).trans behind)))
  checksum := metadataChecksumValid_writeMetadataChecksum _

theorem metadataEntries_appendedSector (room : metadataCount sector < maxGenerationEntries) :
    metadataEntries (appendedSector sector generation) = metadataEntries sector ++
      [readFixedString (appendedSector sector generation) (entryOffset (metadataCount sector))
        false] := by
  have layout := metadataLayout
  unfold metadataEntries
  rw [metadataCount_appendedSector room, List.range_succ, List.map_append]
  congr 1
  refine List.map_congr_left fun index counted => readFixedString_of_agree fun address starts upTo =>
    appendedSector_outside short (.inr (.inl ?_))
  rw [List.mem_range] at counted
  unfold entryOffset at starts upTo ⊢
  rw [show metadataEntryLen = 64 from rfl] at starts upTo ⊢
  omega

theorem field_appendedSector {offset : Nat} {allowEmpty : Bool}
    (starts : metadataSelectedOffset ≤ offset)
    (upTo : offset + diskStringLen ≤ metadataEntryOffset) :
    readFixedString (appendedSector sector generation) offset allowEmpty =
      readFixedString sector offset allowEmpty := by
  have layout := metadataLayout
  have behind : metadataEntryOffset ≤ entryOffset (metadataCount sector) := Nat.le_add_right _ _
  exact readFixedString_of_agree fun address _ _ =>
    appendedSector_outside short (.inr (.inl (by omega)))

theorem transactionState_appendedSector :
    readLe 2 (appendedSector sector generation) metadataTransactionStateOffset =
      readLe 2 sector metadataTransactionStateOffset := by
  have layout := metadataLayout
  have behind : metadataEntryOffset ≤ entryOffset (metadataCount sector) := Nat.le_add_right _ _
  exact readLe_congr fun address _ _ => appendedSector_outside short (.inr (.inl (by omega)))

end

namespace VertexDisk

def writeSector (disk : VertexDisk) (sector : Nat) (bytes : Image) : VertexDisk where
  bytes address :=
    if sector * diskSectorSize ≤ address ∧ address < sector * diskSectorSize + diskSectorSize then
      bytes (address - sector * diskSectorSize)
    else disk.bytes address
  length := disk.length

variable {disk : VertexDisk} {new : Image}

theorem Accepted.start_pos (accepted : disk.Accepted) : 0 < disk.metadataSection.1 := by
  rcases Nat.eq_zero_or_pos disk.metadataSection.1 with zero | positive
  · have first := accepted.superblock
    have magic := accepted.magic
    simp only [validVertexdiskSuperblock, startsWith, decide_eq_true_eq] at first
    rw [metadata, zero, startsWith_sectorOf, Nat.zero_mul, startsWith, decide_eq_true_eq] at magic
    have same : vertexDiskMagic = generationMetadataMagic := by
      rw [← first.1, ← magic]
      rfl
    exact absurd same (by decide)
  · exact positive

theorem writeSector_superblock {sector : Nat} (positive : 0 < sector) {address : Nat}
    (inside : address < diskSectorSize) :
    (disk.writeSector sector new).bytes address = disk.bytes address := by
  have below : diskSectorSize ≤ sector * diskSectorSize := Nat.le_mul_of_pos_left _ positive
  simp only [writeSector]
  rw [if_neg (by omega)]

theorem metadataSection_writeSector (accepted : disk.Accepted) :
    (disk.writeSector disk.metadataSection.1 new).metadataSection = disk.metadataSection :=
  vertexDiskSection_congr (fun _ inside => writeSector_superblock accepted.start_pos inside)
    (by decide)

theorem metadata_writeSector (accepted : disk.Accepted) (rewritten : Rewritten disk.metadata new) :
    (disk.writeSector disk.metadataSection.1 new).metadata = new := by
  unfold metadata
  rw [metadataSection_writeSector accepted]
  funext address
  simp only [sectorOf, writeSector]
  by_cases inside : address < diskSectorSize
  · rw [if_pos (by omega), Nat.add_sub_cancel_left]
  · rw [if_neg (by omega), rewritten.tail address (by omega)]
    rfl

theorem Accepted.writeSector (accepted : disk.Accepted)
    (own : metadataChecksumValid disk.metadata 0 diskSectorSize = true)
    (rewritten : Rewritten disk.metadata new) :
    (disk.writeSector disk.metadataSection.1 new).Accepted := by
  have layout := metadataLayout
  have stays := metadata_writeSector accepted rewritten
  have sections : (disk.writeSector disk.metadataSection.1 new).metadataSection =
      disk.metadataSection := metadataSection_writeSector accepted
  have superblock : validVertexdiskSuperblock (disk.writeSector disk.metadataSection.1 new).bytes =
      validVertexdiskSuperblock disk.bytes :=
    validVertexdiskSuperblock_congr fun _ inside =>
      writeSector_superblock accepted.start_pos inside
  constructor
  case long => exact accepted.long
  case superblock => rw [superblock, accepted.superblock]
  case inside =>
    rw [sections]
    exact accepted.inside
  case magic =>
    rw [stays, ← accepted.magic]
    unfold startsWith
    rw [readBytes_congr fun address _ before => rewritten.head address (by
      have length : generationMetadataMagic.length = 16 := by decide
      omega)]
  case version =>
    rw [stays, ← accepted.version]
    exact readLe_congr fun address _ before => rewritten.head address (by omega)
  case checksum =>
    rw [stays, sections]
    have nonempty : disk.metadataSection.2 ≠ 0 :=
      (sectionInside_of_valid accepted.superblock (by decide)).1
    obtain ⟨tail, isTail⟩ : ∃ tail, disk.metadataSection.2 * diskSectorSize =
        diskSectorSize + tail :=
      Nat.exists_eq_add_of_le (Nat.le_mul_of_pos_left _ (Nat.pos_of_ne_zero nonempty))
    have whole := accepted.checksum
    rw [isTail] at whole ⊢
    have same : tailSum new tail = tailSum disk.metadata tail := by
      unfold tailSum
      rw [readBytes_congr fun address behind _ => rewritten.tail address behind]
    exact metadataChecksumValid_tail rewritten.checksum (same ▸ tailSum_of_valid own whole)

end VertexDisk

structure InSync (disk : VertexDisk) (metadata : GenerationMetadata) : Prop where
  accepted : disk.Accepted
  sectorNumber : metadata.sectorNumber = disk.metadataSection.1
  sector : metadata.sector = disk.metadata
  checksum : metadataChecksumValid metadata.sector 0 diskSectorSize = true

theorem InSync.of_accepted {disk : VertexDisk} (accepted : disk.Accepted)
    (checksum : metadataChecksumValid disk.metadata 0 diskSectorSize = true) :
    InSync disk ⟨disk.metadata, disk.metadataSection.1⟩ :=
  ⟨accepted, rfl, rfl, checksum⟩

theorem InSync.writeSector {disk : VertexDisk} {metadata : GenerationMetadata} {new : Image}
    (inSync : InSync disk metadata) (rewritten : Rewritten metadata.sector new) :
    InSync (disk.writeSector metadata.sectorNumber new) { metadata with sector := new } := by
  obtain ⟨accepted, number, sector, checksum⟩ := inSync
  rw [sector] at rewritten checksum
  rw [number]
  exact ⟨accepted.writeSector checksum rewritten,
    congrArg Prod.fst (VertexDisk.metadataSection_writeSector accepted).symm,
    (VertexDisk.metadata_writeSector accepted rewritten).symm, rewritten.checksum⟩

end VertexOS
