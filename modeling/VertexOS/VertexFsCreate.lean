import VertexOS.VertexFsUpdates

/-!
# The images the host tool creates

The kernel accepts what the tool writes, and finds the files in it.
-/

namespace VertexOS

open ByteStrings ByteImages FailingCalls VertexFsLayout VertexFsSection

variable (layout : VertexFsLayout)

def writeAll (writes : List (Image → Image)) (image : Image) : Image :=
  writes.foldl (fun image write => write image) image

def writeSectionRecord (index : Nat) (part : VertexFsSection)
    (image : Image) : Image :=
  let offset := layout.sectionTableOffset + index * vertexFsSectionRecordLen
  writeLe 8 (writeLe 8 image offset part.firstSector) (offset + 8) part.sectorCount

def writeSectionTable (image : Image) : Image :=
  writeAll
    [writeSectionRecord layout 0 layout.inodeTable, writeSectionRecord layout 1 layout.directory,
      writeSectionRecord layout 2 layout.freeMap, writeSectionRecord layout 3 layout.journal,
      writeSectionRecord layout 4 layout.data] image

def writeSuperblockHeader (image : Image) : Image :=
  let image := writeBytes image 0 layout.superblockMagic
  let image := writeLe 2 image 16 layout.version
  let image := writeLe 2 image 18 vertexFsSectorSize
  let image := writeLe 4 image 24 vertexFsSectors
  writeLe 4 image 28 layout.featureFlags

/-- The second format names the volume in front of the generation. -/
def writeSuperblockNames (generation : Bytes) (image : Image) : Image :=
  let image := match layout.format with
    | .v1 => image
    | .v2 => writeBytes image 32 (fixedName 64 (utf8 "vol:vertexfs-root"))
  writeBytes image layout.generationOffset (fixedName 64 generation)

def writeSuperblock (generation : Bytes) (image : Image) : Image :=
  writeVertexFsSectorChecksum
    (writeSectionTable layout
      (writeSuperblockNames layout generation (writeSuperblockHeader layout image)))
    vertexFsSuperblock

def writeSectionHeader (part : VertexFsSection) (magic : Bytes) (version count : Nat)
    (image : Image) : Image :=
  let image := writeBytes image (part.address 0) magic
  let image := writeLe 2 image (part.address 16) version
  writeLe 2 image (part.address 18) count

def writeInode (index : Nat) (inode : VertexFsInode) (name : Bytes)
    (image : Image) : Image :=
  let offset := layout.inodeOffset index
  let image := writeLe 4 image offset inode.id
  let image := writeLe 2 image (offset + 4) inode.kind
  let image := writeLe 8 image (offset + 8) inode.size
  let image := writeLe 8 image (offset + 16) inode.firstSector
  let image := writeLe 4 image (offset + 24) inode.sectorCount
  let image := writeLe 4 image (offset + 28) inode.checksum
  let image := writeLe 4 image (offset + 32) inode.parent
  writeBytes image (offset + 36) (fixedName vertexFsInodeNameBytes name)

def declaredInode (id parent dataIndex : Nat) (payload : Bytes) :
    VertexFsInode where
  id := id
  kind := vertexFsKindFile
  size := payload.length
  firstSector := layout.data.firstSector + dataIndex
  sectorCount := 1
  checksum := vertexFsChecksum32 payload
  parent := parent

def readmeBytes : Bytes :=
  match layout.format with
  | .v1 => utf8 "VertexFS v1 root\n"
  | .v2 => utf8 "VertexFS v2 root\n"

def appABytes : Bytes := utf8 "vertexfs:a=1\n"

def writeInodes (layout : VertexFsLayout) : Nat → List (VertexFsInode × Bytes) → Image → Image
  | _, [], image => image
  | index, (inode, name) :: rest, image =>
    writeInodes layout (index + 1) rest (writeInode layout index inode name image)

def declaredInodes : List (VertexFsInode × Bytes) :=
  [(directoryInode vertexFsInodeRoot 0, utf8 "/"),
    (declaredInode layout vertexFsInodeReadme vertexFsInodeRoot 0 (readmeBytes layout),
      utf8 "readme"),
    (directoryInode vertexFsInodeAppDir vertexFsInodeRoot, utf8 "app"),
    (declaredInode layout vertexFsInodeAppA vertexFsInodeAppDir 1 appABytes, utf8 "a")]

def writeInodeTable (image : Image) : Image :=
  writeVertexFsSectorChecksum
    (writeInodes layout 0 (declaredInodes layout)
      (writeSectionHeader layout.inodeTable layout.inodeMagic layout.version
        vertexFsBaseInodeCount image))
    layout.inodeTable

structure VertexFsDirectoryEntry where
  parent : Nat
  child : Nat
  kind : Nat
  name : Bytes

def writeDirectoryEntry (index : Nat) (entry : VertexFsDirectoryEntry)
    (image : Image) : Image :=
  let offset := layout.directoryOffset index
  let image := writeLe 4 image offset entry.parent
  let image := writeLe 4 image (offset + 4) entry.child
  let image := writeLe 2 image (offset + 8) entry.kind
  writeBytes image (offset + 12) (fixedName vertexFsDirectoryNameBytes entry.name)

def writeDirectoryEntries (layout : VertexFsLayout) :
    Nat → List VertexFsDirectoryEntry → Image → Image
  | _, [], image => image
  | index, entry :: rest, image =>
    writeDirectoryEntries layout (index + 1) rest (writeDirectoryEntry layout index entry image)

def declaredEntries : List VertexFsDirectoryEntry :=
  [⟨vertexFsInodeRoot, vertexFsInodeReadme, vertexFsKindFile, utf8 "readme"⟩,
    ⟨vertexFsInodeRoot, vertexFsInodeAppDir, vertexFsKindDir, utf8 "app"⟩,
    ⟨vertexFsInodeAppDir, vertexFsInodeAppA, vertexFsKindFile, utf8 "a"⟩]

def writeDirectory (image : Image) : Image :=
  writeVertexFsSectorChecksum
    (writeDirectoryEntries layout 0 declaredEntries
      (writeSectionHeader layout.directory layout.directoryMagic layout.version
        vertexFsBaseDirectoryCount image))
    layout.directory

/-- Every sector up to and including the first two data sectors is in use. -/
def writeFreeMap (image : Image) : Image :=
  let image := writeSectionHeader layout.freeMap layout.freeMapMagic layout.version
    vertexFsSectors image
  let used := layout.data.firstSector + 2
  let image := writeBytes image (layout.freeMap.address vertexFsFreeMapOffset)
    (List.replicate used 1 ++ List.replicate (vertexFsSectors - used) 0)
  writeVertexFsSectorChecksum image layout.freeMap

def writePayloads (image : Image) : Image :=
  writeBytes (writeBytes image (layout.data.address 0) (readmeBytes layout))
    (layout.data.address vertexFsSectorSize) appABytes

def createImage (generation : Bytes) : Image :=
  writeFreeMap layout (writePayloads layout (journalCleanImage layout
    (writeDirectory layout (writeInodeTable layout
      (writeSuperblock layout generation fun _ => 0)))))

structure FieldText (maxLen : Nat) (text : Bytes) : Prop where
  nonempty : text ≠ []
  fits : text.length ≤ maxLen
  printable : text.all vertexFsNameByte

variable {maxLen : Nat}

theorem fixedName_length {name : Bytes} (fits : name.length ≤ maxLen) :
    (fixedName maxLen name).length = maxLen := by
  simp [fixedName]
  omega

theorem vertexFsFixedStringEq_fixedName {name : Bytes} (nonempty : name ≠ [])
    (fits : name.length ≤ maxLen) : vertexFsFixedStringEq (fixedName maxLen name) name := by
  unfold vertexFsFixedStringEq
  rw [fixedName_length fits]
  simp [nonempty, fits, fixedName]

theorem vertexFsFixedString_fixedName {text : Bytes} (field : FieldText maxLen text) :
    vertexFsFixedString (fixedName maxLen text) = .ok text := by
  have nonzero : ∀ byte ∈ text, decide (byte ≠ 0) = true := by
    intro byte member
    have printable := List.all_eq_true.mp field.printable byte member
    simp only [vertexFsNameByte, decide_eq_true_eq] at printable ⊢
    intro zero
    rw [zero] at printable
    exact absurd printable.1 (by decide)
  have taken : (fixedName maxLen text).takeWhile (· ≠ 0) = text := by
    unfold fixedName
    rw [List.takeWhile_append_of_pos nonzero]
    cases maxLen - text.length with
    | zero => simp
    | succ count => simp [List.replicate_succ]
  unfold vertexFsFixedString
  simp only [taken, field.printable, field.nonempty]
  simp [fixedName]

theorem readBytes_writeBytes_all {image : Image} {offset length : Nat} {bytes : Bytes}
    (all : bytes.length = length) :
    readBytes (writeBytes image offset bytes) offset length = bytes :=
  all ▸ readBytes_writeBytes_self image offset bytes

variable {layout : VertexFsLayout} {image : Image} {generation : Bytes} {offset length : Nat}

section

theorem vertexFsSuperblock_address (offset : Nat) : vertexFsSuperblock.address offset = offset := by
  simp [address, vertexFsSuperblock]

theorem volume_fieldText : FieldText 64 (utf8 "vol:vertexfs-root") := by
  constructor <;> decide

section

variable (placed : layout.Placed)
include placed

theorem superblockOk_writeSuperblock (field : FieldText 64 generation) (image : Image) :
    readBytes (writeSuperblock layout generation image) 0 16 = layout.superblockMagic ∧
      SuperblockOk layout (writeSuperblock layout generation image) generation := by
  have magicLength := placed.superblockMagic
  have nameLength := fixedName_length field.fits
  have volumeLength := fixedName_length volume_fieldText.fits
  have versionFit := placed.versionFit
  have flagsFit := placed.flagsFit
  have headerFit := placed.headerFit
  have volumeFit := placed.volumeFit
  have generationFit := placed.generationFit
  have row := placed.row
  have checksum := @checksumValid_writeVertexFsSectorChecksum (writeSectionTable layout
    (writeSuperblockNames layout generation (writeSuperblockHeader layout image)))
    vertexFsSuperblock
  have generationOk := vertexFsFixedString_fixedName field
  have volumeOk := vertexFsFixedString_fixedName volume_fieldText
  simp only [vertexFsSectors] at row
  refine ⟨?_, ⟨fun format => ?_, ?_, ?_, checksum, ?_, ?_, ?_, ?_, ?_, ?_, ?_, ?_⟩⟩
  all_goals
    simp only [sectionMatches, writeSuperblock, writeVertexFsSectorChecksum_eq,
      vertexFsSuperblock_address, vertexFsChecksumOffset, writeSectionTable, writeAll,
      List.foldl_cons, List.foldl_nil, writeSectionRecord, vertexFsSectionRecordLen,
      writeSuperblockNames, writeSuperblockHeader, vertexFsSectorSize, vertexFsSectors]
    cases isFormat : layout.format
  all_goals simp only [isFormat, reduceCtorEq, forall_const, false_imp_iff] at *
  all_goals
    simp (disch := omega) only [readLe_writeLe_apart, readLe_writeBytes_apart,
      readLe_writeLe_self, readBytes_writeLe_apart, readBytes_writeBytes_apart,
      readBytes_writeBytes_all, and_self, decide_true, generationOk, volumeOk]
  rfl

end

theorem layoutFromSuperblock_of_magic {format : VertexFsLayout}
    (known : format = vertexFsLayoutV1 ∨ format = vertexFsLayoutV2)
    (magic : readBytes image 0 16 = format.superblockMagic) :
    vertexFsLayoutFromSuperblock image = .ok format := by
  have length1 : vertexFsLayoutV1.superblockMagic.length = 16 := by decide
  have length2 : vertexFsLayoutV2.superblockMagic.length = 16 := by decide
  unfold vertexFsLayoutFromSuperblock vertexFsMagicMatches
  rw [length1, length2, vertexFsSuperblock_address, magic]
  rcases known with rfl | rfl
  · rw [if_neg (by decide), if_pos (by decide)]
  · rw [if_pos (by decide)]

end

section

variable {index other : Nat} {inode : VertexFsInode} {name : Bytes}
  {entries : List (VertexFsInode × Bytes)} {entry : VertexFsInode × Bytes}

theorem writeInode_eq : writeInode layout index inode name image = (let part := layout.inodeTable
     let start := 32 + index * 64
     let image := writeLe 4 image (part.address start) inode.id
     let image := writeLe 2 image (part.address (start + 4)) inode.kind
     let image := writeLe 8 image (part.address (start + 8)) inode.size
     let image := writeLe 8 image (part.address (start + 16)) inode.firstSector
     let image := writeLe 4 image (part.address (start + 24)) inode.sectorCount
     let image := writeLe 4 image (part.address (start + 28)) inode.checksum
     let image := writeLe 4 image (part.address (start + 32)) inode.parent
     writeBytes image (part.address (start + 36)) (fixedName vertexFsInodeNameBytes name)) := by
  simp only [writeInode, inodeOffset_eq, address_add]

theorem vertexFsChecksum32_lt (bytes : Bytes) : vertexFsChecksum32 bytes < 256 ^ 4 :=
  Nat.mod_lt _ (by decide)

theorem readmeBytes_length (layout : VertexFsLayout) : (readmeBytes layout).length = 17 := by
  unfold readmeBytes
  cases layout.format <;> decide

theorem declaredInodes_names (layout : VertexFsLayout) : ∀ entry ∈ declaredInodes layout,
    entry.2 ≠ [] ∧ entry.2.length ≤ vertexFsInodeNameBytes := by
  simp only [declaredInodes, List.forall_mem_cons]
  decide

section

variable (placed : layout.Placed)
include placed

theorem writeInodeTable_fields (image : Image) :
    readBytes (writeInodeTable layout image) (layout.inodeTable.address 0) 16 = layout.inodeMagic ∧
      readLe 2 (writeInodeTable layout image) (layout.inodeTable.address 16) = layout.version ∧
      layout.inodeTableCount (writeInodeTable layout image) = vertexFsBaseInodeCount ∧
      ∀ place entry, (declaredInodes layout)[place]? = some entry →
        layout.readInode (writeInodeTable layout image) place = entry.1 ∧
        layout.inodeNameField (writeInodeTable layout image) place =
          fixedName vertexFsInodeNameBytes entry.2 ∧
        layout.inodeReservedZero (writeInodeTable layout image) place =
          layout.inodeReservedZero image place := by
  have magicLength := placed.inodeMagic
  have versionFit := placed.versionFit
  have dataEnd := placed.dataEnd
  have dynamicFit := placed.dynamicFit
  have lengthReadme := readmeBytes_length layout
  have lengthAppA : appABytes.length = 13 := by decide
  have checksums := vertexFsChecksum32_lt
  have names := fun entry member => fixedName_length (declaredInodes_names layout entry member).2
  simp only [declaredInodes, List.forall_mem_cons, vertexFsInodeNameBytes, vertexFsSectors]
    at names dataEnd
  refine ⟨?_, ?_, ?_, fun place entry found => ?_⟩
  rotate_left 3
  · obtain _ | _ | _ | _ | place := place <;> cases found
    all_goals
      simp only [readInode, inodeNameField,
        inodeReservedZero, inodeOffset_eq, address_add,
        writeInodeTable, declaredInodes, writeInodes, writeInode_eq, writeSectionHeader,
        writeVertexFsSectorChecksum_eq, vertexFsChecksumOffset, vertexFsInodeNameBytes,
        declaredInode, directoryInode]
      simp (disch := first | omega | decide | exact checksums _) only [readLe_payload_apart,
        readLe_field_apart, readBytes_payload_apart, readBytes_field_apart, readLe_writeLe_self,
        readBytes_writeBytes_all, and_self]
  all_goals
    simp only [writeInodeTable, declaredInodes, writeInodes, writeInode_eq, writeSectionHeader,
      writeVertexFsSectorChecksum_eq, vertexFsChecksumOffset, inodeTableCount,
      vertexFsBaseInodeCount, vertexFsInodeNameBytes]
    simp (disch := omega) only [readLe_payload_apart, readLe_field_apart,
      readBytes_payload_apart, readBytes_field_apart, readLe_writeLe_self,
      readBytes_writeBytes_all]

def SectionZero (part : VertexFsSection) (image : Image) : Prop :=
  ∀ address, part.At address → image address = 0

theorem inodeReservedZero_of_zero (zero : SectionZero layout.inodeTable image) (index : Nat)
    (inside : index < vertexFsBaseInodeCount + layout.dynamicFileCapacity) :
    layout.inodeReservedZero image index := by
  have agree : SectionAgree layout.inodeTable image (fun _ => 0) := zero
  rw [(inode_agree placed agree index inside).2.2]
  unfold inodeReservedZero readLe readBytes
  simp [List.range_succ, leNat]

theorem InodeTableOk_writeInodeTable (zero : SectionZero layout.inodeTable image) :
    layout.InodeTableOk (writeInodeTable layout image) := by
  obtain ⟨magic, version, countEq, entries⟩ := writeInodeTable_fields placed image
  have base : vertexFsBaseInodeCount = 4 := rfl
  have reserved := fun index (inside : index < 4) =>
    inodeReservedZero_of_zero placed zero index (by omega)
  have directoryOk : ∀ place id parent name, place < 4 → name ≠ [] →
      name.length ≤ vertexFsInodeNameBytes →
      (declaredInodes layout)[place]? = some (directoryInode id parent, name) →
      layout.directoryInodeOk (writeInodeTable layout image) place id parent name := by
    intro place id parent name inside nonempty fits found
    obtain ⟨inode, field, kept⟩ := entries place _ found
    simp only [directoryInodeOk, inodeNameEq, inode, field, kept,
      reserved place inside, vertexFsFixedStringEq_fixedName nonempty fits, and_self, decide_true]
  have fileOk : ∀ place id parent dataIndex payload name, place < 4 → name ≠ [] →
      name.length ≤ vertexFsInodeNameBytes →
      (declaredInodes layout)[place]? =
        some (declaredInode layout id parent dataIndex payload, name) →
      layout.fileInodeOk (writeInodeTable layout image) place id parent name := by
    intro place id parent dataIndex payload name inside nonempty fits found
    obtain ⟨inode, field, kept⟩ := entries place _ found
    simp only [fileInodeOk, inodeNameEq, inode, field, kept,
      reserved place inside, vertexFsFixedStringEq_fixedName nonempty fits, declaredInode,
      and_self, decide_true]
  refine ⟨?_, version, checksumValid_writeVertexFsSectorChecksum, by omega, by omega,
    directoryOk 0 _ _ _ (by omega) (by decide) (by decide) rfl,
    fileOk 1 _ _ _ _ _ (by omega) (by decide) (by decide) rfl,
    directoryOk 2 _ _ _ (by omega) (by decide) (by decide) rfl,
    fileOk 3 _ _ _ _ _ (by omega) (by decide) (by decide) rfl, ?_⟩
  · rw [vertexFsMagicMatches, placed.inodeMagic, magic]
    simp
  · intro index inside
    omega

end

end

section

variable {second : Image} {index : Nat} {entry : VertexFsDirectoryEntry}
  {entries : List VertexFsDirectoryEntry}

theorem writeDirectoryEntry_eq : writeDirectoryEntry layout index entry image =
    (let part := layout.directory
     let start := 32 + index * 64
     let image := writeLe 4 image (part.address start) entry.parent
     let image := writeLe 4 image (part.address (start + 4)) entry.child
     let image := writeLe 2 image (part.address (start + 8)) entry.kind
     writeBytes image (part.address (start + 12))
      (fixedName vertexFsDirectoryNameBytes entry.name)) := by
  simp only [writeDirectoryEntry, directoryOffset_eq, address_add]

theorem declaredEntries_names : ∀ entry ∈ declaredEntries,
    entry.name ≠ [] ∧ entry.name.length ≤ vertexFsDirectoryNameBytes := by
  simp only [declaredEntries, List.forall_mem_cons]
  decide

theorem readLe_zero {width offset : Nat} : readLe width (fun _ => 0) offset = 0 := by
  have zeros : ∀ count, leNat (List.replicate count 0) = 0 := by
    intro count
    induction count with
    | zero => rfl
    | succ count ih => simp [List.replicate_succ, leNat, ih]
  unfold readLe readBytes
  rw [List.map_const', List.length_range]
  exact zeros width

theorem DirectoryOk_writeDirectory (placed : layout.Placed)
    (zero : SectionZero layout.directory image) :
    layout.DirectoryOk (writeDirectory layout image) [] := by
  have magicLength := placed.directoryMagic
  have versionFit := placed.versionFit
  have directoryCount := placed.directoryCount
  have names := fun entry member => fixedName_length (declaredEntries_names entry member).2
  have entryName := fun entry member => vertexFsFixedStringEq_fixedName
    (declaredEntries_names entry member).1 (declaredEntries_names entry member).2
  simp only [declaredEntries, List.forall_mem_cons, vertexFsDirectoryNameBytes,
    vertexFsDirectoryEntryLen] at names entryName
  have reserved {place : Nat} (inside : place < 512) :
      readLe 2 image (layout.directory.address place) = 0 := by
    have agree : SectionAgree layout.directory image (fun _ => 0) := zero
    rw [agree.readLe_eq, readLe_zero]
    simp only [byteCount, vertexFsSectorSize]
    omega
  refine ⟨?_, ?_, checksumValid_writeVertexFsSectorChecksum, ?_, by simp, ?_, ?_, ?_, by simp⟩
  all_goals
    simp only [vertexFsMagicMatches, directoryEntryEq,
      VertexFsLayout.directoryCount, directoryOffset_eq, address_add,
      writeDirectory, declaredEntries, writeDirectoryEntries, writeDirectoryEntry_eq, writeSectionHeader,
      writeVertexFsSectorChecksum_eq, vertexFsChecksumOffset, vertexFsDirectoryNameBytes,
      vertexFsDirectoryEntryLen, vertexFsBaseDirectoryCount, magicLength]
    simp (disch := first | omega | decide) only [readLe_payload_apart, readLe_field_apart,
      readBytes_payload_apart, readBytes_field_apart, readLe_writeLe_self,
      readBytes_writeBytes_all, reserved, entryName, and_self, decide_true, List.length_nil]

end

theorem freeMapByte_writeFreeMap (placed : layout.Placed) (image : Image) {sector : Nat}
    (inside : sector < vertexFsSectors) :
    layout.freeMapByte (writeFreeMap layout image) sector =
      if sector < layout.data.firstSector + 2 then 1 else 0 := by
  have dataEnd := placed.dataEnd
  have dynamicFit := placed.dynamicFit
  simp only [vertexFsSectors] at dataEnd inside
  unfold freeMapByte writeFreeMap
  rw [writeVertexFsSectorChecksum_eq, writeLe_outside]
  · have place : layout.freeMap.address (vertexFsFreeMapOffset + sector) =
        layout.freeMap.address vertexFsFreeMapOffset + sector := by
      simp only [address]
      omega
    have long : sector < (List.replicate (layout.data.firstSector + 2) (1 : UInt8) ++
        List.replicate (vertexFsSectors - (layout.data.firstSector + 2)) 0).length := by
      simp only [List.length_append, List.length_replicate, vertexFsSectors]
      omega
    rw [place, writeBytes_inside long, List.get_eq_getElem, List.getElem_append]
    simp
  · simp only [address, vertexFsChecksumOffset, vertexFsFreeMapOffset]
    omega

def createdInodes (layout : VertexFsLayout) : VertexFsParsedInodes where
  readme := declaredInode layout vertexFsInodeReadme vertexFsInodeRoot 0 (readmeBytes layout)
  appA := declaredInode layout vertexFsInodeAppA vertexFsInodeAppDir 1 appABytes
  dynamic := []

theorem allocated_createdInodes (placed : layout.Placed) {sector : Nat} :
    layout.Allocated (createdInodes layout) sector ↔ sector < layout.data.firstSector + 2 := by
  have row := placed.row
  simp only [vertexFsSectors] at row
  simp only [VertexFsLayout.Allocated, Has, VertexFsInode.Covers,
    VertexFsInode.endSector, createdInodes, declaredInode, List.not_mem_nil, false_and,
    exists_false, or_false]
  omega

theorem FreeMapOk_writeFreeMap (placed : layout.Placed) :
    layout.FreeMapOk (writeFreeMap layout image) (createdInodes layout) := by
  have byte := fun sector (inside : sector < vertexFsSectors) =>
    freeMapByte_writeFreeMap placed image inside
  have magicLength := placed.freeMapMagic
  have versionFit := placed.versionFit
  refine ⟨?_, ?_, checksumValid_writeVertexFsSectorChecksum, ?_, ?_, ?_⟩
  iterate 3
    simp only [vertexFsMagicMatches, writeFreeMap, writeSectionHeader,
      writeVertexFsSectorChecksum_eq, vertexFsChecksumOffset, vertexFsFreeMapOffset,
      vertexFsSectors, magicLength]
    simp (disch := omega) only [readLe_payload_apart, readLe_field_apart, readBytes_payload_apart,
      readBytes_field_apart, readLe_writeLe_self, readBytes_writeBytes_all, decide_true]
  · intro sector inside
    rw [byte sector inside]
    split_ifs <;> simp
  · intro sector inside
    rw [byte sector inside, allocated_createdInodes placed]
    split_ifs with used <;> simp [used]

section Created

theorem writeSectionHeader_outside {part : VertexFsSection} {magic : Bytes} {version count : Nat}
    (magicLength : magic.length = 16) (nonempty : 1 ≤ part.sectorCount) :
    UnchangedOutside part image (writeSectionHeader part magic version count image) := by
  have large : 512 ≤ part.byteCount := by
    simp only [byteCount, vertexFsSectorSize]
    omega
  exact ((unchangedOutside_writeBytes (by omega)).trans (unchangedOutside_writeLe (by omega))).trans
    (unchangedOutside_writeLe (by omega))

theorem stored_writePayloads (layout : VertexFsLayout) (image : Image) :
    (createdInodes layout).readme.stored (writePayloads layout image) = readmeBytes layout ∧
      (createdInodes layout).appA.stored (writePayloads layout image) = appABytes := by
  have lengthReadme := readmeBytes_length layout
  have lengthAppA : appABytes.length = 13 := by decide
  constructor
  · have place : (createdInodes layout).readme.firstSector * vertexFsSectorSize =
        layout.data.address 0 := by
      simp [createdInodes, declaredInode, address]
    have size : (createdInodes layout).readme.size = (readmeBytes layout).length := rfl
    rw [VertexFsInode.stored, place, size, writePayloads, readBytes_payload_apart,
      readBytes_writeBytes_self]
    simp only [vertexFsSectorSize]
    omega
  · have place : (createdInodes layout).appA.firstSector * vertexFsSectorSize =
        layout.data.address vertexFsSectorSize := by
      simp only [createdInodes, declaredInode, address]
      ring
    have size : (createdInodes layout).appA.size = appABytes.length := rfl
    rw [VertexFsInode.stored, place, size, writePayloads, readBytes_writeBytes_self]

section Placed

variable (placed : layout.Placed)
include placed

theorem writeSuperblock_outside (field : FieldText 64 generation) :
    UnchangedOutside vertexFsSuperblock image (writeSuperblock layout generation image) := by
  have magicLength := placed.superblockMagic
  have nameLength := fixedName_length field.fits
  have volumeLength := fixedName_length volume_fieldText.fits
  have generationFit := placed.generationFit
  have sectionsFit := placed.sectionsFit
  simp only [vertexFsSectorSize, vertexFsSectionRecordLen] at sectionsFit
  refine .trans ?_ (writeVertexFsSectorChecksum_outside (by decide))
  intro address outside
  have behind : 512 ≤ address := by
    simp only [At, VertexFsSection.address, byteCount,
      vertexFsSuperblock, vertexFsSectorSize] at outside
    omega
  simp only [writeSectionTable, writeAll, List.foldl_cons, List.foldl_nil, writeSectionRecord,
    vertexFsSectionRecordLen, writeSuperblockNames, writeSuperblockHeader]
  cases layout.format <;> simp (disch := omega) only [writeLe_outside, writeBytes_outside]

theorem writeInodeTable_outside :
    UnchangedOutside layout.inodeTable image (writeInodeTable layout image) := by
  have tableCount := placed.tableCount
  have inodesFit := placed.inodesFit
  have magicLength := placed.inodeMagic
  have names := fun entry member => fixedName_length (declaredInodes_names layout entry member).2
  intro address outside
  simp only [declaredInodes, List.forall_mem_cons, vertexFsInodeNameBytes] at names
  simp only [writeInodeTable, declaredInodes, writeInodes, writeInode_eq, writeSectionHeader,
    writeVertexFsSectorChecksum_eq, At, VertexFsSection.address,
    byteCount, vertexFsSectorSize, vertexFsChecksumOffset, vertexFsInodeNameBytes,
    vertexFsInodeEntryOffset, vertexFsInodeEntryLen, vertexFsBaseInodeCount] at *
  simp (disch := omega) only [writeLe_outside, writeBytes_outside]

theorem writeDirectory_outside (image : Image) :
    UnchangedOutside layout.directory image (writeDirectory layout image) := by
  have directoryCount := placed.directoryCount
  have entriesFit := placed.entriesFit
  have magicLength := placed.directoryMagic
  have names := fun entry member => fixedName_length (declaredEntries_names entry member).2
  intro address outside
  simp only [declaredEntries, List.forall_mem_cons, vertexFsDirectoryNameBytes,
    vertexFsDirectoryEntryLen] at names
  simp only [writeDirectory, declaredEntries, writeDirectoryEntries, writeDirectoryEntry_eq,
    writeSectionHeader, writeVertexFsSectorChecksum_eq, At,
    VertexFsSection.address, byteCount, vertexFsSectorSize,
    vertexFsChecksumOffset, vertexFsDirectoryNameBytes, vertexFsDirectoryEntryOffset,
    vertexFsDirectoryEntryLen, vertexFsBaseDirectoryCount] at *
  simp (disch := omega) only [writeLe_outside, writeBytes_outside]

theorem writeFreeMap_outside :
    UnchangedOutside layout.freeMap image (writeFreeMap layout image) := by
  have size : layout.freeMap.byteCount = 512 := by
    simp [byteCount, placed.freeMapCount, vertexFsSectorSize]
  have dataEnd := placed.dataEnd
  have dynamicFit := placed.dynamicFit
  simp only [vertexFsSectors] at dataEnd
  refine ((writeSectionHeader_outside placed.freeMapMagic (by rw [placed.freeMapCount])).trans
    (unchangedOutside_writeBytes ?_)).trans
    (writeVertexFsSectorChecksum_outside (by rw [placed.freeMapCount]))
  simp only [List.length_append, List.length_replicate, vertexFsFreeMapOffset, vertexFsSectors]
  omega

theorem writePayloads_outside :
    UnchangedOutside layout.data image (writePayloads layout image) := by
  have dynamicFit := placed.dynamicFit
  have lengthReadme := readmeBytes_length layout
  have lengthAppA : appABytes.length = 13 := by decide
  have size : 1024 ≤ layout.data.byteCount := by
    simp only [byteCount, vertexFsSectorSize]
    omega
  refine (unchangedOutside_writeBytes ?_).trans (unchangedOutside_writeBytes ?_)
  · omega
  · simp only [vertexFsSectorSize]
    omega

theorem createImage_agree (generation : Bytes) :
    let superblock := writeSuperblock layout generation fun _ => 0
    let table := writeInodeTable layout superblock
    let directory := writeDirectory layout table
    let journal := journalCleanImage layout directory
    let payloads := writePayloads layout journal
    SectionAgree vertexFsSuperblock superblock (createImage layout generation) ∧
      SectionAgree layout.inodeTable table (createImage layout generation) ∧
      SectionAgree layout.directory directory (createImage layout generation) ∧
      SectionAgree layout.journal journal (createImage layout generation) ∧
      SectionAgree layout.data payloads (createImage layout generation) := by
  intro superblock table directory journal payloads
  have row := placed.row
  have toTable : UnchangedOutside layout.inodeTable superblock table :=
    writeInodeTable_outside placed
  have toDirectory : UnchangedOutside layout.directory table directory :=
    writeDirectory_outside placed table
  have toJournal : UnchangedOutside layout.journal directory journal :=
    journalCleanImage_outside placed directory
  have toPayloads : UnchangedOutside layout.data journal payloads := writePayloads_outside placed
  have toFreeMap : UnchangedOutside layout.freeMap payloads (createImage layout generation) :=
    writeFreeMap_outside placed
  have apart : ∀ {part other : VertexFsSection},
      part.firstSector + part.sectorCount ≤ other.firstSector ∨
        other.firstSector + other.sectorCount ≤ part.firstSector → part.Apart other := id
  have first : vertexFsSuperblock.firstSector + vertexFsSuperblock.sectorCount = 1 := rfl
  refine ⟨?_, ?_, ?_, ?_, ?_⟩
  · exact ((((toTable.agree (apart (by omega))).trans (toDirectory.agree (apart (by omega)))).trans
      (toJournal.agree (apart (by omega)))).trans (toPayloads.agree (apart (by omega)))).trans
      (toFreeMap.agree (apart (by omega)))
  · exact (((toDirectory.agree (apart (by omega))).trans
      (toJournal.agree (apart (by omega)))).trans (toPayloads.agree (apart (by omega)))).trans
      (toFreeMap.agree (apart (by omega)))
  · exact ((toJournal.agree (apart (by omega))).trans (toPayloads.agree (apart (by omega)))).trans
      (toFreeMap.agree (apart (by omega)))
  · exact (toPayloads.agree (apart (by omega))).trans (toFreeMap.agree (apart (by omega)))
  · exact toFreeMap.agree (apart (by omega))

theorem parsedInodes_writeInodeTable :
    layout.parsedInodes (writeInodeTable layout image) = createdInodes layout := by
  obtain ⟨-, -, countEq, entries⟩ := writeInodeTable_fields placed image
  have readme := (entries 1 _ rfl).1
  have appA := (entries 3 _ rfl).1
  unfold parsedInodes createdInodes
  rw [countEq, readme, appA, Nat.sub_self]
  rfl

theorem declaredInode_extentOk {id parent dataIndex : Nat} {payload : Bytes}
    (dataFits : dataIndex < 2) (payloadFits : payload.length ≤ 512) :
    (declaredInode layout id parent dataIndex payload).ExtentOk layout := by
  have dataEnd := placed.dataEnd
  have dynamicFit := placed.dynamicFit
  simp only [vertexFsSectors] at dataEnd
  constructor <;>
    simp only [declaredInode, VertexFsInode.endSector, vertexFsSectorSize,
      maxVertexFsFileBytes] <;> omega

theorem sections_zero (field : FieldText 64 generation) :
    SectionZero layout.inodeTable (writeSuperblock layout generation fun _ => 0) ∧
      SectionZero layout.directory
        (writeInodeTable layout (writeSuperblock layout generation fun _ => 0)) := by
  have tableFirst := placed.tableFirst
  have tableEnd := placed.tableEnd
  have toSuperblock : UnchangedOutside vertexFsSuperblock (fun _ => 0)
      (writeSuperblock layout generation fun _ => 0) := writeSuperblock_outside placed field
  have tableApart : layout.inodeTable.Apart vertexFsSuperblock := Or.inr tableFirst.ge
  have directoryApart : layout.directory.Apart vertexFsSuperblock := by
    right
    simp only [vertexFsSuperblock]
    omega
  have directoryTable : layout.directory.Apart layout.inodeTable := Or.inr tableEnd.le
  constructor
  · exact fun address inside => ((toSuperblock.agree tableApart) address inside).symm
  · exact fun address inside => (((toSuperblock.agree directoryApart).trans
      ((writeInodeTable_outside placed).agree directoryTable)) address inside).symm

theorem SectionAgree.declared {second : Image} {id parent dataIndex : Nat} {payload : Bytes}
    (agree : SectionAgree layout.data image second) (dataFits : dataIndex < 2) :
    SectionAgree (declaredInode layout id parent dataIndex payload).extent image second := by
  have dynamicFit := placed.dynamicFit
  intro address inside
  refine agree address ?_
  simp only [At, VertexFsSection.address, byteCount,
    VertexFsInode.extent, declaredInode, vertexFsSectorSize] at inside ⊢
  constructor <;> linarith [inside.1, inside.2]

end Placed

/-- The kernel accepts what the tool creates, and finds the two declared files in it. -/
theorem cleanImage_createImage (known : layout = vertexFsLayoutV1 ∨ layout = vertexFsLayoutV2)
    (field : FieldText 64 generation) :
    CleanImage layout (createImage layout generation) generation ∧
      layout.parsedInodes (createImage layout generation) = createdInodes layout ∧
      (createdInodes layout).readme.stored (createImage layout generation) = readmeBytes layout ∧
      (createdInodes layout).appA.stored (createImage layout generation) = appABytes := by
  have placed : layout.Placed := by
    rcases known with rfl | rfl
    · exact vertexFsLayoutV1_placed
    · exact vertexFsLayoutV2_placed
  obtain ⟨superblock, table, directory, journal, data⟩ := createImage_agree placed generation
  obtain ⟨tableZero, directoryZero⟩ := sections_zero placed field
  have lengthReadme := readmeBytes_length layout
  obtain ⟨magic, superblockOk⟩ := superblockOk_writeSuperblock placed field fun _ => 0
  have format := layoutFromSuperblock_of_magic known magic
  have checked := checkSuperblock_of_ok superblockOk
  rw [(superblock_agree placed superblock).1] at format
  rw [(superblock_agree placed superblock).2] at checked
  have tableOk := InodeTableOk_writeInodeTable placed tableZero
  have inodes := parsedInodes_agree placed table tableOk
  rw [parsedInodes_writeInodeTable placed] at inodes
  have readmeExtent : (createdInodes layout).readme.ExtentOk layout :=
    declaredInode_extentOk placed (by decide) (by omega)
  have appAExtent : (createdInodes layout).appA.ExtentOk layout :=
    declaredInode_extentOk placed (by decide) (by decide)
  obtain ⟨readmeStored, appAStored⟩ := stored_writePayloads layout
    (journalCleanImage layout (writeDirectory layout (writeInodeTable layout
      (writeSuperblock layout generation fun _ => 0))))
  rw [stored_agree readmeExtent (data.declared placed (by decide))] at readmeStored
  rw [stored_agree appAExtent (data.declared placed (by decide))] at appAStored
  have directoryOk : layout.DirectoryOk (createImage layout generation)
      (layout.parsedInodes (createImage layout generation)).dynamic := by
    have apart : layout.inodeTable.Apart layout.directory := Or.inl placed.tableEnd.le
    have kept := (writeDirectory_outside placed (writeInodeTable layout
      (writeSuperblock layout generation fun _ => 0))).agree apart
    have keptInodes := parsedInodes_agree placed kept tableOk
    rw [parsedInodes_writeInodeTable placed] at keptInodes
    apply DirectoryOk_agree placed (kept.symm.trans table) directory
      (InodeTableOk_agree placed kept tableOk)
    rw [← keptInodes]
    exact DirectoryOk_writeDirectory placed directoryZero
  refine ⟨⟨⟨format, checked, InodeTableOk_agree placed table tableOk, directoryOk, ?_, ?_, ?_, ?_,
    ?_, ?_⟩, ?_, ?_⟩, inodes.symm, readmeStored, appAStored⟩
  all_goals try rw [← inodes]
  · exact readmeExtent
  · rw [VertexFsInode.ChecksumOk, readmeStored]
    rfl
  · exact appAExtent
  · simp only [createdInodes, declaredInode, VertexFsInode.Overlaps, VertexFsInode.endSector]
    omega
  · constructor <;> simp [createdInodes]
  · exact FreeMapOk_writeFreeMap placed
  · rw [← parseJournal_agree placed journal]
    exact parseJournal_clean placed _
  · rw [VertexFsInode.ChecksumOk, appAStored]
    rfl

def createdFiles (layout : VertexFsLayout) (generation : Bytes) : VertexFsBootFiles where
  generation := generation
  readme := { inode := (createdInodes layout).readme, payload := readmeBytes layout }
  appA := { inode := (createdInodes layout).appA, payload := appABytes }
  journalReplayed := false

theorem parseVertexFsImage_createImage
    (known : layout = vertexFsLayoutV1 ∨ layout = vertexFsLayoutV2)
    (field : FieldText 64 generation) :
    parseVertexFsImage (createImage layout generation) = .ok (createdFiles layout generation) := by
  obtain ⟨clean, inodes, readme, appA⟩ := cleanImage_createImage known field
  rw [parseVertexFsImage_clean clean.body clean.journal clean.checksum,
    bootFiles, inodes, readme, appA]
  rfl

end Created

end VertexOS
