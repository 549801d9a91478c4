import VertexOS.FailingCalls
import VertexOS.GenerationMetadata
import VertexOS.VertexIr

/-!
# Disk images of the host tool

The tool writes one section after the other, and none of them touches the superblock.
-/

namespace VertexOS.DiskImage

open ByteStrings ByteImages FailingCalls VertexIr

def storeIndexMagic : Bytes := utf8 "VDISKSTOREV0" ++ List.replicate 4 0
def stateIndexMagic : Bytes := utf8 "VDISKSTATEV0" ++ List.replicate 4 0
def graphStoreMagic : Bytes := utf8 "VDISKGRAPHV0" ++ List.replicate 4 0
def storeEntryOffset : Nat := 32
def storeEntryLen : Nat := 144
def stateEntryOffset : Nat := 32
def stateEntryLen : Nat := 84
def krustStateVolumeLimit : Nat := 4

def generationMetadataSector : Nat := 1
def storeIndexSector : Nat := 2
def storeIndexSectors : Nat := 16
def storeDataSector : Nat := 32
def storeDataSectors : Nat := 49152
def stateIndexSector : Nat := storeDataSector + storeDataSectors
def stateDataSector : Nat := stateIndexSector + 1
def stateDataSectors : Nat := 8
def journalSector : Nat := stateDataSector + stateDataSectors
def journalSectors : Nat := 16
def vertexFsImageSector : Nat := journalSector + journalSectors
def vertexFsImageSectors : Nat := 64
def graphStoreSector : Nat := vertexFsImageSector + vertexFsImageSectors
def graphStoreSectors : Nat := 128

structure StorePayload where
  id : String
  bytes : Bytes
  sector : Nat

structure StateEntry where
  id : String
  dataSector : Nat
  valueLen : Nat
  checksum : Nat

structure GraphStoreImage where
  generationId : String
  nodeCount : Nat
  edgeCount : Nat
  records : Bytes
  checksum : Nat
  hash : String

structure HostTool where
  storePayloads : List GenerationManifest → Except String (List StorePayload)
  graphStoreImage : GenerationManifest → Except String GraphStoreImage
  vertexFsImage : GenerationManifest → VertexFsFormat → Except String Bytes
  storeHashHex : Bytes → String

def placeSectors (image : Image) (first count : Nat) (part : Image) : Image := fun address =>
  if first * diskSectorSize ≤ address ∧ address < (first + count) * diskSectorSize then
    part (address - first * diskSectorSize)
  else image address

def writeSectorBytes (image : Image) (startSector : Nat) (bytes : Bytes) : Image :=
  writeBytes image (startSector * diskSectorSize) bytes

def sectorsForLen (len : Nat) : Nat := max ((len + diskSectorSize - 1) / diskSectorSize) 1

def writeChecksum (length : Nat) (part : Image) : Image :=
  writeLe 4 part diskChecksumOffset (metadataChecksum part 0 length)

def writeIndexHeader (magic : Bytes) (count : Nat) (part : Image) : Image :=
  let part := writeBytes part 0 magic
  let part := writeLe 2 part diskVersionOffset vertexDiskVersion
  writeLe 2 part 18 count

def writeSuperblock (image : Image) : Image :=
  -- the image is still empty
  placeSectors image 0 1 createdSuperblock

def generationMetadataCapacity : Nat := (diskSectorSize - metadataEntryOffset) / metadataEntryLen

def writeGenerationMetadata (selected : String) (others : List String) (image : Image) :
    Except String Image := do
  refuseIf (generationMetadataCapacity < others.length + 1 ∨ 2 ^ 16 ≤ others.length + 1)
    s!"VertexDisk generation metadata holds at most {generationMetadataCapacity} generations"
  return placeSectors image generationMetadataSector 1 (createdMetadata selected others)

/-- Objects one behind the other from sector `cursor` on, and where the next one would be. -/
def assignFrom (cursor : Nat) : List StorePayload → Except String (List StorePayload × Nat)
  | [] => .ok ([], cursor)
  | object :: rest => do
    let next := cursor + sectorsForLen object.bytes.length
    refuseIf (2 ^ 64 ≤ next) "VertexDisk store payload sector overflow"
    let (placed, last) ← assignFrom next rest
    return ({ object with sector := cursor } :: placed, last)

def assignStoreSectors (objects : List StorePayload) : Except String (List StorePayload) := do
  let (placed, cursor) ← assignFrom storeDataSector objects
  let required := cursor - storeDataSector
  refuseIf (storeDataSector + storeDataSectors < cursor)
    s!"VertexDisk store payloads require {required} sectors, capacity is {storeDataSectors}"
  return placed

def storeIndexLen : Nat := storeIndexSectors * diskSectorSize

def HostTool.writeStoreEntry (tool : HostTool) (part : Image) (entry : StorePayload × Nat) :
    Except String Image := do
  let (object, index) := entry
  let offset := storeEntryOffset + index * storeEntryLen
  refuseIf (storeIndexLen < offset + storeEntryLen)
    s!"VertexDisk store index holds at most {(storeIndexLen - storeEntryOffset) / storeEntryLen} objects"
  let part := writeFixedString part offset (hostString object.id)
  let part := writeLe 8 part (offset + 64) object.sector
  let part := writeLe 4 part (offset + 72) object.bytes.length
  let part := writeLe 4 part (offset + 76) (vertexFsChecksum32 object.bytes)
  return writeFixedString part (offset + 80) (hostString (tool.storeHashHex object.bytes))

def HostTool.writeStoreIndex (tool : HostTool) (objects : List StorePayload) (image : Image) :
    Except String Image := do
  let part ← objects.zipIdx.foldlM tool.writeStoreEntry
    (writeIndexHeader storeIndexMagic objects.length (sectorOf image storeIndexSector))
  return placeSectors image storeIndexSector storeIndexSectors (writeChecksum storeIndexLen part)

def stateIds (manifests : List GenerationManifest) : List String :=
  ((manifests.flatMap (·.stateVolumes)).map (·.id)).dedup.mergeSort (· ≤ ·)

def stateIndexCapacity : Nat := (diskSectorSize - stateEntryOffset) / stateEntryLen

def stateEntry (entry : String × Nat) : Except String StateEntry := do
  let (id, index) := entry
  refuseIf (¬(utf8 "state:").isPrefixOf (utf8 id))
    s!"VertexDisk state volume {id} must use state: namespace"
  refuseIf (64 < (utf8 id).length) s!"VertexDisk state volume id {id} exceeds 64 bytes"
  return ⟨id, stateDataSector + index, 0, 0⟩

def stateEntries (manifests : List GenerationManifest) : Except String (List StateEntry) := do
  let ids := stateIds manifests
  refuseIf (stateIndexCapacity < ids.length)
    s!"VertexDisk state index holds at most {stateIndexCapacity} volumes"
  refuseIf (krustStateVolumeLimit < ids.length)
    s!"Krust native runtime supports at most {krustStateVolumeLimit} state volumes"
  refuseIf (stateDataSectors < ids.length)
    s!"VertexDisk state volumes require {ids.length} sectors, capacity is {stateDataSectors}"
  ids.zipIdx.mapM stateEntry

def writeStateEntry (part : Image) (entry : StateEntry × Nat) : Except String Image := do
  let (state, index) := entry
  let offset := stateEntryOffset + index * stateEntryLen
  refuseIf (diskSectorSize < offset + stateEntryLen)
    s!"VertexDisk state index holds at most {stateIndexCapacity} volumes"
  let part := writeFixedString part offset (hostString state.id)
  let part := writeLe 8 part (offset + 64) state.dataSector
  let part := writeLe 4 part (offset + 72) 1
  let part := writeLe 4 part (offset + 76) state.valueLen
  return writeLe 4 part (offset + 80) state.checksum

def writeStateIndex (entries : List StateEntry) (image : Image) : Except String Image := do
  let part ← entries.zipIdx.foldlM writeStateEntry
    (writeIndexHeader stateIndexMagic entries.length (sectorOf image stateIndexSector))
  return placeSectors image stateIndexSector 1 (writeChecksum diskSectorSize part)

def writeStorePayloads (objects : List StorePayload) (image : Image) : Image :=
  objects.foldl (fun image object => writeSectorBytes image object.sector object.bytes) image

def HostTool.writeVertexFsImage (tool : HostTool) (manifest : GenerationManifest)
    (format : VertexFsFormat) (image : Image) : Except String Image := do
  let bytes ← tool.vertexFsImage manifest format
  let expected := vertexFsImageSectors * diskSectorSize
  refuseIf (bytes.length ≠ expected)
    s!"VertexDisk VertexFS section expected {expected} bytes, builder returned {bytes.length}"
  return writeSectorBytes image vertexFsImageSector bytes

def graphStoreHeader (store : GraphStoreImage) (dataSector : Nat) : Except String Image := do
  refuseIf (64 < (utf8 store.generationId).length ∨ 64 < (utf8 store.hash).length)
    "VertexDisk graph store header invalid: FixedStringTooLong"
  let header := writeBytes (fun _ => 0) 0 graphStoreMagic
  let header := writeLe 2 header diskVersionOffset vertexDiskVersion
  let header := writeLe 2 header 18 1
  let header := writeFixedString header 32 (utf8 store.generationId)
  let header := writeLe 2 header 96 store.nodeCount
  let header := writeLe 2 header 98 store.edgeCount
  let header := writeLe 8 header 100 dataSector
  let header := writeLe 4 header 108 store.records.length
  let header := writeLe 4 header 112 store.checksum
  return writeChecksum diskSectorSize (writeFixedString header 116 (utf8 store.hash))

def writeGraphStores (cursor : Nat) : List GraphStoreImage → Image → Except String Image
  | [], image => .ok image
  | store :: rest, image => do
    refuseIf (2 ^ 16 ≤ store.nodeCount ∨ 2 ^ 16 ≤ store.edgeCount)
      "VertexDisk graph store count exceeds u16"
    refuseIf (2 ^ 32 ≤ store.records.length)
      "VertexDisk graph store byte length exceeds u32"
    let objectSectors := 1 + sectorsForLen store.records.length
    refuseIf (graphStoreSector + graphStoreSectors < cursor + objectSectors)
      s!"VertexDisk graph stores require more than {graphStoreSectors} sectors"
    let header ← graphStoreHeader store (cursor + 1)
    writeGraphStores (cursor + objectSectors) rest
      (writeSectorBytes (placeSectors image cursor 1 header) (cursor + 1) store.records)

def HostTool.createImage (tool : HostTool) (graphOnly : List GenerationManifest)
    (format : VertexFsFormat) : List GenerationManifest → Except String Image
  | [] => .error "usage: vertexctl create-vertex-disk <output> <manifest>..."
  | first :: others => do
    let manifests := first :: others ++ graphOnly
    let states ← stateEntries manifests
    let payloads ← tool.storePayloads manifests
    let graphStores ← manifests.mapM tool.graphStoreImage
    let objects ← assignStoreSectors payloads
    let image ← writeGenerationMetadata first.generationId (others.map (·.generationId))
      (writeSuperblock fun _ => 0)
    let image ← tool.writeStoreIndex objects image
    let image ← writeStateIndex states image
    let image ← tool.writeVertexFsImage first format (writeStorePayloads objects image)
    writeGraphStores graphStoreSector graphStores image

def HasSuperblock (image : Image) : Prop :=
  ∀ address < diskSectorSize, image address = createdSuperblock address

section

variable {image result : Image} {tool : HostTool} {objects placed : List StorePayload}

theorem hasSuperblock_writeSuperblock (image : Image) : HasSuperblock (writeSuperblock image) := by
  intro address inside
  simp only [writeSuperblock, placeSectors]
  rw [if_pos (by omega), Nat.zero_mul, Nat.sub_zero]

theorem HasSuperblock.placeSectors (has : HasSuperblock image) {first count : Nat}
    (behind : 0 < first) (part : Image) :
    HasSuperblock (DiskImage.placeSectors image first count part) := by
  intro address inside
  have start : diskSectorSize ≤ first * diskSectorSize := Nat.le_mul_of_pos_left _ behind
  unfold DiskImage.placeSectors
  rw [if_neg (by omega)]
  exact has address inside

theorem HasSuperblock.writeSectorBytes (has : HasSuperblock image) {start : Nat}
    (behind : 0 < start) (bytes : Bytes) :
    HasSuperblock (DiskImage.writeSectorBytes image start bytes) := by
  intro address inside
  have first : diskSectorSize ≤ start * diskSectorSize := Nat.le_mul_of_pos_left _ behind
  rw [DiskImage.writeSectorBytes, writeBytes_outside (by omega)]
  exact has address inside

theorem HasSuperblock.writeGenerationMetadata (has : HasSuperblock image) {selected : String}
    {others : List String}
    (written : DiskImage.writeGenerationMetadata selected others image = .ok result) :
    HasSuperblock result := by
  simp only [DiskImage.writeGenerationMetadata, outcome_bind_ok] at written
  obtain ⟨_, _, written⟩ := written
  cases written
  exact has.placeSectors (by decide) _

theorem HasSuperblock.writeStoreIndex (has : HasSuperblock image) {objects : List StorePayload}
    (written : tool.writeStoreIndex objects image = .ok result) : HasSuperblock result := by
  simp only [HostTool.writeStoreIndex, outcome_bind_ok] at written
  obtain ⟨_, _, written⟩ := written
  cases written
  exact has.placeSectors (by decide) _

theorem HasSuperblock.writeStateIndex (has : HasSuperblock image) {entries : List StateEntry}
    (written : DiskImage.writeStateIndex entries image = .ok result) : HasSuperblock result := by
  simp only [DiskImage.writeStateIndex, outcome_bind_ok] at written
  obtain ⟨_, _, written⟩ := written
  cases written
  exact has.placeSectors (by decide) _

theorem le_sector_of_assignFrom {cursor last : Nat}
    (assigned : assignFrom cursor objects = .ok (placed, last)) :
    ∀ object ∈ placed, cursor ≤ object.sector := by
  induction objects generalizing cursor placed with
  | nil =>
    cases assigned
    simp
  | cons first rest ih =>
    simp only [assignFrom, outcome_bind_ok] at assigned
    obtain ⟨_, _, ⟨others, _⟩, assigned, done⟩ := assigned
    cases done
    intro object member
    rcases List.mem_cons.mp member with rfl | member
    · exact le_rfl
    · exact (Nat.le_add_right _ _).trans (ih assigned object member)

theorem pos_sector_of_assignStoreSectors (assigned : assignStoreSectors objects = .ok placed) :
    ∀ object ∈ placed, 0 < object.sector := by
  simp only [assignStoreSectors, outcome_bind_ok] at assigned
  obtain ⟨⟨_, _⟩, assigned, _, _, done⟩ := assigned
  cases done
  intro object member
  have behind := le_sector_of_assignFrom assigned object member
  exact lt_of_lt_of_le (by decide) behind

theorem HasSuperblock.writeStorePayloads (has : HasSuperblock image)
    {objects : List StorePayload} (behind : ∀ object ∈ objects, 0 < object.sector) :
    HasSuperblock (DiskImage.writeStorePayloads objects image) := by
  induction objects generalizing image with
  | nil => exact has
  | cons first rest ih =>
    exact ih (has.writeSectorBytes (behind first List.mem_cons_self) _)
      fun object member => behind object (List.mem_cons_of_mem _ member)

theorem HasSuperblock.writeVertexFsImage (has : HasSuperblock image) {manifest : GenerationManifest}
    {format : VertexFsFormat}
    (written : tool.writeVertexFsImage manifest format image = .ok result) :
    HasSuperblock result := by
  simp only [HostTool.writeVertexFsImage, outcome_bind_ok] at written
  obtain ⟨_, _, _, _, written⟩ := written
  cases written
  exact has.writeSectorBytes (by decide) _

theorem HasSuperblock.writeGraphStores (has : HasSuperblock image) {cursor : Nat}
    (behind : 0 < cursor) {stores : List GraphStoreImage}
    (written : DiskImage.writeGraphStores cursor stores image = .ok result) :
    HasSuperblock result := by
  induction stores generalizing cursor image with
  | nil =>
    cases written
    exact has
  | cons store rest ih =>
    simp only [DiskImage.writeGraphStores, outcome_bind_ok] at written
    obtain ⟨_, _, _, _, _, _, header, _, written⟩ := written
    exact ih ((has.placeSectors behind header).writeSectorBytes (by omega) _) (by omega) written

theorem hasSuperblock_createImage {manifests graphOnly : List GenerationManifest}
    {format : VertexFsFormat} (created : tool.createImage graphOnly format manifests = .ok image) :
    HasSuperblock image := by
  cases manifests with
  | nil => cases created
  | cons first others =>
    simp only [HostTool.createImage, outcome_bind_ok] at created
    obtain ⟨_, _, _, _, _, _, objects, assigned, _, metadata, _, store, _, state, _, files,
      graph⟩ := created
    have placed := (((hasSuperblock_writeSuperblock _).writeGenerationMetadata metadata).writeStoreIndex
      store).writeStateIndex state
    exact ((placed.writeStorePayloads (pos_sector_of_assignStoreSectors assigned)).writeVertexFsImage
      files).writeGraphStores (by decide) graph

end

end VertexOS.DiskImage
