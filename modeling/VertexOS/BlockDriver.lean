import VertexOS.DiskImage
import VertexOS.MetadataSectors

/-!
# The block driver

The block driver reads the section table of the disk, tests the disk, and then serves the
requests of its four clients.  On a disk that the host tool made, no client changes a sector
outside the sections it is entitled to.
-/

namespace VertexOS.BlockDriver

open ByteStrings ByteImages FailingCalls DiskImage

structure Section where
  start : Nat
  count : Nat
  deriving DecidableEq

def Section.contains (part : Section) (sector : Nat) : Bool :=
  part.start ≤ sector ∧ part.start + part.count < 2 ^ 64 ∧ sector < part.start + part.count

structure VertexDiskLayout where
  generationMetadata : Section
  storeIndex : Section
  storeData : Section
  stateIndex : Section
  stateData : Section
  journal : Section
  vertexfs : Section
  graphStore : Section
  deriving DecidableEq

def VertexDiskLayout.scratchSector (layout : VertexDiskLayout) : Nat :=
  if 1 < layout.journal.count then layout.journal.start + layout.journal.count - 1
  else layout.journal.start

def checkedSection (superblock : Image) (index totalSectors : Nat) : Option Section :=
  let (start, count) := vertexDiskSection superblock index
  if count = 0 ∨ 2 ^ 64 ≤ start + count ∨ totalSectors < start + count then none
  else some ⟨start, count⟩

def checkedLayout (superblock : Image) (totalSectors : Nat) : Option VertexDiskLayout := do
  return {
    generationMetadata := ← checkedSection superblock 0 totalSectors
    storeIndex := ← checkedSection superblock 1 totalSectors
    storeData := ← checkedSection superblock 2 totalSectors
    stateIndex := ← checkedSection superblock 3 totalSectors
    stateData := ← checkedSection superblock 4 totalSectors
    journal := ← checkedSection superblock 5 totalSectors
    vertexfs := ← checkedSection superblock 6 totalSectors
    graphStore := ← checkedSection superblock 7 totalSectors }

def vertexdiskLayout (superblock : Image) : Option VertexDiskLayout :=
  if startsWith superblock 0 vertexDiskMagic = false ∨
      readLe 2 superblock diskVersionOffset ≠ vertexDiskVersion ∨
      readLe 2 superblock diskSectorSizeOffset ≠ diskSectorSize ∨
      metadataChecksumValid superblock 0 diskSectorSize = false ∨
      readLe 4 superblock diskTotalSectorsOffset = 0 then none
  else checkedLayout superblock (readLe 4 superblock diskTotalSectorsOffset)

inductive BlockClient where
  | store
  | state
  | vertexFs
  | generationMetadata
  deriving DecidableEq

def blockProtocolV1 : Nat := 1
def blockOpReadSector : Nat := 1
def blockOpWriteSector : Nat := 2
def blockRequestLen : Nat := 16

structure BlockRequest where
  op : Nat
  sector : Nat

def parseBlockRequest (message : Bytes) : Option BlockRequest :=
  let request := writeBytes (fun _ => 0) 0 message
  let op := readLe 2 request 2
  if readLe 2 request 0 ≠ blockProtocolV1 ∨ op ≠ blockOpReadSector ∧ op ≠ blockOpWriteSector ∨
      readLe 2 request 4 ≠ 0 then none
  else some ⟨op, readLe 8 request 8⟩

def blockWriteAck (sector : Nat) : Bytes :=
  leBytes 2 blockProtocolV1 ++ leBytes 2 blockOpWriteSector ++ leBytes 4 0 ++ leBytes 8 sector

def requestAuthorized (layout : VertexDiskLayout) (client : BlockClient) (request : BlockRequest) :
    Bool :=
  let reads := request.op = blockOpReadSector
  let writes := request.op = blockOpWriteSector
  match client with
  | .store => reads ∧ (request.sector = 0 ∨ layout.storeIndex.contains request.sector ∨
      layout.storeData.contains request.sector)
  | .state =>
    let own := layout.stateIndex.contains request.sector ∨
      layout.stateData.contains request.sector ∨ layout.journal.contains request.sector
    reads ∧ (request.sector = 0 ∨ own) ∨ writes ∧ own
  | .vertexFs => (reads ∨ writes) ∧ layout.vertexfs.contains request.sector
  | .generationMetadata =>
    let own := layout.generationMetadata.contains request.sector
    reads ∧ (request.sector = 0 ∨ own) ∨ writes ∧ own

/-- How the device ends a request.  A write that it fails may have reached the disk or not. -/
inductive DeviceAnswer where
  | ok
  | failed (written : Bool)

def DeviceAnswer.written : DeviceAnswer → Bool
  | .ok => true
  | .failed written => written

structure SectorWrite where
  sector : Nat
  bytes : Image

/-- The disk, the writes it was asked for, and what the clients were sent. -/
structure DriverState where
  disk : VertexDisk
  writes : List SectorWrite := []
  replies : List (BlockClient × Bytes) := []
  asked : Nat := 0

/-- How the device and the clients answer, in turn. -/
structure DriverWorld where
  device : Nat → DeviceAnswer
  received : Nat → Bool

/-- A call fails with what the driver logs before it ends. -/
abbrev DriverCall := Call String DriverState

namespace DriverWorld

variable (world : DriverWorld)

def submit : DriverCall DeviceAnswer := do
  let state ← get
  set { state with asked := state.asked + 1 }
  return world.device state.asked

def readSector (failure : String) (sector : Nat) : DriverCall Image := do
  match ← world.submit with
  | .ok => return sectorOf (← get).disk.bytes sector
  | .failed _ => throw failure

def writeSector (failure : String) (sector : Nat) (bytes : Image) : DriverCall Unit := do
  let answer ← world.submit
  modify fun state => { state with
    disk := if answer.written then state.disk.writeSector sector bytes else state.disk
    writes := state.writes ++ [⟨sector, bytes⟩] }
  match answer with
  | .ok => return ()
  | .failed _ => throw failure

def sendReply (failure : String) (client : BlockClient) (bytes : Bytes) : DriverCall Unit := do
  let state ← get
  set { state with asked := state.asked + 1, replies := state.replies ++ [(client, bytes)] }
  require failure (world.received state.asked)

def readBack (failure : String) (sector : Nat) (written : Image) : DriverCall Unit := do
  let readback ← world.readSector failure sector
  require failure (readBytes readback 0 diskSectorSize = readBytes written 0 diskSectorSize)

def writebackPattern : Bytes := utf8 "M43 VertexDisk journal writeback\n"

def vertexFsSuperblockMagic : Bytes := utf8 "VERTEXFSV1" ++ List.replicate 6 0

def vertexFsV2SuperblockMagic : Bytes := utf8 "VERTEXFSV2" ++ List.replicate 6 0

def validateGraphStoreSection (layout : VertexDiskLayout) : DriverCall Unit := do
  require "VertexDisk graph-store section rejected" (1 < layout.graphStore.count)
  let sector ← world.readSector "block-driver graph-store section read failed"
    layout.graphStore.start
  require "block-driver graph-store section rejected"
    (startsWith sector 0 graphStoreMagic ∧
      metadataChecksumValid sector 0 diskSectorSize)

def validateVertexfsDeviceSection (layout : VertexDiskLayout) : DriverCall Unit := do
  require "VertexDisk VertexFS section rejected" (layout.vertexfs.count = 64)
  let sector ← world.readSector "block-driver VertexFS section read failed" layout.vertexfs.start
  require "block-driver VertexFS section magic rejected"
    (startsWith sector 0 vertexFsSuperblockMagic ∨ startsWith sector 0 vertexFsV2SuperblockMagic)
  world.writeSector "block-driver VertexFS section write failed" layout.vertexfs.start sector
  world.readBack "block-driver VertexFS section writeback failed" layout.vertexfs.start sector
  world.validateGraphStoreSection layout

def runSelfTest : DriverCall VertexDiskLayout := do
  let sector0 ← world.readSector "block-driver sector 0 read failed" 0
  let layout ← fromOption "VertexDisk superblock rejected" (vertexdiskLayout sector0)
  let pattern := writeBytes (fun _ => 0) 0 writebackPattern
  world.writeSector "block-driver sector write failed" layout.scratchSector pattern
  world.readBack "block-driver readback failed" layout.scratchSector pattern
  world.validateVertexfsDeviceSection layout
  return layout

def serveReadRequest (client : BlockClient) (request : BlockRequest) : DriverCall Unit := do
  let sector ← world.readSector "block-driver sector read failed" request.sector
  world.sendReply "block-driver response failed" client (readBytes sector 0 diskSectorSize)

def serveWriteRequest (faultVertexfsFsync : Bool) (client : BlockClient) (request : BlockRequest)
    (payload : Bytes) : DriverCall Unit := do
  require "block-driver fault injection exits during VertexFS fsync"
    (¬(client = .vertexFs ∧ faultVertexfsFsync))
  require "block-driver write payload receive failed" (payload.length = diskSectorSize)
  world.writeSector "block-driver sector write failed" request.sector
    (writeBytes (fun _ => 0) 0 payload)
  world.sendReply "block-driver write ack failed" client (blockWriteAck request.sector)

def serveClientRequest (layout : VertexDiskLayout) (faultVertexfsFsync : Bool)
    (client : BlockClient) (message payload : Bytes) : DriverCall Unit := do
  require "block-driver request receive failed" (message.length = blockRequestLen)
  let request ← fromOption "block-driver rejected malformed request" (parseBlockRequest message)
  require "block-driver rejected unauthorized block request"
    (requestAuthorized layout client request)
  if request.op = blockOpReadSector then world.serveReadRequest client request
  else if request.op = blockOpWriteSector then
    world.serveWriteRequest faultVertexfsFsync client request payload
  else throw "block-driver rejected unknown operation"

end DriverWorld

structure Serving where
  layout : VertexDiskLayout
  faultVertexfsFsync : Bool

structure DriverProcess where
  state : DriverState
  serving : Option Serving := none

inductive DriverEvent where
  | start (faultVertexfsFsync : Bool)
  | request (client : BlockClient) (message payload : Bytes)

def DriverProcess.ofOutcome {α : Type} (serve : α → Serving) :
    Except String α × DriverState → DriverProcess
  | (.ok value, state) => ⟨state, some (serve value)⟩
  | (.error _, state) => ⟨state, none⟩

namespace DriverWorld

variable (world : DriverWorld)

def step (process : DriverProcess) : DriverEvent → DriverProcess
  | .start fault => .ofOutcome (⟨·, fault⟩) (exec world.runSelfTest process.state)
  | .request client message payload =>
    match process.serving with
    | none => process
    | some serving => .ofOutcome (fun _ => serving) (exec (world.serveClientRequest serving.layout
        serving.faultVertexfsFsync client message payload) process.state)

def run (process : DriverProcess) (events : List DriverEvent) : DriverProcess :=
  events.foldl world.step process

end DriverWorld

def SameSector (before after : VertexDisk) (sector : Nat) : Prop :=
  ∀ index < diskSectorSize, sectorOf after.bytes sector index = sectorOf before.bytes sector index

/-- Only sectors of `may` change, and every write is for one of them or writes to one of
`rewrites` what is there. -/
structure Confined (may rewrites : Nat → Prop) (before after : DriverState) : Prop where
  kept : ∀ sector, ¬may sector → SameSector before.disk after.disk sector
  writes : ∃ new, after.writes = before.writes ++ new ∧ ∀ write ∈ new, may write.sector ∨
    rewrites write.sector ∧ ∀ index < diskSectorSize,
      write.bytes index = sectorOf before.disk.bytes write.sector index

variable {world : DriverWorld} {state : DriverState}

section

variable {may rewrites : Nat → Prop} {sector : Nat} {bytes : Image} {failure : String}

instance : Std.Refl (Confined may rewrites) where
  refl state := ⟨fun _ _ _ _ => rfl, [], by simp⟩

instance : IsTrans DriverState (Confined may rewrites) where
  trans first middle last := by
    rintro ⟨kept, new, grown, allowed⟩ ⟨kept', new', grown', allowed'⟩
    refine ⟨fun sector not index inside =>
      (kept' sector not index inside).trans (kept sector not index inside),
      new ++ new', by rw [grown', grown, List.append_assoc], fun write member => ?_⟩
    rcases List.mem_append.mp member with early | late
    · exact allowed write early
    · by_cases changes : may write.sector
      · exact .inl changes
      · -- the sector is still as it was at first
        obtain ⟨again, same⟩ := (allowed' write late).resolve_left changes
        exact .inr ⟨again, fun index inside =>
          (same index inside).trans (kept write.sector changes index inside)⟩

theorem confined_asked {asked : Nat} {replies : List (BlockClient × Bytes)} :
    Confined may rewrites state { state with asked, replies } :=
  ⟨fun _ _ _ _ => rfl, [], by simp⟩

theorem sameSector_writeSector (disk : VertexDisk) {sector other : Nat} (bytes : Image)
    (differs : other ≠ sector) : SameSector disk (disk.writeSector sector bytes) other := by
  intro index inside
  simp only [sectorOf, VertexDisk.writeSector]
  refine if_neg fun within => ?_
  rcases lt_or_gt_of_ne differs with below | above
  · have := Nat.mul_le_mul_right diskSectorSize (Nat.succ_le_of_lt below)
    rw [Nat.succ_mul] at this
    omega
  · have := Nat.mul_le_mul_right diskSectorSize (Nat.succ_le_of_lt above)
    rw [Nat.succ_mul] at this
    omega

theorem sameSector_rewrite (disk : VertexDisk)
    (same : ∀ index < diskSectorSize, bytes index = sectorOf disk.bytes sector index) :
    SameSector disk (disk.writeSector sector bytes) sector := by
  intro index inside
  simp only [sectorOf, VertexDisk.writeSector]
  rw [if_pos (by omega), Nat.add_sub_cancel_left, same index inside]
  rfl

theorem confined_write (written : Bool) (allowed : may sector ∨ rewrites sector ∧
      ∀ index < diskSectorSize, bytes index = sectorOf state.disk.bytes sector index) :
    Confined may rewrites state { state with
      disk := if written then state.disk.writeSector sector bytes else state.disk
      writes := state.writes ++ [⟨sector, bytes⟩] } where
  kept other not := by
    cases written with
    | false => exact fun _ _ => rfl
    | true =>
      by_cases same : other = sector
      · subst same
        exact sameSector_rewrite _ (allowed.resolve_left not).2
      · exact sameSector_writeSector _ _ same
  writes := ⟨[⟨sector, bytes⟩], rfl, by simpa using allowed⟩

theorem evolves_submit : Evolves (Confined may rewrites) world.submit state :=
  confined_asked

theorem exec_submit :
    exec world.submit state = (.ok (world.device state.asked), { state with asked := state.asked + 1 }) :=
  rfl

theorem evolves_readSector :
    Evolves (Confined may rewrites) (world.readSector failure sector) state := by
  refine .bind evolves_submit fun answer _ _ => ?_
  cases answer with
  | ok => exact .get_bind (.pure _)
  | failed _ => exact .throw _

theorem readSector_ok {after : DriverState}
    (read : exec (world.readSector failure sector) state = (.ok bytes, after)) :
    bytes = sectorOf state.disk.bytes sector ∧ after.disk = state.disk := by
  unfold DriverWorld.readSector at read
  rw [exec_bind_ok] at read
  obtain ⟨answer, middle, asked, read⟩ := read
  rw [exec_submit] at asked
  obtain ⟨-, rfl⟩ := Prod.mk.inj asked
  cases answer with
  | ok =>
    cases read
    exact ⟨rfl, rfl⟩
  | failed _ => cases read

theorem evolves_writeSector (allowed : may sector ∨ rewrites sector ∧
      ∀ index < diskSectorSize, bytes index = sectorOf state.disk.bytes sector index) :
    Evolves (Confined may rewrites) (world.writeSector failure sector bytes) state := by
  refine .bind evolves_submit fun answer middle asked => ?_
  rw [exec_submit] at asked
  obtain ⟨-, rfl⟩ := Prod.mk.inj asked
  refine .modify_bind (confined_write _ allowed) ?_
  cases answer with
  | ok => exact .pure _
  | failed _ => exact .throw _

theorem evolves_sendReply {client : BlockClient} {bytes : Bytes} :
    Evolves (Confined may rewrites) (world.sendReply failure client bytes) state :=
  .get_bind (.set_bind confined_asked ((Always.require _ _).evolves _))

theorem evolves_readBack {written : Image} :
    Evolves (Confined may rewrites) (world.readBack failure sector written) state :=
  .bind evolves_readSector fun _ _ _ => (Always.require _ _).evolves _

end

def createdLayout : VertexDiskLayout where
  generationMetadata := ⟨generationMetadataSector, 1⟩
  storeIndex := ⟨storeIndexSector, storeIndexSectors⟩
  storeData := ⟨storeDataSector, storeDataSectors⟩
  stateIndex := ⟨stateIndexSector, 1⟩
  stateData := ⟨stateDataSector, stateDataSectors⟩
  journal := ⟨journalSector, journalSectors⟩
  vertexfs := ⟨vertexFsImageSector, vertexFsImageSectors⟩
  graphStore := ⟨graphStoreSector, graphStoreSectors⟩

theorem checkedSection_congr {image other : Image}
    (agree : ∀ address < diskSectorSize, image address = other address) {index totalSectors : Nat}
    (known : index ≤ graphStoreSection) :
    checkedSection image index totalSectors = checkedSection other index totalSectors := by
  unfold checkedSection
  rw [vertexDiskSection_congr agree known]

theorem vertexdiskLayout_congr {image other : Image}
    (agree : ∀ address < diskSectorSize, image address = other address) :
    vertexdiskLayout image = vertexdiskLayout other := by
  unfold vertexdiskLayout checkedLayout
  rw [startsWith_congr agree (by decide), readLe_sector_congr agree (by decide),
    readLe_sector_congr agree (by decide), metadataChecksumValid_congr le_rfl agree,
    readLe_sector_congr agree (by decide)]
  simp only [checkedSection_congr agree (show 0 ≤ graphStoreSection by decide),
    checkedSection_congr agree (show 1 ≤ graphStoreSection by decide),
    checkedSection_congr agree (show 2 ≤ graphStoreSection by decide),
    checkedSection_congr agree (show 3 ≤ graphStoreSection by decide),
    checkedSection_congr agree (show 4 ≤ graphStoreSection by decide),
    checkedSection_congr agree (show 5 ≤ graphStoreSection by decide),
    checkedSection_congr agree (show 6 ≤ graphStoreSection by decide),
    checkedSection_congr agree (show 7 ≤ graphStoreSection by decide)]

theorem vertexdiskLayout_of_hasSuperblock {image : Image} (has : HasSuperblock image) :
    vertexdiskLayout image = some createdLayout := by
  rw [vertexdiskLayout_congr has]
  decide +kernel

def VertexDiskLayout.sections (layout : VertexDiskLayout) : List Section :=
  [layout.generationMetadata, layout.storeIndex, layout.storeData, layout.stateIndex,
    layout.stateData, layout.journal, layout.vertexfs, layout.graphStore]

def BlockClient.sections (layout : VertexDiskLayout) : BlockClient → List Section
  | .store => []
  | .state => [layout.stateIndex, layout.stateData, layout.journal]
  | .vertexFs => [layout.vertexfs]
  | .generationMetadata => [layout.generationMetadata]

/-- The sector lies in a section of the client, and in no other section. -/
def BlockClient.Entitled (client : BlockClient) (sector : Nat) : Prop :=
  ∃ part ∈ client.sections createdLayout, part.contains sector ∧
    ∀ other ∈ createdLayout.sections, other.contains sector → other = part

/-- Sectors that nobody changes: the superblock, the store and the graph store. -/
def Immutable (sector : Nat) : Prop :=
  sector = 0 ∨ createdLayout.storeIndex.contains sector ∨ createdLayout.storeData.contains sector ∨
    createdLayout.graphStore.contains sector

/-- The sectors that an event may change.  A self-test writes the last one of the journal. -/
def DriverEvent.MayChange : DriverEvent → Nat → Prop
  | .start _, sector =>
    sector = createdLayout.journal.start + createdLayout.journal.count - 1
  | .request client _ _, sector => client.Entitled sector

/-- The sectors that an event writes as they are. -/
def DriverEvent.Rewrites : DriverEvent → Nat → Prop
  | .start _, sector => sector = createdLayout.vertexfs.start
  | .request _ _ _, _ => False

def Apart (one other : Section) : Prop :=
  one.start + one.count ≤ other.start ∨ other.start + other.count ≤ one.start

instance (one other : Section) : Decidable (Apart one other) := inferInstanceAs (Decidable (_ ∨ _))

instance : Std.Symm Apart := ⟨fun _ _ => Or.symm⟩

theorem sections_apart : createdLayout.sections.Pairwise Apart := by decide

theorem eq_of_contains {part other : Section} {sector : Nat} (mine : part ∈ createdLayout.sections)
    (theirs : other ∈ createdLayout.sections) (inPart : part.contains sector)
    (inOther : other.contains sector) : other = part := by
  by_contra differ
  have apart := sections_apart.forall theirs mine differ
  simp only [Section.contains, decide_eq_true_eq] at inPart inOther
  unfold Apart at apart
  omega

theorem BlockClient.sections_subset (client : BlockClient) :
    client.sections createdLayout ⊆ createdLayout.sections := by
  cases client <;> decide

theorem BlockClient.entitled_of_contains {client : BlockClient} {part : Section} {sector : Nat}
    (own : part ∈ client.sections createdLayout) (inside : part.contains sector) :
    client.Entitled sector :=
  ⟨part, own, inside, fun _ known within =>
    eq_of_contains (client.sections_subset own) known inside within⟩

theorem entitled_of_requestAuthorized {client : BlockClient} {request : BlockRequest}
    (authorized : requestAuthorized createdLayout client request)
    (writes : request.op = blockOpWriteSector) : client.Entitled request.sector := by
  have noRead : blockOpWriteSector ≠ blockOpReadSector := by decide
  cases client with
  | store => simp [requestAuthorized, writes, noRead] at authorized
  | state =>
    simp only [requestAuthorized, writes, noRead, false_and, true_and, false_or,
      decide_eq_true_eq] at authorized
    rcases authorized with inside | inside | inside
    all_goals exact BlockClient.entitled_of_contains (by decide) inside
  | vertexFs =>
    simp only [requestAuthorized, writes, or_true, true_and, decide_eq_true_eq] at authorized
    exact BlockClient.entitled_of_contains (by decide) authorized
  | generationMetadata =>
    simp only [requestAuthorized, writes, noRead, false_and, true_and, false_or,
      decide_eq_true_eq] at authorized
    exact BlockClient.entitled_of_contains (by decide) authorized

theorem Immutable.not_entitled {sector : Nat} (immutable : Immutable sector)
    (client : BlockClient) : ¬client.Entitled sector := by
  rintro ⟨part, own, inside, alone⟩
  have foreign : createdLayout.storeIndex ∉ client.sections createdLayout ∧
      createdLayout.storeData ∉ client.sections createdLayout ∧
      createdLayout.graphStore ∉ client.sections createdLayout ∧
      ∀ part ∈ client.sections createdLayout, ¬part.contains 0 := by
    cases client <;> decide
  rcases immutable with rfl | within | within | within
  · exact foreign.2.2.2 part own inside
  · exact foreign.1 (alone _ (by decide) within ▸ own)
  · exact foreign.2.1 (alone _ (by decide) within ▸ own)
  · exact foreign.2.2.1 (alone _ (by decide) within ▸ own)

theorem Immutable.not_mayChange {sector : Nat} (immutable : Immutable sector)
    (event : DriverEvent) : ¬event.MayChange sector := by
  cases event with
  | start _ =>
    rintro rfl
    revert immutable
    unfold Immutable
    decide
  | request client _ _ => exact immutable.not_entitled client

section

variable {process : DriverProcess}

theorem evolves_serveClientRequest {fault : Bool} {client : BlockClient} {message payload : Bytes} :
    Evolves (Confined (DriverEvent.request client message payload).MayChange
        (DriverEvent.request client message payload).Rewrites)
      (world.serveClientRequest createdLayout fault client message payload) state := by
  refine .require_bind fun _ => .fromOption_bind fun request _ => .require_bind fun authorized =>
    .ite (fun _ => ?_) fun _ => .ite (fun writes => ?_) fun _ => .throw _
  · exact .bind evolves_readSector fun _ _ _ => evolves_sendReply
  · refine .require_bind fun _ => .require_bind fun _ => ?_
    exact .bind (evolves_writeSector (.inl (entitled_of_requestAuthorized authorized writes)))
      fun _ _ _ => evolves_sendReply

theorem evolves_validateVertexfsDeviceSection (fault : Bool) :
    Evolves (Confined (DriverEvent.start fault).MayChange (DriverEvent.start fault).Rewrites)
      (world.validateVertexfsDeviceSection createdLayout) state := by
  refine .require_bind fun _ => .bind evolves_readSector fun bytes middle read => ?_
  obtain ⟨rfl, kept⟩ := readSector_ok read
  refine .require_bind fun _ => .bind (evolves_writeSector (.inr ⟨rfl, ?_⟩)) ?_
  · simp [kept]
  · intro _ _ _
    refine .bind evolves_readBack fun _ _ _ => .require_bind fun _ => ?_
    exact .bind evolves_readSector fun _ _ _ => (Always.require _ _).evolves _

theorem layout_of_readSector (has : HasSuperblock state.disk.bytes) {failure : String}
    {bytes : Image} {middle : DriverState}
    (read : exec (world.readSector failure 0) state = (.ok bytes, middle)) :
    vertexdiskLayout bytes = some createdLayout := by
  obtain ⟨rfl, -⟩ := readSector_ok read
  exact vertexdiskLayout_of_hasSuperblock fun address inside => by
    simpa [sectorOf] using has address inside

theorem evolves_runSelfTest {fault : Bool} (has : HasSuperblock state.disk.bytes) :
    Evolves (Confined (DriverEvent.start fault).MayChange (DriverEvent.start fault).Rewrites)
      world.runSelfTest state := by
  refine .bind evolves_readSector fun bytes middle read => .fromOption_bind fun layout decoded => ?_
  rw [layout_of_readSector has read] at decoded
  cases decoded
  refine .bind (evolves_writeSector (.inl rfl)) fun _ _ _ => ?_
  refine .bind evolves_readBack fun _ _ _ => ?_
  exact .bind (evolves_validateVertexfsDeviceSection fault) fun _ _ _ => .pure _

theorem runSelfTest_ok (has : HasSuperblock state.disk.bytes) {layout : VertexDiskLayout}
    {after : DriverState} (tested : exec world.runSelfTest state = (.ok layout, after)) :
    layout = createdLayout := by
  unfold DriverWorld.runSelfTest at tested
  simp only [exec_bind_ok] at tested
  obtain ⟨bytes, middle, read, decoded, _, found, _, _, _, _, _, _, _, _, _, done⟩ := tested
  rw [layout_of_readSector has read] at found
  cases found
  cases done
  rfl

/-- The disk starts as the host tool made it, and a driver that serves goes by its table. -/
structure Sound (process : DriverProcess) : Prop where
  superblock : HasSuperblock process.state.disk.bytes
  layout : ∀ serving ∈ process.serving, serving.layout = createdLayout

theorem HasSuperblock.of_confined {event : DriverEvent} {before after : DriverState}
    (has : HasSuperblock before.disk.bytes)
    (confined : Confined event.MayChange event.Rewrites before after) :
    HasSuperblock after.disk.bytes := by
  intro address inside
  have same := confined.kept 0 (Immutable.not_mayChange (.inl rfl) event) address inside
  simp only [sectorOf, Nat.zero_mul, Nat.zero_add] at same
  rw [same, has address inside]

theorem sound_ofOutcome {α : Type} {serve : α → Serving} {event : DriverEvent}
    {outcome : Except String α × DriverState} (has : HasSuperblock state.disk.bytes)
    (confined : Confined event.MayChange event.Rewrites state outcome.2)
    (known : ∀ value, outcome.1 = .ok value → (serve value).layout = createdLayout) :
    Confined event.MayChange event.Rewrites state (DriverProcess.ofOutcome serve outcome).state ∧
      Sound (.ofOutcome serve outcome) := by
  rcases outcome with ⟨_ | value, after⟩
  · exact ⟨confined, HasSuperblock.of_confined has confined, by simp [DriverProcess.ofOutcome]⟩
  · exact ⟨confined, HasSuperblock.of_confined has confined,
      by simpa [DriverProcess.ofOutcome] using known value rfl⟩

theorem Sound.step (sound : Sound process) (world : DriverWorld) (event : DriverEvent) :
    Confined event.MayChange event.Rewrites process.state (world.step process event).state ∧
      Sound (world.step process event) := by
  cases event with
  | start fault =>
    exact sound_ofOutcome sound.superblock (evolves_runSelfTest sound.superblock)
      fun _ tested => runSelfTest_ok sound.superblock (Prod.ext tested rfl)
  | request client message payload =>
    unfold DriverWorld.step
    rcases serves : process.serving with _ | serving
    · exact ⟨refl_of _ _, sound⟩
    · have layout := sound.layout serving serves
      dsimp only
      rw [layout]
      exact sound_ofOutcome sound.superblock evolves_serveClientRequest fun _ _ => layout

theorem Sound.run (sound : Sound process) (world : DriverWorld) (events : List DriverEvent) :
    Sound (world.run process events) := by
  induction events generalizing process with
  | nil => exact sound
  | cons event rest ih => exact ih (sound.step world event).2

theorem Sound.sameSector_run (sound : Sound process) (world : DriverWorld)
    (events : List DriverEvent) {sector : Nat} (immutable : Immutable sector) :
    SameSector process.state.disk (world.run process events).state.disk sector := by
  induction events generalizing process with
  | nil => exact fun _ _ => rfl
  | cons event rest ih =>
    have ⟨confined, next⟩ := sound.step world event
    intro index inside
    exact (ih next index inside).trans
      (confined.kept sector (immutable.not_mayChange event) index inside)

end

def attached (image : Image) : DriverProcess where
  state := { disk := ⟨image, createdSectors * diskSectorSize⟩ }

section

variable {tool : HostTool} {manifests graphOnly : List VertexIr.GenerationManifest}
  {format : VertexFsFormat} {image : Image}

theorem sectors_isolated (created : tool.createImage graphOnly format manifests = .ok image)
    (world : DriverWorld) (events : List DriverEvent) :
    (∀ sector, Immutable sector → SameSector ⟨image, createdSectors * diskSectorSize⟩
      (world.run (attached image) events).state.disk sector) ∧
    ∀ earlier event later, events = earlier ++ event :: later →
      Confined event.MayChange event.Rewrites (world.run (attached image) earlier).state
        (world.run (attached image) (earlier ++ [event])).state := by
  have sound : Sound (attached image) := ⟨hasSuperblock_createImage created, by simp [attached]⟩
  refine ⟨fun sector immutable => sound.sameSector_run world events immutable, ?_⟩
  rintro earlier event later rfl
  simpa [DriverWorld.run] using ((sound.run world earlier).step world event).1

end

/-- A host tool whose VertexFS section holds its magic and nothing else. -/
def bareTool : HostTool where
  storePayloads _ := .ok []
  graphStoreImage manifest := .ok ⟨manifest.generationId, 0, 0, [], 0, ""⟩
  vertexFsImage _ _ :=
    .ok (DriverWorld.vertexFsSuperblockMagic ++ List.replicate (32768 - 16) 0)
  storeHashHex _ := ""

def bareManifest : VertexIr.GenerationManifest where
  schema := "vertex.generation.v0"
  generationId := "gen-a"
  kernelId := "krust"
  kernelStoreObject := "store:krust"
  initId := "init"
  initExecutable := "exe:init"
  initMode := "native"
  store := []
  executables := []
  devices := []
  stateVolumes := []
  secrets := []
  capabilities := []
  services := []
  rootService := "init"
  startOrder := []
  onFailure := "rollback"
  policies := ⟨"none", "explicit", "reject"⟩

/-- The state server has its first data sector overwritten. -/
def stateWrite : DriverEvent :=
  .request .state (blockWriteAck stateDataSector) (List.replicate 512 1)

def healthyWorld : DriverWorld :=
  ⟨fun _ => .ok, fun _ => true⟩

/-- The driver passes its self-test on the disk, performs the write and acknowledges it. -/
theorem exists_served_bareTool :
    ∃ image, bareTool.createImage [] .v1 [bareManifest] = .ok image ∧
      (healthyWorld.run (attached image) [.start false, stateWrite]).state.replies =
        [(.state, blockWriteAck stateDataSector)] := by
  have noStates : stateEntries [bareManifest] = .ok [] := by
    simp [stateEntries, stateIds, bareManifest, refuseIf]
    rfl
  simp only [HostTool.createImage, HostTool.writeVertexFsImage, outcome_bind_ok]
  refine ⟨_, ⟨_, noStates, _, rfl, _, rfl, _, rfl, _, rfl, _, rfl, _, rfl, _,
    ⟨_, rfl, (), refuseIf_ok.mpr ?_, rfl⟩, rfl⟩, ?_⟩
  · rw [not_not, List.length_append, List.length_replicate]
    rfl
  · decide +kernel

theorem sectors_isolated_stateWrite :
    ∃ image, bareTool.createImage [] .v1 [bareManifest] = .ok image ∧
      (healthyWorld.run (attached image) [.start false, stateWrite]).state.replies =
        [(.state, blockWriteAck stateDataSector)] ∧
      Confined stateWrite.MayChange stateWrite.Rewrites
        (healthyWorld.run (attached image) [.start false]).state
        (healthyWorld.run (attached image) [.start false, stateWrite]).state := by
  obtain ⟨image, created, served⟩ := exists_served_bareTool
  exact ⟨image, created, served, (sectors_isolated created healthyWorld _).2
    [.start false] stateWrite [] rfl⟩

end VertexOS.BlockDriver
