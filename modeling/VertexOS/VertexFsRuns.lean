import VertexOS.BootFileSystem
import VertexOS.VertexFsPlaces

/-!
# Runs of the file system with its device

Next to the kernel's shadow image stands the device.  A sync is prepared in the
shadow image; the block driver then writes the recorded sectors one by one.
-/

namespace VertexOS

open ByteStrings ByteImages FailingCalls VertexFsState VfsVertexFsFile

/-- The file system as boot installs it: the image with its two declared files. -/
def VertexFsState.booted (image : Image) (boot : VertexFsBootFiles) :
    Except InitError VertexFsState := do
  let readme ← new "readme" boot.readme.payload (some boot.readme.inode)
  let appA ← new "a" boot.appA.payload (some boot.appA.inode)
  return { empty.loadVertexFsImage image with
    files := Function.update (Function.update empty.files 0 readme) 1 appA
    fileCount := 2 }

/-- A sync that waits for the block driver: how far it is and the sector that is on its way. -/
structure SyncWaiter where
  backing : Nat
  checksum : Nat
  writeCount : Nat
  nextWrite : Nat
  queued : VertexFsDeviceWrite

structure FsWorld where
  vfs : VfsState
  device : Image
  waiters : List SyncWaiter

namespace FsWorld

def vertexfs (world : FsWorld) : VertexFsState := world.vfs.vertexfs

def withVertexFs (world : FsWorld) (vertexfs : VertexFsState) : FsWorld :=
  { world with vfs := { world.vfs with vertexfs } }

structure Boots (world : FsWorld) (boot : VertexFsBootFiles) : Prop where
  accepted : parseVertexFsImage world.device = .ok boot
  installed : VertexFsState.booted world.device boot = .ok world.vertexfs
  idle : world.waiters = []

/-- A process uses the files: no sync is prepared. -/
inductive Operates : FsWorld → FsWorld → Prop
  | intro {world : FsWorld} {mountId : Nat} {aligned : Prop} {vfs : VfsState}
      (effect : VfsEffect mountId aligned world.vfs vfs)
      (image : vfs.vertexfs.image = world.vertexfs.image)
      (recorded : vfs.vertexfs.recorded = world.vertexfs.recorded) :
      Operates world { world with vfs }

/-- A sync is prepared, and its first sector is queued. -/
inductive Starts (backing : Nat) : FsWorld → FsWorld → Prop
  | intro {world : FsWorld} {inodeId checksum writeCount : Nat} {first : VertexFsDeviceWrite}
      {prepared : VertexFsState}
      (run : exec (prepareVertexFsSyncFile backing) world.vertexfs =
        (.ok (.journaled inodeId checksum writeCount), prepared))
      (queued : prepared.recorded[0]? = some first) :
      Starts backing world { world.withVertexFs prepared with
        waiters := ⟨backing, checksum, writeCount, 1, first⟩ :: world.waiters }

/-- A sync is prepared and not sent: the file is refused, or the driver cannot be asked. -/
inductive Prepares : FsWorld → FsWorld → Prop
  | intro (world : FsWorld) (backing : Nat) :
      Prepares world
        (world.withVertexFs (exec (prepareVertexFsSyncFile backing) world.vertexfs).2)

/-- The queued sector is written and acknowledged, and the next one is queued. -/
inductive Sends : FsWorld → FsWorld → Prop
  | intro {world : FsWorld} {others rest : List SyncWaiter} {waiter : SyncWaiter}
      {next : VertexFsDeviceWrite} (waits : world.waiters = others ++ waiter :: rest)
      (more : waiter.nextWrite < waiter.writeCount)
      (queued : world.vertexfs.recorded[waiter.nextWrite]? = some next) :
      Sends world { world with
        device := applyWrite world.device waiter.queued
        waiters := others ++
          { waiter with nextWrite := waiter.nextWrite + 1, queued := next } :: rest }

/-- The last sector is acknowledged: the sync ends well. -/
inductive Finishes : FsWorld → FsWorld → Prop
  | intro {world : FsWorld} {others rest : List SyncWaiter} {waiter : SyncWaiter}
      {finished : VertexFsState} (waits : world.waiters = others ++ waiter :: rest)
      (last : waiter.writeCount ≤ waiter.nextWrite)
      (run : exec (finishVertexFsSyncFile waiter.backing waiter.checksum) world.vertexfs =
        (.ok (), finished)) :
      Finishes world { world.withVertexFs finished with
        device := applyWrite world.device waiter.queued
        waiters := others ++ rest }

/-- A sync ends without success: a bad acknowledgement or the end of the block driver
marks the file, the end of the waiting process does not. -/
inductive Breaks : FsWorld → FsWorld → Prop
  | intro {world : FsWorld} {others rest : List SyncWaiter} {waiter : SyncWaiter}
      {device : Image} {left : VertexFsState} (waits : world.waiters = others ++ waiter :: rest)
      (written : device = world.device ∨ device = applyWrite world.device waiter.queued)
      (marked : left = world.vertexfs ∨
        left = world.vertexfs.recordVertexFsPageCacheWritebackError waiter.backing) :
      Breaks world { world.withVertexFs left with device, waiters := others ++ rest }

inductive Step (world after : FsWorld) : Prop
  | operates (operates : world.Operates after)
  | starts {backing : Nat} (starts : world.Starts backing after)
  | prepares (prepares : world.Prepares after)
  | sends (sends : world.Sends after)
  | finishes (finishes : world.Finishes after)
  | breaks (breaks : world.Breaks after)

def Reaches : FsWorld → FsWorld → Prop := Relation.ReflTransGen Step

end FsWorld

section

variable {layout : VertexFsLayout} {image : Image} {generation : Bytes} {boot : VertexFsBootFiles}
  {fs : VertexFsState}

def VertexFsLayout.homes (layout : VertexFsLayout) (image : Image)
    (body : layout.BodyOk image generation) : VertexFsHomes where
  layout := layout
  placed := body.placed
  readme := (layout.parsedInodes image).readme.extent
  readmeWithin := ⟨body.readmeExtent.lower, body.readmeExtent.upper⟩
  appA := (layout.parsedInodes image).appA.extent
  appAWithin := ⟨body.appAExtent.lower, body.appAExtent.upper⟩

theorem new_ok {name : String} {payload : Bytes} {inode : VertexFsInode}
    {file : VfsVertexFsFile} (made : new name payload (some inode) = .ok file) :
    file.place = (inode.id, inode.extent) ∧ file.content = payload ∧ file.len = payload.length := by
  unfold new at made
  split at made
  · obtain ⟨vfsName, -, made⟩ := outcome_bind_ok.mp made
    cases made
    exact ⟨rfl, readBytes_writeBytes_self (fun _ => 0) 0 payload, rfl⟩
  · cases made

structure VertexFsState.BootTable (fs : VertexFsState) (image : Image)
    (boot : VertexFsBootFiles) : Prop where
  image : fs.image = image
  loaded : fs.imageLoaded = true
  fileCount : fs.fileCount = 2
  pageCache : ∀ index, fs.pageCache index = .empty
  readme : new "readme" boot.readme.payload (some boot.readme.inode) =
    .ok (fs.files 0)
  appA : new "a" boot.appA.payload (some boot.appA.inode) = .ok (fs.files 1)

theorem bootTable_of_booted (installed : VertexFsState.booted image boot = .ok fs) :
    fs.BootTable image boot := by
  obtain ⟨readme, isReadme, installed⟩ := outcome_bind_ok.mp installed
  obtain ⟨appA, isAppA, installed⟩ := outcome_bind_ok.mp installed
  cases installed
  exact ⟨rfl, rfl, rfl, fun _ => rfl, isReadme, isAppA⟩

theorem new_clean {name : String} {payload : Bytes} {inode : VertexFsInode}
    {file : VfsVertexFsFile} (made : new name payload (some inode) = .ok file) :
    file.dirty = false ∧ file.len ≤ maxVertexFsFileBytes := by
  unfold new at made
  split at made
  · obtain ⟨vfsName, -, made⟩ := outcome_bind_ok.mp made
    cases made
    exact ⟨rfl, ‹_›⟩
  · cases made

theorem files_of_booted (installed : VertexFsState.booted image boot = .ok fs) (backing : Nat) :
    (fs.files backing).dirty = false ∧ (fs.files backing).len ≤ maxVertexFsFileBytes := by
  obtain ⟨readme, isReadme, installed⟩ := outcome_bind_ok.mp installed
  obtain ⟨appA, isAppA, installed⟩ := outcome_bind_ok.mp installed
  cases installed
  dsimp only
  by_cases second : backing = 1
  · rw [second, Function.update_self]
    exact new_clean isAppA
  · rw [Function.update_of_ne second]
    by_cases first : backing = 0
    · rw [first, Function.update_self]
      exact new_clean isReadme
    · rw [Function.update_of_ne first]
      exact ⟨rfl, Nat.zero_le _⟩

theorem homes_holds_booted {appA : Bytes} {replayed : Bool} (body : layout.BodyOk image generation)
    (installed : VertexFsState.booted image (layout.bootFiles image generation appA replayed) =
      .ok fs) : (layout.homes image body).Holds fs := by
  obtain ⟨readme, isReadme, installed⟩ := outcome_bind_ok.mp installed
  obtain ⟨appAFile, isAppA, installed⟩ := outcome_bind_ok.mp installed
  cases installed
  have base : (layout.homes image body).Holds (empty.loadVertexFsImage image) :=
    ⟨body.format, fun _ => .inl rfl⟩
  have withReadme : (layout.homes image body).Holds { empty.loadVertexFsImage image with
        files := Function.update empty.files 0 readme } := by
    refine base.replace rfl rfl (.inr (.inl ?_))
    rw [(new_ok isReadme).1]
    exact Prod.ext body.readme_id rfl
  refine withReadme.replace rfl rfl (.inr (.inr (.inl ?_)))
  rw [(new_ok isAppA).1]
  exact Prod.ext body.appA_id rfl

variable {homes : VertexFsHomes} {world after : FsWorld}

theorem VertexFsHomes.Holds.step (holds : homes.Holds world.vertexfs) (step : world.Step after) :
    homes.Holds after.vertexfs := by
  have prepared (backing : Nat) :
      homes.Holds (exec (prepareVertexFsSyncFile backing) world.vertexfs).2 :=
    holds.staysPut (evolves_prepareVertexFsSyncFile (holds.has backing).behind)
  cases step with
  | operates operates =>
    obtain ⟨effect, -, -⟩ := operates
    exact holds.effect effect
  | @starts backing starts =>
    obtain ⟨run, -⟩ := starts
    have kept := prepared backing
    rwa [run] at kept
  | prepares prepares =>
    obtain ⟨backing⟩ := prepares
    exact prepared _
  | sends sends =>
    obtain ⟨-, -, -⟩ := sends
    exact holds
  | finishes finishes =>
    obtain @⟨_, _, waiter, _, -, -, run⟩ := finishes
    have kept := holds.staysPut
      ((always_finishVertexFsSyncFile waiter.backing waiter.checksum).evolves _)
    rwa [run] at kept
  | breaks breaks =>
    obtain ⟨-, -, rfl | rfl⟩ := breaks
    · exact holds
    · exact holds.staysPut (staysPut_recordWritebackError _)

theorem VertexFsHomes.Holds.reaches (holds : homes.Holds world.vertexfs)
    (reaches : world.Reaches after) : homes.Holds after.vertexfs := by
  induction reaches with
  | refl => exact holds
  | tail _ step ih => exact ih.step step

theorem FsWorld.Boots.inPlace (boots : world.Boots boot) :
    ∃ homes : VertexFsHomes, homes.readme = boot.readme.inode.extent ∧
      homes.appA = boot.appA.inode.extent ∧ homes.Holds world.vertexfs := by
  obtain ⟨layout, generation, journal, base, appA, replayed, body, -, -, -, rfl⟩ :=
    parseVertexFsImage_ok.mp boots.accepted
  exact ⟨layout.homes world.device body, rfl, rfl, homes_holds_booted body boots.installed⟩

end

theorem VertexFsState.during_files (fs : VertexFsState) (image : Image)
    (writes : List VertexFsDeviceWrite) :
    (fs.during image writes).files = fs.files ∧ (fs.during image writes).fileCount = fs.fileCount ∧
      (fs.during image writes).imageLoaded = fs.imageLoaded := by
  obtain ⟨_, found⟩ := { fs with image := image, syncWriteCount := 0 }.record_rest writes
  rw [during, found]
  exact ⟨rfl, rfl, rfl⟩

variable {fs prepared : VertexFsState}

theorem prepareVertexFsSyncFile_journaled {backing inodeId checksum writeCount : Nat}
    (run : exec (prepareVertexFsSyncFile backing) fs =
      (.ok (.journaled inodeId checksum writeCount), prepared)) :
    (fs.files backing).inodeId ≠ 0 ∧ backing < prepared.fileCount ∧
      checksum = vertexFsChecksum32 (fs.files backing).content ∧
      ∃ layout after metadata metadataWrites,
        Committed (fs.files backing) checksum fs layout after metadata metadataWrites ∧
        prepared.image = journalCleanImage after metadata ∧
        prepared.recorded =
          commitWrites layout after fs.image (fs.files backing) metadata metadataWrites ∧
        writeCount = prepared.recorded.length := by
  unfold prepareVertexFsSyncFile at run
  rw [exec_get_bind] at run
  obtain ⟨inside, run⟩ := exec_require_bind_ok.mp run
  rw [exec_modify_bind, exec_get_bind, exec_ite] at run
  split at run
  · obtain ⟨_, _, -, run⟩ := exec_bind_ok.mp run
    obtain ⟨result, -⟩ := exec_pure_ok.mp run
    cases result
  rename_i hasInode
  rw [exec_get_bind, exec_ite] at run
  split at run
  · rw [exec_modify_bind] at run
    cases run
  obtain ⟨outcome, committedFs, commitRun, run⟩ := exec_bind_ok.mp run
  rw [exec_attempt] at commitRun
  injection commitRun with isOutcome isState
  injection isOutcome with isOutcome
  cases outcome with
  | error error =>
    rw [exec_modify_bind] at run
    cases run
  | ok count =>
    obtain ⟨result, rfl⟩ := exec_pure_ok.mp run
    injection result with _ isChecksum isCount
    subst isChecksum isCount
    obtain ⟨layout, after, metadata, metadataWrites, committed, rfl, rfl⟩ :=
      commitVertexFsFileToImage_ok (Prod.ext isOutcome isState)
    refine ⟨hasInode, ?_, rfl, layout, after, metadata, metadataWrites,
      ⟨committed.fits, committed.format, committed.extent, committed.formatAfter,
        committed.written, committed.accepted, committed.room⟩, ?_, ?_, ?_⟩
    · rw [(during_files ..).2.1]
      exact inside
    · exact during_image ..
    · exact during_recorded ..
    · rw [during_recorded]

theorem one_le_recorded {backing inodeId checksum writeCount : Nat}
    (run : exec (prepareVertexFsSyncFile backing) fs =
      (.ok (.journaled inodeId checksum writeCount), prepared)) : 1 ≤ prepared.recorded.length := by
  obtain ⟨-, -, -, layout, formatAfter, metadata, metadataWrites, committed, -, recorded, -⟩ :=
    prepareVertexFsSyncFile_journaled run
  have journalCount := (placed_of_layoutFromSuperblock committed.format).journalCount
  rw [recorded]
  simp only [commitWrites, List.length_append, sectorWrites_length]
  omega

theorem prepareVertexFsSyncFile_ok {fs committed : VertexFsState} {backing count : Nat}
    (inside : backing < fs.fileCount) (hasInode : (fs.files backing).inodeId ≠ 0)
    (loaded : fs.imageLoaded = true)
    (run : exec (commitVertexFsFileToImage (fs.files backing)
      (vertexFsChecksum32 (fs.files backing).content))
      (fs.beginVertexFsPageCacheWriteback backing) = (.ok count, committed)) :
    exec (prepareVertexFsSyncFile backing) fs =
      (.ok (.journaled (fs.files backing).inodeId
        (vertexFsChecksum32 (fs.files backing).content) count), committed) := by
  unfold prepareVertexFsSyncFile
  refine exec_require_bind_ok.mpr ⟨inside, ?_⟩
  have hasImage : ¬(fs.beginVertexFsPageCacheWriteback backing).imageLoaded = false := by
    simp [beginVertexFsPageCacheWriteback, updatePagesOf, loaded]
  rw [exec_modify_bind, exec_get_bind, exec_ite, if_neg (by exact hasInode), exec_get_bind,
    exec_ite, if_neg hasImage]
  refine exec_bind_ok.mpr ⟨.ok count, committed, ?_, rfl⟩
  exact congrArg (fun result => (Except.ok result.1, result.2)) run

theorem exists_prepared_known {fs : VertexFsState} {backing index : Nat} {layout : VertexFsLayout}
    {generation : Bytes} (clean : CleanImage layout fs.image generation)
    (known : KnownFile layout fs.image index (fs.files backing)) (inside : backing < fs.fileCount)
    (loaded : fs.imageLoaded = true) (room : (fs.files backing).sectorCount ≤ 14)
    (tableRoom : layout.inodeTable.sectorCount ≤ 8) :
    ∃ writeCount prepared, exec (prepareVertexFsSyncFile backing) fs =
        (.ok (.journaled (fs.files backing).inodeId
          (vertexFsChecksum32 (fs.files backing).content) writeCount), prepared) ∧
      prepared.image = knownCommittedImage layout fs.image index (fs.files backing)
        (vertexFsChecksum32 (fs.files backing).content) ∧
      prepared.files = fs.files ∧ prepared.fileCount = fs.fileCount ∧
      prepared.imageLoaded = fs.imageLoaded := by
  have hasInode : (fs.files backing).inodeId ≠ 0 := by
    rw [known.inodeId]
    omega
  have pinned : CleanImage layout (fs.beginVertexFsPageCacheWriteback backing).image generation :=
    clean
  have run := commit_known_ok pinned known rfl room tableRoom
  have table := (fs.beginVertexFsPageCacheWriteback backing).during_files
    (knownCommittedImage layout fs.image index (fs.files backing)
      (vertexFsChecksum32 (fs.files backing).content))
    (commitWrites layout layout fs.image (fs.files backing)
      (knownMetadataImage layout fs.image index (fs.files backing)
        (vertexFsChecksum32 (fs.files backing).content))
      (sectorWrites (knownMetadataImage layout fs.image index (fs.files backing)
        (vertexFsChecksum32 (fs.files backing).content)) layout.inodeTable))
  exact ⟨_, _, prepareVertexFsSyncFile_ok inside hasInode loaded run, during_image .., table⟩

namespace FsWorld

/-- A sync goes on while processes use the files. -/
inductive Proceeds (world after : FsWorld) : Prop
  | operates (operates : world.Operates after)
  | sends (sends : world.Sends after)

/-- One sync from its start to its good end, with no other sync on its way. -/
structure Syncs (backing : Nat) (before after : FsWorld) : Prop where
  alone : before.waiters = []
  run : ∃ started last, before.Starts backing started ∧
    Relation.ReflTransGen Proceeds started last ∧ last.Finishes after

/-- A sync on its own, after some of its writes were acknowledged. -/
structure Underway (device : Image) (image : Image) (writes : List VertexFsDeviceWrite)
    (world : FsWorld) : Prop where
  image : world.vertexfs.image = image
  recorded : world.vertexfs.recorded = writes
  waits : ∃ waiter, world.waiters = [waiter] ∧ waiter.writeCount = writes.length ∧
    ∃ sent, waiter.nextWrite = sent + 1 ∧ writes[sent]? = some waiter.queued ∧
      world.device = applyWrites device (writes.take sent)

section

variable {world after : FsWorld} {device image : Image} {writes : List VertexFsDeviceWrite}

theorem eq_nil_of_singleton {α : Type} {one other : α} {first rest : List α}
    (split : [one] = first ++ other :: rest) : one = other ∧ first = [] ∧ rest = [] := by
  cases first with
  | nil =>
    cases split
    exact ⟨rfl, rfl, rfl⟩
  | cons head tail =>
    have tooShort := congrArg List.length split
    simp at tooShort

theorem applyWrites_take_succ {sent : Nat} {write : VertexFsDeviceWrite}
    (found : writes[sent]? = some write) :
    applyWrite (applyWrites device (writes.take sent)) write =
      applyWrites device (writes.take (sent + 1)) := by
  rw [List.take_add_one, found, applyWrites_append]
  rfl

theorem Underway.proceeds (underway : Underway device image writes world)
    (proceeds : world.Proceeds after) : Underway device image writes after := by
  obtain ⟨sameImage, recorded, waiter, alone, count, sent, next, queued, written⟩ := underway
  cases proceeds with
  | operates operates =>
    obtain ⟨-, image', recorded'⟩ := operates
    exact ⟨image'.trans sameImage, recorded'.trans recorded, waiter, alone, count, sent, next,
      queued, written⟩
  | sends sends =>
    obtain ⟨waits, more, found⟩ := sends
    obtain ⟨rfl, rfl, rfl⟩ := eq_nil_of_singleton (alone.symm.trans waits)
    refine ⟨sameImage, recorded, _, rfl, count, sent + 1, by simp [next], ?_, ?_⟩
    · rw [recorded, next] at found
      exact found
    · dsimp only
      rw [written, applyWrites_take_succ queued]

theorem Underway.breaks (underway : Underway device image writes world)
    (breaks : world.Breaks after) :
    after.vertexfs.image = image ∧ ∃ sent, after.device = applyWrites device (writes.take sent) := by
  obtain ⟨sameImage, recorded, waiter, alone, count, sent, next, queued, written⟩ := underway
  obtain @⟨_, _, found, device', left, waits, isWritten, marked⟩ := breaks
  obtain ⟨rfl, rfl, rfl⟩ := eq_nil_of_singleton (alone.symm.trans waits)
  refine ⟨?_, ?_⟩
  · rcases marked with rfl | rfl
    · exact sameImage
    · rw [← sameImage]
      change (recordVertexFsPageCacheWritebackError ..).image = _
      unfold recordVertexFsPageCacheWritebackError
      split <;> rfl
  · rcases isWritten with rfl | rfl
    · exact ⟨sent, written⟩
    · refine ⟨sent + 1, ?_⟩
      dsimp only
      rw [written, applyWrites_take_succ queued]

theorem Underway.finishes (underway : Underway device image writes world)
    (finishes : world.Finishes after) :
    after.vertexfs.image = image ∧ after.device = applyWrites device writes ∧
      after.waiters = [] := by
  obtain ⟨sameImage, recorded, waiter, alone, count, sent, next, queued, written⟩ := underway
  obtain @⟨_, _, found, finished, waits, last, run⟩ := finishes
  obtain ⟨rfl, rfl, rfl⟩ := eq_nil_of_singleton (alone.symm.trans waits)
  refine ⟨?_, ?_, rfl⟩
  · unfold finishVertexFsSyncFile at run
    rw [exec_get_bind] at run
    obtain ⟨-, run⟩ := exec_require_bind_ok.mp run
    cases run
    exact sameImage
  · have complete : writes.take (sent + 1) = writes := List.take_of_length_le (by omega)
    dsimp only
    rw [written, applyWrites_take_succ queued, complete]

theorem Starts.underway {before started last : FsWorld} {backing : Nat}
    (alone : before.waiters = []) (starts : before.Starts backing started)
    (proceeds : Relation.ReflTransGen Proceeds started last) :
    ∃ inodeId checksum writeCount prepared,
      exec (prepareVertexFsSyncFile backing) before.vertexfs =
        (.ok (.journaled inodeId checksum writeCount), prepared) ∧
      Underway before.device prepared.image prepared.recorded last := by
  obtain @⟨inodeId, checksum, writeCount, first, prepared, run, queued⟩ := starts
  obtain ⟨-, -, -, _, _, _, _, -, -, -, count⟩ := prepareVertexFsSyncFile_journaled run
  refine ⟨inodeId, checksum, writeCount, prepared, run, ?_⟩
  induction proceeds with
  | refl => exact ⟨rfl, rfl, _, by rw [alone], count, 0, rfl, queued, rfl⟩
  | tail _ step ih => exact ih.proceeds step

end

theorem Syncs.committed {before after : FsWorld} {backing : Nat} {homes : VertexFsHomes}
    (holds : homes.Holds before.vertexfs) (syncs : before.Syncs backing after) :
    (before.vertexfs.files backing).InData homes.layout ∧
      ∃ metadata metadataWrites,
        Committed (before.vertexfs.files backing)
          (vertexFsChecksum32 (before.vertexfs.files backing).content) before.vertexfs
          homes.layout homes.layout metadata metadataWrites ∧
        after.vertexfs.image = journalCleanImage homes.layout metadata ∧
        after.device = applyWrites before.device (commitWrites homes.layout homes.layout
          before.vertexfs.image (before.vertexfs.files backing) metadata metadataWrites) ∧
        after.waiters = [] := by
  obtain ⟨alone, started, last, starts, proceeds, finishes⟩ := syncs
  obtain ⟨inodeId, checksum, writeCount, prepared, run, underway⟩ := starts.underway alone proceeds
  obtain ⟨hasInode, -, rfl, layout, formatAfter, metadata, metadataWrites, committed, image,
    recorded, -⟩ := prepareVertexFsSyncFile_journaled run
  have inData := (holds.has backing).inData hasInode
  obtain rfl : layout = homes.layout := by
    have same := committed.format.symm.trans holds.format
    injection same
  obtain rfl := committed.after_eq inData
  obtain ⟨sameImage, written, idle⟩ := underway.finishes finishes
  exact ⟨inData, metadata, metadataWrites, committed, sameImage.trans image,
    recorded ▸ written, idle⟩

theorem exists_finishes (left : Nat) (world : FsWorld) (waiter : SyncWaiter)
    (alone : world.waiters = [waiter])
    (count : waiter.nextWrite + left = world.vertexfs.recorded.length)
    (all : waiter.writeCount = world.vertexfs.recorded.length)
    (inside : waiter.backing < world.vertexfs.fileCount) :
    ∃ last after, Relation.ReflTransGen Proceeds world last ∧ last.Finishes after := by
  induction left generalizing world waiter with
  | zero =>
    have run : exec (finishVertexFsSyncFile waiter.backing waiter.checksum) world.vertexfs =
        (.ok (), _) := exec_require_bind_ok.mpr ⟨inside, rfl⟩
    exact ⟨world, _, .refl, @Finishes.intro world [] [] waiter _ alone (by omega) run⟩
  | succ left ih =>
    have more : waiter.nextWrite < world.vertexfs.recorded.length := by omega
    have sends := @Sends.intro world [] [] waiter _ alone (by omega)
      (List.getElem?_eq_getElem more)
    have further : waiter.nextWrite + 1 + left = world.vertexfs.recorded.length := by omega
    obtain ⟨last, after, proceeds, finishes⟩ := ih { world with
        device := applyWrite world.device waiter.queued
        waiters := [{ waiter with
          nextWrite := waiter.nextWrite + 1
          queued := world.vertexfs.recorded[waiter.nextWrite] }] } _ rfl further all inside
    exact ⟨last, after, .head (.sends sends) proceeds, finishes⟩

theorem exists_syncs {world : FsWorld} {backing inodeId checksum writeCount : Nat}
    {prepared : VertexFsState} (alone : world.waiters = [])
    (run : exec (prepareVertexFsSyncFile backing) world.vertexfs =
      (.ok (.journaled inodeId checksum writeCount), prepared)) :
    ∃ after, world.Syncs backing after := by
  obtain ⟨-, inside, -, _, _, _, _, -, -, -, count⟩ := prepareVertexFsSyncFile_journaled run
  have nonempty := one_le_recorded run
  have starts := Starts.intro run (List.getElem?_eq_getElem nonempty)
  rw [alone] at starts
  obtain ⟨last, after, proceeds, finishes⟩ := exists_finishes (prepared.recorded.length - 1)
    { world.withVertexFs prepared with
      waiters := [⟨backing, checksum, writeCount, 1, prepared.recorded[0]⟩] } _
    rfl (Nat.add_sub_cancel' nonempty) count inside
  exact ⟨after, alone, _, last, starts, proceeds, finishes⟩

end FsWorld

end VertexOS
