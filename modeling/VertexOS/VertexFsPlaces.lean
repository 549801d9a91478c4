import VertexOS.VertexFsDevice
import VertexOS.VertexFsSteps

/-!
# The places of files on the device

A file keeps its inode number and its extent from its creation to its release.  No
step of the file system moves one, and no sync reaches the superblock as long as the
extents of the files stay behind it.
-/

namespace VertexOS

open ByteStrings ByteImages FailingCalls

def VfsVertexFsFile.place (file : VfsVertexFsFile) : Nat × VertexFsSection :=
  (file.inodeId, file.extent)

namespace VertexFsState

/-- A step that moves no file and keeps the superblock. -/
structure StaysPut (fs after : VertexFsState) : Prop where
  superblock : SectionAgree vertexFsSuperblock fs.image after.image
  place : ∀ backing, (after.files backing).place = (fs.files backing).place

instance : Std.Refl StaysPut := ⟨fun _ => ⟨fun _ _ => rfl, fun _ => rfl⟩⟩

instance : IsTrans VertexFsState StaysPut where
  trans _ _ _ one two :=
    ⟨one.superblock.trans two.superblock, fun backing =>
    (two.place backing).trans (one.place backing)⟩

section

variable {fs after : VertexFsState}

theorem StaysPut.of_eq (image : after.image = fs.image) (files : after.files = fs.files) :
    fs.StaysPut after := by
  refine ⟨?_, fun backing => ?_⟩
  · rw [image]
    exact fun _ _ => rfl
  · rw [files]

theorem StaysPut.of_update {backing : Nat} {file : VfsVertexFsFile}
    (image : after.image = fs.image) (files : after.files = Function.update fs.files backing file)
    (place : file.place = (fs.files backing).place) : fs.StaysPut after := by
  refine ⟨?_, fun other => ?_⟩
  · rw [image]
    exact fun _ _ => rfl
  · rw [files]
    by_cases same : other = backing
    · subst same
      rw [Function.update_self, place]
    · rw [Function.update_of_ne same]

theorem staysPut_recordWritebackError (backing : Nat) :
    fs.StaysPut (fs.recordVertexFsPageCacheWritebackError backing) := by
  unfold recordVertexFsPageCacheWritebackError
  split
  · exact refl_of StaysPut fs
  · exact .of_update rfl rfl rfl

end

end VertexFsState

open VertexFsState

theorem always_ensureVertexFsPageCachePage (mountId backing pageOffset : Nat) :
    Always StaysPut (ensureVertexFsPageCachePage mountId backing pageOffset) := by
  refine .get_bind fun fs => .fromExcept_bind fun inodeId _ => ?_
  split
  · exact .pure _
  · exact .fromExcept_bind fun slot _ => .set_bind (.of_eq rfl rfl) (.pure _)

theorem always_ensureVertexFsPageCacheDirty (index : PageIndex) :
    Always StaysPut (ensureVertexFsPageCacheDirty index) :=
  .get_bind fun _ => .require_bind fun _ => (Always.require _ _).evolves _

theorem always_readVertexFsPageCache (mountId backing offset maxLen : Nat) (copied : Bool) :
    Always StaysPut (readVertexFsPageCache mountId backing offset maxLen copied) := by
  refine .get_bind fun fs => .require_bind fun _ => ?_
  refine .ite (fun _ => .pure _) fun _ => ?_
  refine (Always.bind (always_ensureVertexFsPageCachePage ..) fun index => ?_).evolves fs
  exact .get_bind fun _ => .require_bind fun _ => .require_bind fun _ => .pure _

theorem always_writeVertexFsPageCache (mountId backing offset : Nat) (bytes : Bytes) :
    Always StaysPut (writeVertexFsPageCache mountId backing offset bytes) := by
  refine .bind (.require ..) fun _ => .get_bind fun fs =>
    .require_bind fun _ => .ite (fun _ => .pure _) fun _ => ?_
  refine (Always.bind (always_ensureVertexFsPageCachePage ..) fun index =>
    .bind (always_ensureVertexFsPageCacheDirty index) fun _ => .bind (.modify fun fs => ?_) fun _ =>
    .pure _).evolves fs
  exact .of_update rfl rfl rfl

theorem always_truncateVertexFsPageCache (mountId backing len : Nat) :
    Always StaysPut (truncateVertexFsPageCache mountId backing len) := by
  refine .bind (.require ..) fun _ => .get_bind fun fs => .require_bind fun _ =>
    .get_bind (.ite (fun _ => .pure _) fun _ => ?_)
  refine (Always.bind (always_ensureVertexFsPageCachePage ..) fun index =>
    .bind (always_ensureVertexFsPageCacheDirty index) fun _ => .modify fun fs => ?_).evolves fs
  exact .of_update rfl rfl rfl

theorem always_finishVertexFsSyncFile (backing checksum : Nat) :
    Always StaysPut (finishVertexFsSyncFile backing checksum) :=
  .get_bind fun _ => .require_bind fun _ => .modify (.of_update rfl rfl rfl)

section

variable {layout : VertexFsLayout} {file : VfsVertexFsFile} {fs : VertexFsState}

theorem VertexFsLayout.Placed.behind (placed : layout.Placed) :
    1 ≤ layout.inodeTable.firstSector ∧ 1 ≤ layout.directory.firstSector ∧
      1 ≤ layout.freeMap.firstSector ∧ 1 ≤ layout.journal.firstSector ∧
      1 ≤ layout.data.firstSector := by
  have row := placed.row
  omega

def Behind (write : Image → Image) : Prop :=
  ∀ image, ∀ address < vertexFsSectorSize, write image address = image address

theorem Behind.of_outside {write : Image → Image} {part : VertexFsSection}
    (outside : ∀ image, UnchangedOutside part image (write image))
    (behind : 1 ≤ part.firstSector) : Behind write := by
  intro image address before
  refine (outside image address fun inside => ?_).symm
  simp only [VertexFsSection.At, VertexFsSection.address, vertexFsSectorSize] at *
  omega

section

variable {R : VertexFsState → VertexFsState → Prop} [Std.Refl R] [IsTrans VertexFsState R]
  (written : ∀ {write}, Behind write → Always R (writeImage write))
  (recorded : ∀ sector, Always R (recordVertexFsSyncSector sector))

include recorded in
theorem always_recordVertexFsSyncSectors (firstSector count : Nat) :
    Always R (recordVertexFsSyncSectors firstSector count) := by
  induction count with
  | zero => exact .pure ()
  | succ count ih => exact .bind ih fun _ => recorded _

include written in
theorem always_writeVertexFsDynamicMetadata (placed : layout.Placed) (checksum : Nat) :
    Always R (writeVertexFsDynamicMetadata layout file checksum) := by
  obtain ⟨table, directory, freeMap, -⟩ := placed.behind
  refine .bind (.fromExcept _) fun dynamicIndex => .bind (.require ..)
    fun _ => .bind ?_ fun _ => .bind ?_ fun _ => .bind (.require ..) fun _ => .bind .get fun _ =>
    .bind (.require ..) fun _ => written fun _ _ before => ?_
  -- the two tables are extended alike
  any_goals
    refine Always.bind .get fun _ => .bind (.require ..) fun _ =>
      .bind (written fun _ _ before => ?_) fun _ => .bind (.require ..) fun _ =>
      .bind (written fun _ _ before => ?_) fun _ => .bind (.require ..) fun _ =>
      written fun _ _ before => ?_
  all_goals
    simp only [vertexFsSectorSize, writeVertexFsSectorChecksum_eq, inodeOffset_eq,
      directoryOffset_eq, VertexFsSection.address] at *
    simp (disch := omega) only [writeLe_outside, writeBytes_outside]

include written recorded

theorem always_commitVertexFsMetadata (placed : layout.Placed) (checksum : Nat) (known : Bool) :
    Always R (commitVertexFsMetadata layout file checksum known) := by
  have sent := always_recordVertexFsSyncSectors recorded
  have table := placed.behind.1
  refine .ite ?_ ?_
  · refine .bind (.bind .get fun _ => .bind (.fromExcept _) fun _ =>
      .bind (.fromOption ..) fun index => written fun _ _ before => ?_) fun _ => sent ..
    simp only [inodeRecordImage_eq, writeVertexFsSectorChecksum_eq, vertexFsSectorSize,
      VertexFsSection.address] at *
    simp (disch := omega) only [writeLe_outside]
  · exact .bind (always_writeVertexFsDynamicMetadata written placed checksum) fun _ =>
      .bind (sent ..) fun _ => .bind (sent ..) fun _ => sent ..

theorem always_commitVertexFsFileToImage (cleared : ∀ fs, R fs { fs with syncWriteCount := 0 })
    (extent : file.len ≤ file.sectorCount * vertexFsSectorSize →
      Always R (writeImage fun image => fileExtentImage image file)) (checksum : Nat) :
    Always R (commitVertexFsFileToImage file checksum) := by
  have sent := always_recordVertexFsSyncSectors recorded
  refine ⟨fun fs => .require_bind fun fits => .modify_bind (cleared fs)
    (.get_bind (.fromExcept_bind fun layout format => ?_))⟩
  have placed := placed_of_layoutFromSuperblock (vertexFsLayoutForImage_ok.mp format)
  have content : file.content.length ≤ vertexFsSectorSize - vertexFsJournalPayloadOffset := by
    rw [VfsVertexFsFile.content_length]
    exact fits.2.2
  refine (Always.bind (written (.of_outside
    (fun image => journalPendingImage_outside placed image file.inodeId content)
    placed.behind.2.2.2.1)) fun _ => .bind (sent ..) fun _ =>
    .bind (.bind (.require ..) fun _ => extent fits.2.1) fun _ => .bind (sent ..) fun _ =>
    .get_bind fun fs => .fromExcept_bind fun known _ =>
      .get_bind (.fromExcept_bind fun after formatAfter => ?_)).evolves _
  have placedAfter := placed_of_layoutFromSuperblock (vertexFsLayoutForImage_ok.mp formatAfter)
  refine (Always.bind (always_commitVertexFsMetadata written recorded placedAfter checksum known)
    fun _ => .bind (written (.of_outside (journalCleanImage_outside placedAfter)
      placedAfter.behind.2.2.2.1)) fun _ => .bind (sent ..) fun _ =>
    .bind .get fun _ => .bind (.require ..) fun _ => .bind .get fun _ =>
    .pure _).evolves fs

end

theorem always_staysPut_commit (behind : 1 ≤ file.firstSector) (checksum : Nat) :
    Always StaysPut (commitVertexFsFileToImage file checksum) := by
  have written {write : Image → Image} (behind : Behind write) :
      Always StaysPut (writeImage write) := by
    refine .modify fun fs => ⟨fun address inside => (behind fs.image address ?_).symm, fun _ => rfl⟩
    simpa [VertexFsSection.At, VertexFsSection.address, vertexFsSuperblock,
      VertexFsSection.byteCount] using inside
  exact always_commitVertexFsFileToImage written (fun sector => .get_bind fun _ =>
    .require_bind fun _ => .require_bind fun _ => .set (.of_eq rfl rfl))
    (fun _ => .of_eq rfl rfl) (fun fits => written (.of_outside
      (fun _ => (fileExtentImage_outside fits : UnchangedOutside file.extent _ _)) behind)) checksum

theorem evolves_prepareVertexFsSyncFile {backing : Nat}
    (behind : (fs.files backing).inodeId = 0 ∨ 1 ≤ (fs.files backing).firstSector) :
    Evolves StaysPut (prepareVertexFsSyncFile backing) fs := by
  refine .get_bind (.require_bind fun _ => .modify_bind (.of_eq rfl rfl) (.get_bind ?_))
  refine .ite (fun _ => ?_) fun hasInode => .get_bind (.ite (fun _ => ?_) fun _ => ?_)
  · exact (Always.bind (always_finishVertexFsSyncFile backing _) fun _ => .pure _).evolves _
  · exact .modify_bind (staysPut_recordWritebackError backing) (.throw _)
  · refine (Always.bind (.attempt (always_staysPut_commit
      (behind.resolve_left hasInode) _)) fun outcome => ?_).evolves _
    cases outcome with
    | ok writeCount => exact .pure _
    | error error =>
      exact .bind (.modify fun fs => staysPut_recordWritebackError backing) fun _ => .throw error

end

def VertexFsSection.Within (part whole : VertexFsSection) : Prop :=
  whole.firstSector ≤ part.firstSector ∧
    part.firstSector + part.sectorCount ≤ whole.firstSector + whole.sectorCount

/-- The places that an image has for files: the two files of the boot image and one place
for each file that may be created. -/
structure VertexFsHomes where
  layout : VertexFsLayout
  placed : layout.Placed
  readme : VertexFsSection
  readmeWithin : readme.Within layout.data
  appA : VertexFsSection
  appAWithin : appA.Within layout.data

namespace VertexFsHomes

variable (homes : VertexFsHomes) {mountId : Nat}

def created (dynamicIndex : Nat) : Nat × VertexFsSection :=
  (vertexFsDynamicInodeFirst + dynamicIndex, ⟨homes.layout.dynamicDataSector dynamicIndex, 1⟩)

/-- The file has one of the places, or no inode at all. -/
def Has (file : VfsVertexFsFile) : Prop :=
  file.inodeId = 0 ∨ file.place = (vertexFsInodeReadme, homes.readme) ∨
    file.place = (vertexFsInodeAppA, homes.appA) ∨
    ∃ dynamicIndex < homes.layout.dynamicFileCapacity, file.place = homes.created dynamicIndex

variable {homes} {file : VfsVertexFsFile}

theorem Has.inData (has : homes.Has file) (hasInode : file.inodeId ≠ 0) :
    file.InData homes.layout := by
  obtain none | isReadme | isAppA | ⟨dynamicIndex, inside, isCreated⟩ := has
  · exact absurd none hasInode
  · have extent : file.extent = homes.readme := congrArg Prod.snd isReadme
    have within : file.extent.Within homes.layout.data := extent ▸ homes.readmeWithin
    exact within
  · have extent : file.extent = homes.appA := congrArg Prod.snd isAppA
    have within : file.extent.Within homes.layout.data := extent ▸ homes.appAWithin
    exact within
  · have extent : file.extent = ⟨homes.layout.dynamicDataSector dynamicIndex, 1⟩ :=
      congrArg Prod.snd isCreated
    have dynamicFit := homes.placed.dynamicFit
    have within : file.extent.Within homes.layout.data := by
      rw [extent]
      simp only [VertexFsSection.Within, VertexFsLayout.dynamicDataSector]
      omega
    exact within

theorem Has.behind (has : homes.Has file) : file.inodeId = 0 ∨ 1 ≤ file.firstSector := by
  by_cases hasInode : file.inodeId = 0
  · exact .inl hasInode
  · exact .inr (homes.placed.behind.2.2.2.2.trans (has.inData hasInode).1)

theorem has_of_place {other : VfsVertexFsFile} (same : other.place = file.place)
    (has : homes.Has file) : homes.Has other := by
  have inode : other.inodeId = file.inodeId := congrArg Prod.fst same
  unfold Has at has ⊢
  rwa [same, inode]

/-- The shadow image has this format, and every open file is in its place. -/
structure Holds (homes : VertexFsHomes) (fs : VertexFsState) : Prop where
  format : vertexFsLayoutFromSuperblock fs.image = .ok homes.layout
  has : ∀ backing, homes.Has (fs.files backing)

variable {fs after : VertexFsState} {vfs : VfsState}

theorem Holds.staysPut (holds : homes.Holds fs) (put : fs.StaysPut after) : homes.Holds after where
  format := (superblock_agree homes.placed put.superblock).1 ▸ holds.format
  has backing := has_of_place (put.place backing) (holds.has backing)

theorem Holds.replace {index : Nat} (holds : homes.Holds fs) (image : after.image = fs.image)
    (files : after.files = Function.update fs.files index file) (has : homes.Has file) :
    homes.Holds after := by
  refine ⟨image ▸ holds.format, fun other => ?_⟩
  rw [files]
  by_cases same : other = index
  · subst same
    rwa [Function.update_self]
  · rw [Function.update_of_ne same]
    exact holds.has other

theorem freeDynamicInode_some (format : vertexFsLayoutFromSuperblock vfs.vertexfs.image = .ok homes.layout)
    {indices : List Nat} {inodeId firstSector : Nat}
    (free : vfs.freeDynamicInode indices = .ok (some (inodeId, firstSector))) :
    ∃ dynamicIndex < homes.layout.dynamicFileCapacity,
      (inodeId, (⟨firstSector, 1⟩ : VertexFsSection)) = homes.created dynamicIndex := by
  have layoutFor : vertexFsLayoutForImage vfs.vertexfs.image = .ok homes.layout :=
    vertexFsLayoutForImage_ok.mpr format
  induction indices with
  | nil => cases free
  | cons index rest ih =>
    unfold VfsState.freeDynamicInode at free
    split at free
    · cases free
    · rename_i candidate isCandidate
      split at free
      · exact ih free
      · obtain ⟨known, -, free⟩ := outcome_bind_ok.mp free
        split at free
        · exact ih free
        · obtain ⟨sector, isSector, free⟩ := outcome_bind_ok.mp free
          cases free
          obtain ⟨layout, isLayout, isCandidate⟩ := outcome_bind_ok.mp isCandidate
          obtain ⟨layout', isLayout', isSector⟩ := outcome_bind_ok.mp isSector
          cases layoutFor.symm.trans isLayout
          cases layoutFor.symm.trans isLayout'
          split at isCandidate
          · cases isCandidate
          · rename_i inside
            rw [if_neg inside] at isSector
            cases isCandidate
            cases isSector
            exact ⟨index, by omega, rfl⟩

theorem Holds.addEmptyVertexFsFile {name : VfsName} {parentInodeId index : Nat} {made : VfsState}
    (holds : homes.Holds vfs.vertexfs)
    (added : vfs.addEmptyVertexFsFile name parentInodeId = .ok (index, made)) :
    homes.Holds made.vertexfs := by
  unfold VfsState.addEmptyVertexFsFile at added
  split at added
  · cases added
  · split at added
    · cases added
    · obtain ⟨slot, isFree, added⟩ := outcome_bind_ok.mp added
      split at added
      · cases added
      · split at added
        · cases added
        · cases added
          have place := freeDynamicInode_some holds.format isFree
          exact holds.replace rfl rfl (.inr (.inr (.inr place)))

theorem Holds.vertexFsStep {failing : Option Nat} (holds : homes.Holds fs)
    (step : VertexFsStep mountId failing fs after) : homes.Holds after := by
  cases step with
  | reads => exact holds.staysPut ((always_readVertexFsPageCache ..).evolves fs)
  | writes => exact holds.staysPut ((always_writeVertexFsPageCache ..).evolves fs)
  | truncates => exact holds.staysPut ((always_truncateVertexFsPageCache ..).evolves fs)
  | @prepares _ _ backing _ run | @unprepared _ _ backing _ run =>
    have prepares := evolves_prepareVertexFsSyncFile (holds.has backing).behind
    unfold Evolves at prepares
    rw [run] at prepares
    exact holds.staysPut prepares
  | finishes => exact holds.staysPut ((always_finishVertexFsSyncFile ..).evolves fs)
  | fails => exact holds.staysPut (staysPut_recordWritebackError _)
  | creates added => exact holds.addEmptyVertexFsFile added
  | releases released =>
    unfold VertexFsState.releaseVertexFsFile at released
    split at released
    · cases released
    · cases released
      exact holds.replace rfl rfl (.inl rfl)

theorem Holds.vertexFsSteps (holds : homes.Holds fs) (steps : VertexFsSteps mountId fs after) :
    homes.Holds after := by
  induction steps with
  | refl => exact holds
  | tail _ step ih =>
    obtain ⟨failing, step⟩ := step
    exact ih.vertexFsStep step

theorem Holds.effect {aligned : Prop} {after : VfsState} (holds : homes.Holds vfs.vertexfs)
    (effect : VfsEffect mountId aligned vfs after) : homes.Holds after.vertexfs :=
  holds.vertexFsSteps effect.steps

end VertexFsHomes

end VertexOS
