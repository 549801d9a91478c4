import VertexOS.FailedSyncs

/-!
# Dirty pages

A page turns dirty through a write or a truncation, which are refused beyond the
limit of dirty bytes.  Two other ways are not: a writeback that fails marks the page
of its file dirty, and a page that is read in is dirty when its file is.
-/

namespace VertexOS

open ByteStrings ByteImages FailingCalls

namespace VertexFsState

def dirtyPages (fs : VertexFsState) : Finset PageIndex :=
  {index | (fs.pageCache index).valid = true ∧ (fs.pageCache index).dirty = true}

@[simp]
theorem mem_dirtyPages {fs : VertexFsState} {index : PageIndex} :
    index ∈ fs.dirtyPages ↔
      (fs.pageCache index).valid = true ∧ (fs.pageCache index).dirty = true := by
  simp [dirtyPages]

theorem vertexFsPageCacheDirtyBytes_eq (fs : VertexFsState) :
    fs.vertexFsPageCacheDirtyBytes = vertexFsSectorSize * fs.dirtyPages.card := by
  unfold vertexFsPageCacheDirtyBytes dirtyBytesWhere dirtyPages
  have nodup : ((List.finRange maxVertexFsPageCachePages).filter fun index =>
      (fs.pageCache index).valid && (fs.pageCache index).dirty).Nodup :=
    (List.nodup_finRange _).filter _
  simp only [Bool.and_true]
  rw [List.countP_eq_length_filter, ← List.toFinset_card_of_nodup nodup, List.toFinset_filter]
  simp

theorem dirtyPages_of_empty {fs : VertexFsState} (empty : ∀ index, fs.pageCache index = .empty) :
    fs.dirtyPages = ∅ := by
  simp [dirtyPages, empty, VfsPageCachePage.empty]

theorem dirtyPages_edit {fs : VertexFsState} {index : PageIndex}
    {changePage : VfsPageCachePage → VfsPageCachePage} (valid : (fs.pageCache index).valid = true)
    (page : ∀ page, (changePage page).valid = page.valid ∧ (changePage page).dirty = true)
    (backing : Nat) (changeFile : VfsVertexFsFile → VfsVertexFsFile) :
    ((fs.updatePage index changePage).updateFile backing changeFile).dirtyPages =
      insert index fs.dirtyPages := by
  ext other
  rw [Finset.mem_insert, mem_dirtyPages, mem_dirtyPages]
  by_cases same : other = index
  · subst same
    simp [updateFile, updatePage, page, valid]
  · simp [updateFile, updatePage, same]

/-- Every dirty file has its dirty page in the cache, and they are within the limit. -/
structure Tracked (mountId : Nat) (fs : VertexFsState) : Prop extends Paged mountId fs where
  cached : ∀ backing, (fs.files backing).dirty = true →
    ∃ index, fs.PageAt backing index ∧ (fs.pageCache index).dirty = true
  bounded : fs.vertexFsPageCacheDirtyBytes ≤ vertexFsPageCacheDirtyByteLimit

section Tracked

variable {mountId backing : Nat} {fs after : VertexFsState} {index : PageIndex}

theorem dirtyBytes_le_of_subset (fewer : after.dirtyPages ⊆ fs.dirtyPages) :
    after.vertexFsPageCacheDirtyBytes ≤ fs.vertexFsPageCacheDirtyBytes := by
  rw [vertexFsPageCacheDirtyBytes_eq, vertexFsPageCacheDirtyBytes_eq]
  exact Nat.mul_le_mul_left _ (Finset.card_le_card fewer)

/-- A commit works on the shadow image and the recorded sectors only. -/
structure KeepsPages (fs after : VertexFsState) : Prop where
  files : after.files = fs.files
  pageCache : after.pageCache = fs.pageCache

/-- Nor does it change the number of files. -/
structure KeepsTable (fs after : VertexFsState) : Prop extends KeepsPages fs after where
  fileCount : after.fileCount = fs.fileCount

instance : Std.Refl KeepsTable := ⟨fun _ => ⟨⟨rfl, rfl⟩, rfl⟩⟩

instance : IsTrans VertexFsState KeepsTable where
  trans _ _ _ one two := ⟨⟨two.files.trans one.files, two.pageCache.trans one.pageCache⟩,
    two.fileCount.trans one.fileCount⟩

theorem updatePagesOf_other {change : VfsPageCachePage → VfsPageCachePage}
    (elsewhere : ¬fs.PageAt backing index) :
    (fs.updatePagesOf backing change).pageCache index = fs.pageCache index :=
  if_neg elsewhere

theorem ensureVertexFsPageCacheDirty_ok {done : Unit}
    (run : exec (ensureVertexFsPageCacheDirty index) fs = (.ok done, after)) :
    after = fs ∧ ((fs.pageCache index).dirty = true ∨
      fs.vertexFsPageCacheDirtyBytes + vertexFsSectorSize ≤ vertexFsPageCacheDirtyByteLimit) := by
  unfold ensureVertexFsPageCacheDirty at run
  rw [exec_get_bind] at run
  obtain ⟨-, run⟩ := exec_require_bind_ok.mp run
  rw [exec_require] at run
  split at run
  · rename_i room
    cases run
    exact ⟨rfl, room.imp_right And.left⟩
  · cases run

variable (tracked : fs.Tracked mountId)
include tracked

/-- A missing page is one of a clean file, and takes no dirty page's slot. -/
theorem Tracked.load {slot : PageIndex} (absent : ∀ index, ¬fs.PageAt backing index)
    (free : (fs.pageCache slot).valid = true → (fs.pageCache slot).dirty = false) :
    (fs.updatePage slot fun _ =>
      fs.freshPage mountId (fs.pageKey backing) backing 0).Tracked mountId := by
  have clean : (fs.files backing).dirty = false := by
    by_contra dirty
    obtain ⟨index, here, -⟩ := tracked.cached backing (by simpa using dirty)
    exact absent index here
  refine ⟨tracked.toPaged.load absent, fun other dirty => ?_, ?_⟩
  · obtain ⟨index, here, isDirty⟩ := tracked.cached other dirty
    have apart : index ≠ slot := by
      rintro rfl
      simp [free here.1] at isDirty
    refine ⟨index, ?_, ?_⟩
    · simpa only [PageAt, updatePage, Function.update_of_ne apart] using here
    · simpa only [updatePage, Function.update_of_ne apart] using isDirty
  · refine (dirtyBytes_le_of_subset fun index isDirty => ?_).trans tracked.bounded
    rw [mem_dirtyPages] at isDirty ⊢
    by_cases isSlot : index = slot
    · subst isSlot
      simp [updatePage, freshPage, clean] at isDirty
    · simpa only [updatePage, Function.update_of_ne isSlot] using isDirty

theorem Tracked.edit {changePage : VfsPageCachePage → VfsPageCachePage}
    {changeFile : VfsVertexFsFile → VfsVertexFsFile} (here : fs.PageAt backing index)
    (room : (fs.pageCache index).dirty = true ∨
      fs.vertexFsPageCacheDirtyBytes + vertexFsSectorSize ≤ vertexFsPageCacheDirtyByteLimit)
    (page : ∀ page, (changePage page).valid = page.valid ∧ (changePage page).dirty = true ∧
      (changePage page).address = page.address)
    (inode : ∀ file, (changeFile file).inodeId = file.inodeId)
    (len : (changeFile (fs.files backing)).len ≤ maxVertexFsFileBytes) :
    ((fs.updatePage index changePage).updateFile backing changeFile).Tracked mountId := by
  have paged := tracked.toPaged.edit here (fun page' => ⟨(page page').1, (page page').2.2⟩) inode len
  have grown := dirtyPages_edit here.1 (fun page' => ⟨(page page').1, (page page').2.1⟩) backing
    changeFile
  obtain ⟨valid, rfl⟩ := here
  refine ⟨paged, fun other dirty => ?_, ?_⟩
  · by_cases same : other = (fs.pageCache index).backing
    · have sameAddress := (page (fs.pageCache index)).2.2
      simp only [VfsPageCachePage.address, Prod.mk.injEq] at sameAddress
      refine ⟨index, ⟨?_, ?_⟩, ?_⟩
      · simp [updateFile, updatePage, (page _).1, valid]
      · simp [updateFile, updatePage, sameAddress.2.2.1, same]
      · simp [updateFile, updatePage, (page _).2.1]
    · simp only [updateFile, updatePage, Function.update_of_ne same] at dirty
      obtain ⟨place, ⟨isValid, isBacking⟩, isDirty⟩ := tracked.cached other dirty
      have apart : place ≠ index := by
        rintro rfl
        exact same isBacking.symm
      refine ⟨place, ⟨?_, ?_⟩, ?_⟩
      · simpa [updateFile, updatePage, apart] using isValid
      · simpa [updateFile, updatePage, apart] using isBacking
      · simpa [updateFile, updatePage, apart] using isDirty
  · rcases room with dirty | room
    · have member : index ∈ fs.dirtyPages := by simp [valid, dirty]
      rw [Finset.insert_eq_of_mem member] at grown
      exact (dirtyBytes_le_of_subset grown.le).trans tracked.bounded
    · have card := (Finset.card_le_card grown.le).trans (Finset.card_insert_le ..)
      rw [vertexFsPageCacheDirtyBytes_eq] at room ⊢
      exact (Nat.mul_le_mul_left _ card).trans room

theorem Tracked.settle (backing : Nat)
    (files : ∀ other, other ≠ backing → after.files other = fs.files other)
    (len : (after.files backing).len ≤ maxVertexFsFileBytes)
    (others : ∀ index, ¬fs.PageAt backing index → after.pageCache index = fs.pageCache index)
    (own : ∀ index, fs.PageAt backing index → (after.pageCache index).valid = true →
      (after.pageCache index).address = (fs.pageCache index).address ∧
      after.pageKey backing = fs.pageKey backing ∧
      ((after.pageCache index).dirty = true → (fs.pageCache index).dirty = true))
    (dirty : (after.files backing).dirty = true →
      ∃ index, after.PageAt backing index ∧ (after.pageCache index).dirty = true) :
    after.Tracked mountId := by
  refine ⟨tracked.toPaged.of_kept (fun other => ?_) fun index valid => ?_, fun other isDirty => ?_, ?_⟩
  · by_cases same : other = backing
    · rw [same]
      exact len
    · rw [files other same]
      exact tracked.len_le other
  · by_cases here : fs.PageAt backing index
    · obtain ⟨sameAddress, sameKey, -⟩ := own index here valid
      refine ⟨here.1, sameAddress, ?_⟩
      rw [here.2]
      exact sameKey
    · rw [others index here] at valid ⊢
      have apart : (fs.pageCache index).backing ≠ backing := fun same => here ⟨valid, same⟩
      refine ⟨valid, rfl, ?_⟩
      unfold pageKey
      rw [files _ apart]
  · by_cases same : other = backing
    · rw [same] at isDirty ⊢
      exact dirty isDirty
    · rw [files other same] at isDirty
      obtain ⟨index, here, pageDirty⟩ := tracked.cached other isDirty
      have apart : ¬fs.PageAt backing index := fun there => same (here.2.symm.trans there.2)
      refine ⟨index, ?_, ?_⟩
      · unfold PageAt
        rw [others index apart]
        exact here
      · rwa [others index apart]
  · refine (dirtyBytes_le_of_subset fun index isDirty => ?_).trans tracked.bounded
    rw [mem_dirtyPages] at isDirty ⊢
    by_cases here : fs.PageAt backing index
    · exact ⟨here.1, (own index here isDirty.1).2.2 isDirty.2⟩
    · rwa [others index here] at isDirty

theorem Tracked.begin (backing : Nat) :
    (fs.beginVertexFsPageCacheWriteback backing).Tracked mountId := by
  have pages : ∀ index, ((fs.beginVertexFsPageCacheWriteback backing).pageCache index).valid =
        (fs.pageCache index).valid ∧
      ((fs.beginVertexFsPageCacheWriteback backing).pageCache index).dirty =
        (fs.pageCache index).dirty ∧
      ((fs.beginVertexFsPageCacheWriteback backing).pageCache index).address =
        (fs.pageCache index).address := by
    intro index
    simp only [beginVertexFsPageCacheWriteback, updatePagesOf]
    split
    · split <;> exact ⟨rfl, rfl, rfl⟩
    · exact ⟨rfl, rfl, rfl⟩
  refine tracked.settle backing (fun _ _ => rfl) (tracked.len_le backing)
    (fun index elsewhere => updatePagesOf_other elsewhere)
    (fun index _ _ => ⟨(pages index).2.2, rfl, fun dirty => by rwa [(pages index).2.1] at dirty⟩)
    fun dirty => ?_
  obtain ⟨index, here, pageDirty⟩ := tracked.cached backing dirty
  have sameAddress := (pages index).2.2
  simp only [VfsPageCachePage.address, Prod.mk.injEq] at sameAddress
  exact ⟨index, ⟨(pages index).1.trans here.1, sameAddress.2.2.1.trans here.2⟩,
    (pages index).2.1.trans pageDirty⟩

theorem Tracked.finish (backing checksum : Nat) :
    ((fs.updateFile backing fun file =>
      { file with checksum, dirty := false }).finishVertexFsPageCacheWriteback backing).Tracked
        mountId := by
  set changed := fs.updateFile backing fun file => { file with checksum, dirty := false }
    with isChanged
  have own : ∀ index, fs.PageAt backing index →
      (changed.finishVertexFsPageCacheWriteback backing).pageCache index =
        (fs.pageCache index).cleaned (changed.files backing).len :=
    fun index here => if_pos here
  have file : changed.files backing = { fs.files backing with checksum, dirty := false } := by
    simp [isChanged, updateFile]
  refine tracked.settle backing (fun other apart => ?_) ?_ (fun index elsewhere => ?_)
    (fun index here _ => ?_) fun dirty => ?_
  · exact Function.update_of_ne apart ..
  · change (changed.files backing).len ≤ _
    rw [file]
    exact tracked.len_le backing
  · exact updatePagesOf_other elsewhere
  · refine ⟨?_, ?_, ?_⟩
    · rw [own index here]
      rfl
    · change changed.pageKey backing = _
      rw [pageKey, pageKey, file]
    · rw [own index here]
      intro dirty
      cases dirty
  · change (changed.files backing).dirty = true at dirty
    rw [file] at dirty
    cases dirty

theorem Tracked.fail (dirty : (fs.files backing).dirty = true) :
    (fs.recordVertexFsPageCacheWritebackError backing).Tracked mountId := by
  unfold recordVertexFsPageCacheWritebackError
  split
  · exact tracked
  obtain ⟨page, herePage, pageDirty⟩ := tracked.cached backing dirty
  set changed := fs.updateFile backing fun file => { file with dirty := true } with isChanged
  have own : ∀ index, fs.PageAt backing index →
      (changed.updatePagesOf backing VfsPageCachePage.failed).pageCache index =
        (fs.pageCache index).failed :=
    fun index here => if_pos here
  have file : changed.files backing = { fs.files backing with dirty := true } := by
    simp [isChanged, updateFile]
  refine tracked.settle backing (fun other apart => ?_) ?_ (fun index elsewhere => ?_)
    (fun index here _ => ?_) fun _ => ⟨page, ?_, ?_⟩
  · exact Function.update_of_ne apart ..
  · change (changed.files backing).len ≤ _
    rw [file]
    exact tracked.len_le backing
  · exact updatePagesOf_other elsewhere
  · refine ⟨?_, ?_, fun _ => ?_⟩
    · rw [own index here]
      rfl
    · change changed.pageKey backing = _
      rw [pageKey, pageKey, file]
    · rw [tracked.single index page here.1 herePage.1 (here.2.trans herePage.2.symm)]
      exact pageDirty
  · unfold PageAt
    rw [own page herePage]
    exact herePage
  · rw [own page herePage]
    rfl

theorem Tracked.replace {file : VfsVertexFsFile} (clean : file.dirty = false)
    (len : file.len ≤ maxVertexFsFileBytes) (fileCount : Nat) :
    Tracked mountId { (fs.invalidateVertexFsPageCache backing).updateFile backing fun _ => file with
      fileCount } := by
  refine tracked.settle backing (fun other apart => ?_) ?_ (fun index elsewhere => ?_)
    (fun index here valid => ?_) fun dirty => ?_
  · exact Function.update_of_ne apart ..
  · simpa [updateFile] using len
  · exact if_neg elsewhere
  · have emptied : (fs.invalidateVertexFsPageCache backing).pageCache index = .empty := if_pos here
    change ((fs.invalidateVertexFsPageCache backing).pageCache index).valid = true at valid
    rw [emptied] at valid
    cases valid
  · simp [updateFile, clean] at dirty

theorem Tracked.ensures {ended : Except IpcError PageIndex × VertexFsState}
    (ensures : fs.Ensures mountId backing ended) :
    ended.2.Tracked mountId ∧ ended.2.files = fs.files ∧
      ∀ index, ended.1 = .ok index → ended.2.PageAt backing index := by
  cases ensures with
  | fails => exact ⟨tracked, rfl, nofun⟩
  | hits index here =>
    refine ⟨tracked, rfl, fun other same => ?_⟩
    cases same
    exact here
  | loads slot absent free =>
    refine ⟨tracked.load absent free, rfl, fun other same => ?_⟩
    cases same
    simp [PageAt, updatePage, freshPage]

theorem Tracked.ensurePage (inside : backing < fs.fileCount) :
    Ends (fun ended => ended.2.Tracked mountId ∧ ended.2.files = fs.files ∧
      ∀ index, ended.1 = .ok index → ended.2.PageAt backing index)
      (ensureVertexFsPageCachePage mountId backing 0) fs :=
  tracked.ensures (ensures_page tracked.toPaged inside)

theorem Tracked.read (backing offset maxLen : Nat) (copied : Bool) :
    (exec (readVertexFsPageCache mountId backing offset maxLen copied) fs).2.Tracked mountId := by
  change Ends (fun ended => Tracked mountId ended.2) _ _
  refine .get_bind (.require_bind (fun _ => tracked) fun inside =>
    .ite (fun _ => .pure tracked) fun someBytes => ?_)
  -- A file fits into its first page, so that is where the read starts.
  have firstPage : min offset (fs.files backing).len / vertexFsSectorSize = 0 := by
    have fits := tracked.len_le backing
    simp only [maxVertexFsFileBytes] at fits
    rw [vertexFsSectorSize, Nat.div_eq_zero_iff]
    omega
  rw [firstPage]
  have page := tracked.ensurePage inside
  unfold Ends at page
  refine .bind (fun error after run => ?_) fun index after run => ?_
  · rw [run] at page
    exact page.1
  · rw [run] at page
    exact .get_bind (.require_bind (fun _ => page.1) fun _ => .require_bind (fun _ => page.1) fun _ =>
      .pure page.1)

theorem Tracked.dirtyPage {α : Type} {next : PageIndex → VertexFsCall α}
    (inside : backing < fs.fileCount)
    (rest : ∀ (index : PageIndex) (ready : VertexFsState), ready.Tracked mountId →
      ready.files = fs.files → ready.PageAt backing index →
      ((ready.pageCache index).dirty = true ∨
        ready.vertexFsPageCacheDirtyBytes + vertexFsSectorSize ≤ vertexFsPageCacheDirtyByteLimit) →
      Ends (fun ended => Tracked mountId ended.2) (next index) ready) :
    Ends (fun ended => Tracked mountId ended.2)
      (do
        let index ← ensureVertexFsPageCachePage mountId backing 0
        ensureVertexFsPageCacheDirty index
        next index) fs := by
  have found := tracked.ensurePage inside
  unfold Ends at found
  refine .bind (fun error middle run => ?_) fun index middle run => ?_
  · rw [run] at found
    exact found.1
  · rw [run] at found
    obtain ⟨tracked, sameFiles, here⟩ := found
    have unchanged : (exec (ensureVertexFsPageCacheDirty index) middle).2 = middle := by
      unfold ensureVertexFsPageCacheDirty
      rw [exec_get_bind, exec_require_bind]
      split
      · rw [exec_require]
      · rfl
    refine .bind (fun error after run => ?_) fun done after run => ?_
    · rw [run] at unchanged
      rw [unchanged]
      exact tracked
    · obtain ⟨rfl, room⟩ := ensureVertexFsPageCacheDirty_ok run
      exact rest index after tracked sameFiles (here index rfl) room

theorem Tracked.write (backing offset : Nat) (bytes : Bytes) :
    Tracked mountId (exec (writeVertexFsPageCache mountId backing offset bytes) fs).2 := by
  change Ends (fun ended => Tracked mountId ended.2) _ _
  refine .require_bind (fun _ => tracked) fun fits => .get_bind <|
    .require_bind (fun _ => tracked) fun inside => .ite (fun _ => .pure tracked)
    fun notEmpty => ?_
  have someBytes := List.length_pos_iff.mpr notEmpty
  have firstPage : offset / vertexFsSectorSize = 0 := by
    simp only [maxVertexFsFileBytes] at fits
    rw [vertexFsSectorSize, Nat.div_eq_zero_iff]
    omega
  rw [firstPage]
  refine tracked.dirtyPage inside fun index ready tracked sameFiles here room =>
    .modify_bind (.pure ?_)
  dsimp only
  refine tracked.edit here room ?_ ?_ ?_
  · exact fun page => ⟨rfl, rfl, rfl⟩
  · exact fun file => rfl
  have len_le := tracked.len_le backing
  simp only [VfsVertexFsFile.written, VfsVertexFsFile.touched]
  omega

theorem Tracked.truncate (backing len : Nat) :
    Tracked mountId (exec (truncateVertexFsPageCache mountId backing len) fs).2 := by
  change Ends (fun ended => Tracked mountId ended.2) _ _
  refine .require_bind (fun _ => tracked) fun fits => .get_bind <|
    .require_bind (fun _ => tracked) fun inside => .get_bind <|
    .ite (fun _ => .pure tracked) fun changes => ?_
  refine tracked.dirtyPage inside fun index ready tracked sameFiles here room => ?_
  rw [Ends, exec_modify]
  dsimp only
  refine tracked.edit here room ?_ ?_ ?_
  · exact fun page => ⟨rfl, rfl, rfl⟩
  · exact fun file => rfl
  · exact fits

theorem Tracked.keeps (keeps : fs.KeepsPages after) : after.Tracked mountId := by
  obtain ⟨files, pageCache⟩ := keeps
  have keys : after.pageKey = fs.pageKey := by
    funext backing
    rw [pageKey, pageKey, files]
  refine ⟨⟨?_, ?_, ?_⟩, ?_, ?_⟩
  · rw [files]
    exact tracked.len_le
  · rw [pageCache, keys]
    exact tracked.keyed
  · rw [pageCache]
    exact tracked.single
  · unfold PageAt
    rw [files, pageCache]
    exact tracked.cached
  · have same : after.dirtyPages = fs.dirtyPages := by rw [dirtyPages, dirtyPages, pageCache]
    exact (dirtyBytes_le_of_subset same.le).trans tracked.bounded

end Tracked

theorem keepsTable_commitVertexFsFileToImage (file : VfsVertexFsFile) (checksum : Nat) :
    Always KeepsTable (commitVertexFsFileToImage file checksum) := by
  have written (write : Image → Image) : Always KeepsTable (writeImage write) :=
    .modify fun _ => ⟨⟨rfl, rfl⟩, rfl⟩
  exact always_commitVertexFsFileToImage (fun _ => written _) (fun sector => .get_bind fun _ =>
    .require_bind fun _ => .require_bind fun _ => .set ⟨⟨rfl, rfl⟩, rfl⟩)
    (fun _ => ⟨⟨rfl, rfl⟩, rfl⟩) (fun _ => written _) checksum

section

variable {mountId backing : Nat} {fs after : VertexFsState}

theorem Tracked.finishFile (tracked : fs.Tracked mountId) (backing checksum : Nat) :
    Tracked mountId (exec (finishVertexFsSyncFile backing checksum) fs).2 := by
  change Ends (fun ended => Tracked mountId ended.2) _ _
  exact .get_bind (.require_bind (fun _ => tracked) fun _ => tracked.finish ..)

/-- A sync of a dirty file may fail; one of a clean file has to go through. -/
theorem Tracked.prepare (tracked : fs.Tracked mountId) (backing : Nat) :
    Ends (fun ended => ((∃ result, ended.1 = .ok result) ∨ (fs.files backing).dirty = true) →
      Tracked mountId ended.2) (prepareVertexFsSyncFile backing) fs := by
  have pinned := tracked.begin backing
  refine .get_bind (.require_bind (fun _ _ => tracked) fun inside =>
    .modify_bind (.get_bind (.ite (fun _ => ?_) fun hasInode => .get_bind
      (.ite (fun _ => ?_) fun _ => .attempt_bind ?_))))
  · have finished := pinned.finishFile backing (vertexFsChecksum32
      ((fs.beginVertexFsPageCacheWriteback backing).files backing).content)
    refine .bind (fun error after run _ => ?_) fun done after run => .pure fun _ => ?_
    all_goals rwa [run] at finished
  · refine .modify_bind ?_
    rintro (⟨result, isOk⟩ | dirty)
    · cases isOk
    · exact pinned.fail dirty
  · have keeps := (keepsTable_commitVertexFsFileToImage
      ((fs.beginVertexFsPageCacheWriteback backing).files backing) (vertexFsChecksum32
        ((fs.beginVertexFsPageCacheWriteback backing).files backing).content)).evolves
          (fs.beginVertexFsPageCacheWriteback backing)
    have committed := pinned.keeps keeps.toKeepsPages
    split
    · exact .pure fun _ => committed
    refine .modify_bind ?_
    rintro (⟨result, isOk⟩ | dirty)
    · cases isOk
    · refine committed.fail ?_
      rw [keeps.files]
      exact dirty

theorem Tracked.step {failing : Option Nat} (tracked : fs.Tracked mountId)
    (step : VertexFsStep mountId failing fs after)
    (unsaved : ∀ backing ∈ failing, (fs.files backing).dirty = true) : after.Tracked mountId := by
  cases step with
  | reads => exact tracked.read ..
  | writes => exact tracked.write ..
  | truncates => exact tracked.truncate ..
  | @prepares _ _ backing result run =>
    have prepared := tracked.prepare backing
    rw [Ends, run] at prepared
    exact prepared (.inl ⟨result, rfl⟩)
  | @unprepared _ _ backing _ run =>
    have prepared := tracked.prepare backing
    rw [Ends, run] at prepared
    exact prepared (.inr (unsaved backing rfl))
  | finishes => exact tracked.finishFile ..
  | fails _ backing => exact tracked.fail (unsaved backing rfl)
  | creates added =>
    unfold VfsState.addEmptyVertexFsFile at added
    split at added
    · cases added
    · split at added
      · cases added
      · obtain ⟨slot, isFree, added⟩ := outcome_bind_ok.mp added
        split at added
        · cases added
        · split at added
          · cases added
          · cases added
            exact tracked.replace rfl (Nat.zero_le _) _
  | releases released =>
    unfold releaseVertexFsFile at released
    split at released
    · cases released
    · cases released
      exact tracked.replace rfl (Nat.zero_le _) _

theorem tracked_booted {image : Image} {boot : VertexFsBootFiles}
    (booted : VertexFsState.booted image boot = .ok fs) : fs.Tracked mountId := by
  have files := files_of_booted booted
  have empty := (bootTable_of_booted booted).pageCache
  refine ⟨paged_of_empty (fun backing => (files backing).2) empty, fun backing dirty => ?_, ?_⟩
  · rw [(files backing).1] at dirty
    cases dirty
  · rw [vertexFsPageCacheDirtyBytes_eq, dirtyPages_of_empty empty]
    exact Nat.zero_le _

/-- The limit holds in every run in which a writeback fails only for a file that has
something to write back. -/
theorem dirtyBytes_le_of_failing_unsaved {image : Image} {boot : VertexFsBootFiles}
    (booted : VertexFsState.booted image boot = .ok fs)
    (run : Relation.ReflTransGen (fun one next => ∃ failing,
      VertexFsStep mountId failing one next ∧
        ∀ backing ∈ failing, (one.files backing).dirty = true) fs after) :
    after.vertexFsPageCacheDirtyBytes ≤ vertexFsPageCacheDirtyByteLimit := by
  have tracked : after.Tracked mountId := by
    induction run with
    | refl => exact tracked_booted booted
    | tail _ step ih =>
      obtain ⟨failing, step, unsaved⟩ := step
      exact ih.step step unsaved
  exact tracked.bounded

end

section Unsaved

variable {mountId backing count : Nat} {fs after : VertexFsState}

/-- The cache holds a dirty page for each of the first files, and nothing else. -/
structure Soiled (mountId count : Nat) (fs : VertexFsState) : Prop extends Paged mountId fs where
  pages : ∀ index, (fs.pageCache index).valid = true →
    (fs.pageCache index).dirty = true ∧ (fs.pageCache index).backing < count
  card : fs.dirtyPages.card = count

theorem Soiled.fail (soiled : fs.Soiled mountId count) (inside : count < fs.fileCount) :
    (fs.recordVertexFsPageCacheWritebackError count).Soiled mountId count ∧
      ((fs.recordVertexFsPageCacheWritebackError count).files count).dirty = true ∧
      (fs.recordVertexFsPageCacheWritebackError count).fileCount = fs.fileCount := by
  rw [recordVertexFsPageCacheWritebackError, if_neg (by omega)]
  set changed := fs.updateFile count fun file => { file with dirty := true } with isChanged
  have file : changed.files count = { fs.files count with dirty := true } := by
    simp [isChanged, updateFile]
  have others : ∀ other, other ≠ count → changed.files other = fs.files other :=
    fun other apart => Function.update_of_ne apart ..
  have samePages : (changed.updatePagesOf count VfsPageCachePage.failed).pageCache =
      fs.pageCache := by
    funext index
    refine if_neg ?_
    rintro ⟨valid, same⟩
    exact absurd same (soiled.pages index valid).2.ne
  refine ⟨⟨soiled.toPaged.of_kept (fun other => ?_) fun index valid => ?_, ?_, ?_⟩, ?_, rfl⟩
  · change (changed.files other).len ≤ _
    by_cases same : other = count
    · rw [same, file]
      exact soiled.len_le count
    · rw [others other same]
      exact soiled.len_le other
  · rw [samePages] at valid ⊢
    refine ⟨valid, rfl, ?_⟩
    change changed.pageKey _ = _
    rw [pageKey, pageKey, others _ (soiled.pages index valid).2.ne]
  · rw [samePages]
    exact soiled.pages
  · rw [dirtyPages, samePages]
    exact soiled.card
  · change (changed.files count).dirty = true
    rw [file]

theorem Soiled.unused (soiled : fs.Soiled mountId count)
    (room : count < maxVertexFsPageCachePages) : ∃ index, (fs.pageCache index).valid = false := by
  by_contra! crowded
  have all : fs.dirtyPages = Finset.univ := by
    ext index
    have valid : (fs.pageCache index).valid = true := by simpa using crowded index
    simp [valid, (soiled.pages index valid).1]
  have card := soiled.card
  rw [all, Finset.card_univ, Fintype.card_fin] at card
  omega

theorem Soiled.write (soiled : fs.Soiled mountId count) (inside : count < fs.fileCount)
    (dirty : (fs.files count).dirty = true) (room : count < maxVertexFsPageCachePages) :
    Soiled mountId (count + 1) (exec (writeVertexFsPageCache mountId count 0 [0]) fs).2 ∧
      (exec (writeVertexFsPageCache mountId count 0 [0]) fs).2.fileCount = fs.fileCount := by
  have absent : ∀ index, ¬fs.PageAt count index :=
    fun index here => (soiled.pages index here.1).2.ne here.2
  obtain ⟨slot, free, run⟩ := exec_write_of_absent [0] soiled.toPaged inside
    (by decide) (by simp) absent (fun index valid => (soiled.pages index valid).1)
    (soiled.unused room) (.inl dirty)
  set loaded := fs.updatePage slot fun _ => fs.freshPage mountId (fs.pageKey count) count 0
    with isLoaded
  have page : loaded.pageCache slot = fs.freshPage mountId (fs.pageKey count) count 0 := by
    simp [isLoaded, updatePage]
  have here : loaded.PageAt count slot := by
    unfold PageAt
    rw [page]
    exact ⟨rfl, rfl⟩
  have others : ∀ index, index ≠ slot → loaded.pageCache index = fs.pageCache index :=
    fun index apart => Function.update_of_ne apart ..
  have loadedPages : loaded.dirtyPages = insert slot fs.dirtyPages := by
    ext index
    rw [Finset.mem_insert, mem_dirtyPages, mem_dirtyPages]
    by_cases same : index = slot
    · subst same
      rw [page]
      simpa [freshPage] using dirty
    · simp [others index same, same]
  rw [run]
  dsimp only
  refine ⟨⟨?_, fun index valid => ?_, ?_⟩, rfl⟩
  · have paged : loaded.Paged mountId := soiled.toPaged.load absent
    refine paged.edit here ?_ ?_ ?_
    · exact fun page => ⟨rfl, rfl⟩
    · exact fun file => rfl
    · have len_le := soiled.len_le count
      change max (fs.files count).len (0 + 1) ≤ _
      simp only [maxVertexFsFileBytes] at len_le ⊢
      omega
  · by_cases same : index = slot
    · subst same
      simp [updateFile, updatePage, VfsPageCachePage.written, VfsPageCachePage.touched, page,
        freshPage]
    · have kept : ((loaded.updatePage slot fun page => page.written 0 [0]).updateFile count
          fun file => file.written 0 [0]).pageCache index = fs.pageCache index := by
        simp [updateFile, updatePage, same, others index same]
      rw [kept] at valid ⊢
      obtain ⟨isDirty, below⟩ := soiled.pages index valid
      exact ⟨isDirty, by omega⟩
  · have fresh : slot ∉ fs.dirtyPages := by simp [free]
    have written : ∀ page : VfsPageCachePage, (page.written 0 [0]).valid = page.valid ∧
        (page.written 0 [0]).dirty = true := fun _ => ⟨rfl, rfl⟩
    rw [dirtyPages_edit here.1 written, loadedPages, Finset.insert_idem,
      Finset.card_insert_of_notMem fresh, soiled.card]

/-- Files that were never saved fill the cache with dirty pages, each by a failed writeback
and a write. -/
theorem Soiled.more (soiled : fs.Soiled mountId count) (inside : count < fs.fileCount)
    (room : count < maxVertexFsPageCachePages) :
    ∃ after, VertexFsSteps mountId fs after ∧ after.Soiled mountId (count + 1) ∧
      after.fileCount = fs.fileCount := by
  obtain ⟨failed, dirty, sameCount⟩ := soiled.fail inside
  obtain ⟨written, writtenCount⟩ := failed.write (by omega) dirty room
  exact ⟨_, .tail (.single ⟨_, .fails fs count⟩) ⟨_, .writes _ count 0 [0]⟩, written,
    writtenCount.trans sameCount⟩

theorem exists_soiled (paged : fs.Paged mountId) (empty : ∀ index, fs.pageCache index = .empty)
    (enough : count ≤ fs.fileCount) (room : count ≤ maxVertexFsPageCachePages) :
    ∃ after, VertexFsSteps mountId fs after ∧ after.Soiled mountId count ∧
      after.fileCount = fs.fileCount := by
  induction count with
  | zero =>
    refine ⟨fs, .refl, ⟨paged, fun index valid => ?_, ?_⟩, rfl⟩
    · rw [empty] at valid
      cases valid
    · rw [dirtyPages_of_empty empty, Finset.card_empty]
  | succ count ih =>
    obtain ⟨middle, toMiddle, soiled, sameCount⟩ := ih (by omega) (by omega)
    obtain ⟨after, toAfter, soiled, afterCount⟩ := soiled.more (by omega) (by omega)
    exact ⟨after, Relation.ReflTransGen.trans toMiddle toAfter, soiled, afterCount.trans sameCount⟩

def namedFiles (fs : VertexFsState) (count : Nat) : VfsState :=
  { VfsState.empty with
    nodes := (List.range count).map fun index => some
      { id := ⟨index.succPNat⟩, name := .empty, parent := none, kind := .regularFile
        backing := .vertexFsFile index, mountSource := vertexFsSource, metadataVersion := 0 }
    vertexfs := fs }

@[simp]
theorem namedFiles_vertexfs : (namedFiles fs count).vertexfs = fs :=
  rfl

theorem vertexFsFileInUse_namedFiles (index : Nat) :
    (namedFiles fs count).vertexFsFileInUse index = decide (index < count) := by
  rw [Bool.eq_iff_iff]
  simp [VfsState.vertexFsFileInUse, VfsState.backingInUse, namedFiles]

/-- A run has created some files and used none of them. -/
structure Grown (image : Image) (count : Nat) (fs : VertexFsState) : Prop where
  image : fs.image = image
  loaded : fs.imageLoaded = true
  fileCount : fs.fileCount = 2 + count
  pageCache : ∀ index, fs.pageCache index = .empty
  len_le : ∀ backing, (fs.files backing).len ≤ maxVertexFsFileBytes
  declared : (fs.files 0).inodeId < vertexFsDynamicInodeFirst ∧
    (fs.files 1).inodeId < vertexFsDynamicInodeFirst
  created : ∀ index < count, (fs.files (2 + index)).inodeId = vertexFsDynamicInodeFirst + index

variable {image : Image} {layout : VertexFsLayout}

theorem Grown.inUse (grown : fs.Grown image count) (index : Nat) (named : Nat) :
    (namedFiles fs named).vertexFsDynamicInodeInUse (vertexFsDynamicInodeFirst + index) =
      decide (index < count) := by
  obtain ⟨readme, appA⟩ := grown.declared
  rw [Bool.eq_iff_iff, VfsState.vertexFsDynamicInodeInUse, List.any_eq_true, decide_eq_true_eq,
    namedFiles_vertexfs, grown.fileCount]
  simp only [List.mem_range, decide_eq_true_eq]
  constructor
  · rintro ⟨place, inside, same⟩
    by_cases first : place = 0
    · rw [first] at same
      omega
    · by_cases second : place = 1
      · rw [second] at same
        omega
      · have created := grown.created (place - 2) (by omega)
        rw [Nat.add_sub_of_le (by omega)] at created
        omega
  · intro below
    exact ⟨2 + index, by omega, grown.created index below⟩

theorem Grown.freeDynamicInode (grown : fs.Grown image count)
    (format : vertexFsLayoutForImage image = .ok layout)
    (unknown : vertexFsImageHasInode image (vertexFsDynamicInodeFirst + count) = .ok false)
    (room : count < layout.dynamicFileCapacity) (named start length : Nat)
    (before : start ≤ count) (behind : count < start + length) :
    (namedFiles fs named).freeDynamicInode (List.range' start length) =
      .ok (some (vertexFsDynamicInodeFirst + count, layout.dynamicDataSector count)) := by
  induction length generalizing start with
  | zero => omega
  | succ length ih =>
    have inodeAt : vertexFsDynamicInodeAt fs.image start =
        .ok (vertexFsDynamicInodeFirst + start) := by
      rw [vertexFsDynamicInodeAt, grown.image, format]
      exact if_neg (by omega)
    rw [List.range'_succ, VfsState.freeDynamicInode, namedFiles_vertexfs, inodeAt]
    dsimp only
    rw [grown.inUse]
    by_cases passed : start < count
    · rw [decide_eq_true passed, if_pos rfl]
      exact ih (start + 1) (by omega) (by omega)
    · obtain rfl : start = count := by omega
      have sectorAt : vertexFsDynamicDataSectorAt fs.image start =
          .ok (layout.dynamicDataSector start) := by
        rw [vertexFsDynamicDataSectorAt, grown.image, format]
        exact if_neg (by omega)
      rw [decide_eq_false passed, if_neg Bool.false_ne_true, sectorAt, grown.image, unknown]
      rfl

theorem Grown.more (grown : fs.Grown image count)
    (format : vertexFsLayoutForImage image = .ok layout)
    (unknown : vertexFsImageHasInode image (vertexFsDynamicInodeFirst + count) = .ok false)
    (room : count < layout.dynamicFileCapacity) (slots : 2 + count < maxVertexFsFiles) :
    ∃ after, VertexFsSteps mountId fs after ∧ after.Grown image (count + 1) := by
  have free : (namedFiles fs (2 + count)).freeDynamicInode (List.range maxVertexFsFiles) =
      .ok (some (vertexFsDynamicInodeFirst + count, layout.dynamicDataSector count)) := by
    rw [List.range_eq_range']
    exact grown.freeDynamicInode format unknown room _ 0 _ (by omega) (by omega)
  have slot : ((List.range maxVertexFsFiles).find? fun index =>
      !(namedFiles fs (2 + count)).vertexFsFileInUse index) = some (2 + count) := by
    simp only [vertexFsFileInUse_namedFiles]
    rw [List.find?_range_eq_some]
    refine ⟨by simp, by simpa using slots, fun other below => by simpa using below⟩
  set file : VfsVertexFsFile := { VfsVertexFsFile.empty with
    vfsName := ⟨utf8 "f", by decide⟩, inodeId := vertexFsDynamicInodeFirst + count
    parentInodeId := vertexFsInodeAppDir, firstSector := layout.dynamicDataSector count
    sectorCount := 1 } with isFile
  have added : (namedFiles fs (2 + count)).addEmptyVertexFsFile ⟨utf8 "f", by decide⟩
      vertexFsInodeAppDir = .ok (2 + count, { namedFiles fs (2 + count) with
        vertexfs := { (fs.invalidateVertexFsPageCache (2 + count)).updateFile (2 + count)
          fun _ => file with fileCount := max fs.fileCount (2 + count + 1) } }) := by
    rw [VfsState.addEmptyVertexFsFile, if_neg (by decide),
      if_neg (by rw [namedFiles_vertexfs, grown.loaded]; decide), free]
    simp only [bind, Except.bind, slot]
    rfl
  refine ⟨_, .single ⟨none, .creates added⟩, ?_⟩
  have others : ∀ other, other ≠ 2 + count →
      ((fs.invalidateVertexFsPageCache (2 + count)).updateFile (2 + count) fun _ => file).files
        other = fs.files other :=
    fun other apart => Function.update_of_ne apart ..
  refine ⟨grown.image, grown.loaded, ?_, fun index => ?_, fun backing => ?_, ⟨?_, ?_⟩,
    fun index below => ?_⟩
  · change max fs.fileCount (2 + count + 1) = _
    rw [grown.fileCount]
    omega
  · refine (if_neg ?_).trans (grown.pageCache index)
    rw [grown.pageCache]
    nofun
  · by_cases last : backing = 2 + count
    · subst last
      simp [updateFile, isFile, VfsVertexFsFile.empty]
    · rw [others backing last]
      exact grown.len_le backing
  · rw [others 0 (by omega)]
    exact grown.declared.1
  · rw [others 1 (by omega)]
    exact grown.declared.2
  · by_cases last : index = count
    · subst last
      simp [updateFile, isFile]
    · rw [others _ (by omega)]
      exact grown.created index (by omega)

theorem exists_grown (grown : fs.Grown image 0) (format : vertexFsLayoutForImage image = .ok layout)
    (unknown : ∀ index < count,
      vertexFsImageHasInode image (vertexFsDynamicInodeFirst + index) = .ok false)
    (room : count ≤ layout.dynamicFileCapacity) (slots : 2 + count ≤ maxVertexFsFiles) :
    ∃ after, VertexFsSteps mountId fs after ∧ after.Grown image count := by
  induction count with
  | zero => exact ⟨fs, .refl, grown⟩
  | succ count ih =>
    obtain ⟨middle, toMiddle, grown⟩ := ih (fun index below => unknown index (by omega))
      (by omega) (by omega)
    obtain ⟨after, toAfter, grown⟩ := grown.more format (unknown count (by omega)) (by omega)
      (by omega)
    exact ⟨after, Relation.ReflTransGen.trans toMiddle toAfter, grown⟩

theorem created_unknown (inodeId : Nat) (dynamic : vertexFsDynamicInodeFirst ≤ inodeId) :
    vertexFsImageHasInode createdState.image inodeId = .ok false := by
  have clean := createdState_clean
  have count : vertexFsLayoutV1.inodeTableCount createdState.image = 4 := by
    have lower := clean.body.table.countLower
    have none := congrArg (fun inodes => inodes.dynamic.length) createdState_inodes
    simp only [VertexFsLayout.parsedInodes, createdInodes, List.length_map, List.length_range,
      List.length_nil] at none
    simp only [vertexFsBaseInodeCount] at lower none
    omega
  rw [vertexFsImageHasInode, vertexFsLayoutForImage_ok.mpr clean.body.format]
  change (do
    let index ← vertexFsLayoutV1.inodeIndexById createdState.image inodeId
    return index.isSome : Except IpcError Bool) = _
  simp only [vertexFsDynamicInodeFirst] at dynamic
  rw [inodeIndexById_eq clean.body.placed clean.body.table, count, if_neg (by omega)]
  rfl

/-- Seven files whose first writeback fails, and then a byte in each. -/
theorem exists_dirtyBytes_beyond_limit :
    ∃ fs after, parseVertexFsImage createdState.image = .ok createdBoot ∧
      VertexFsState.booted createdState.image createdBoot = .ok fs ∧ VertexFsSteps 0 fs after ∧
      vertexFsPageCacheDirtyByteLimit < after.vertexFsPageCacheDirtyBytes := by
  obtain ⟨fs, booted⟩ := exists_booted_created createdState.image
  have table := bootTable_of_booted booted
  have grown : fs.Grown createdState.image 0 := by
    refine ⟨table.image, table.loaded, table.fileCount, table.pageCache,
      (tracked_booted booted : fs.Tracked 0).len_le, ⟨?_, ?_⟩, nofun⟩
    · have inode : (fs.files 0).inodeId = createdBoot.readme.inode.id :=
        congrArg Prod.fst (new_ok table.readme).1
      rw [inode]
      decide
    · have inode : (fs.files 1).inodeId = createdBoot.appA.inode.id :=
        congrArg Prod.fst (new_ok table.appA).1
      rw [inode]
      decide
  obtain ⟨middle, toMiddle, grown⟩ : ∃ middle, VertexFsSteps 0 fs middle ∧
      middle.Grown createdState.image 5 :=
    exists_grown grown (vertexFsLayoutForImage_ok.mpr createdState_clean.body.format)
      (fun index _ => created_unknown _ (by omega)) (by decide) (by decide)
  have paged : middle.Paged 0 := paged_of_empty grown.len_le grown.pageCache
  obtain ⟨after, toAfter, soiled, -⟩ : ∃ after, VertexFsSteps 0 middle after ∧
      after.Soiled 0 7 ∧ after.fileCount = middle.fileCount :=
    exists_soiled paged grown.pageCache (by rw [grown.fileCount]) (by decide)
  refine ⟨fs, after, createdBoot_accepted, booted, Relation.ReflTransGen.trans toMiddle toAfter, ?_⟩
  rw [vertexFsPageCacheDirtyBytes_eq, soiled.card]
  decide

/-- A byte is written to a file that boot installed, and the writeback of it fails. -/
theorem dirtyBytes_le_of_failing_unsaved_write :
    ∃ fs written, VertexFsState.booted createdState.image createdBoot = .ok fs ∧
      exec (writeVertexFsPageCache 0 0 0 [7]) fs = (.ok (1, 1), written) ∧
      (written.files 0).dirty = true ∧
      (written.recordVertexFsPageCacheWritebackError 0).vertexFsPageCacheDirtyBytes ≤
        vertexFsPageCacheDirtyByteLimit := by
  obtain ⟨fs, booted⟩ := exists_booted_created createdState.image
  have table := bootTable_of_booted booted
  have invalid (index : PageIndex) : (fs.pageCache index).valid = false := by
    rw [table.pageCache]
    rfl
  obtain ⟨slot, -, run⟩ := exec_write_of_absent [7] (tracked_booted booted : fs.Tracked 0).toPaged
    (show 0 < fs.fileCount by rw [table.fileCount]; decide) (by decide) (by decide)
    (fun index here => Bool.false_ne_true ((invalid index).symm.trans here.1))
    (fun index valid => by simp [invalid index] at valid) ⟨⟨0, by decide⟩, invalid _⟩ (.inr invalid)
  have dirty : ((exec (writeVertexFsPageCache 0 0 0 [7]) fs).2.files 0).dirty = true := by
    simp [run, updateFile, VfsVertexFsFile.written, VfsVertexFsFile.touched]
  refine ⟨fs, (exec (writeVertexFsPageCache 0 0 0 [7]) fs).2, booted, ?_, dirty, ?_⟩
  · rw [run]
    rfl
  · have written : VertexFsStep 0 none fs _ := .writes fs 0 0 [7]
    refine dirtyBytes_le_of_failing_unsaved booted
      (.tail (.single ⟨none, written, by simp⟩) ⟨some 0, .fails _ 0, ?_⟩)
    simpa using dirty

end Unsaved

end VertexFsState

end VertexOS
