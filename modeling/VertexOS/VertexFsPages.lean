import VertexOS.VertexFsPageCache

/-!
# The pages of files

A file fits into one page and has at most one in the cache, under its own key.
-/

namespace VertexOS

open ByteStrings ByteImages FailingCalls

def VfsPageCachePage.address (page : VfsPageCachePage) : Nat × Nat × Nat × Nat :=
  (page.mountId, page.inodeId, page.backing, page.pageOffset)

namespace VertexFsState

def pageKey (fs : VertexFsState) (backing : Nat) : Nat :=
  if (fs.files backing).inodeId ≠ 0 then (fs.files backing).inodeId else 2 ^ 32 - 1 - backing

theorem vertexFsPageCacheInodeKey_eq {fs : VertexFsState} {backing : Nat}
    (inside : backing < fs.fileCount) :
    fs.vertexFsPageCacheInodeKey backing = .ok (fs.pageKey backing) := by
  unfold vertexFsPageCacheInodeKey pageKey
  rw [if_neg (by omega)]
  split <;> rfl

/-- A file fits into one page and has at most one, under its own key. -/
structure Paged (mountId : Nat) (fs : VertexFsState) : Prop where
  len_le : ∀ backing, (fs.files backing).len ≤ maxVertexFsFileBytes
  keyed : ∀ index, (fs.pageCache index).valid = true →
    (fs.pageCache index).mountId = mountId ∧
      (fs.pageCache index).inodeId = fs.pageKey (fs.pageCache index).backing ∧
      (fs.pageCache index).pageOffset = 0
  single : ∀ index other, (fs.pageCache index).valid = true →
    (fs.pageCache other).valid = true →
    (fs.pageCache index).backing = (fs.pageCache other).backing → index = other

def PageAt (fs : VertexFsState) (backing : Nat) (index : PageIndex) : Prop :=
  (fs.pageCache index).valid = true ∧ (fs.pageCache index).backing = backing

/-- How the page of a file is found: not at all, in the cache, or read into a slot that
holds no dirty page. -/
inductive Ensures (mountId backing : Nat) (fs : VertexFsState) :
    Except IpcError PageIndex × VertexFsState → Prop
  | fails (crowded : ∀ index, (fs.pageCache index).valid = true)
      (busy : ∀ index, (fs.pageCache index).dirty = true ∨ (fs.pageCache index).pinned = true ∨
        (fs.pageCache index).writeback = true) :
      Ensures mountId backing fs (.error .vfsNoSpace, fs)
  | hits (index : PageIndex) (here : fs.PageAt backing index) :
      Ensures mountId backing fs (.ok index, fs)
  | loads (slot : PageIndex) (absent : ∀ index, ¬fs.PageAt backing index)
      (free : (fs.pageCache slot).valid = true → (fs.pageCache slot).dirty = false) :
      Ensures mountId backing fs (.ok slot,
        fs.updatePage slot fun _ => fs.freshPage mountId (fs.pageKey backing) backing 0)

section Paged

variable {mountId backing : Nat} {fs : VertexFsState}

theorem ensures_page (paged : fs.Paged mountId) (inside : backing < fs.fileCount) :
    Ends (fs.Ensures mountId backing) (ensureVertexFsPageCachePage mountId backing 0) fs := by
  refine .get_bind ?_
  rw [vertexFsPageCacheInodeKey_eq inside]
  refine .fromExcept_bind nofun fun inodeId isKey => ?_
  cases isKey
  cases looked : fs.vertexFsPageCacheLookup backing mountId (fs.pageKey backing) 0 with
  | some index =>
    have here := List.find?_some looked
    simp only [decide_eq_true_eq] at here
    exact .hits index ⟨here.1, here.2.1⟩
  | none =>
    have absent : ∀ index, ¬fs.PageAt backing index := by
      rintro index ⟨valid, rfl⟩
      have missed := List.find?_eq_none.mp looked index (List.mem_finRange index)
      simp only [decide_eq_true_eq] at missed
      exact missed ⟨valid, trivial, paged.keyed index valid⟩
    refine .fromExcept_bind (fun error full => ?_) fun slot isSlot => ?_
    · unfold vertexFsPageCacheVictim at full
      dsimp only at full
      split at full
      · cases full
      · rename_i noneUnused
        split at full
        · cases full
        · rename_i noneClean
          cases full
          refine .fails (fun index => ?_) fun index => ?_
          · simpa using List.find?_eq_none.mp noneUnused index (List.mem_finRange index)
          · have held := List.find?_eq_none.mp noneClean index (List.mem_finRange index)
            simp only [Bool.and_eq_true, Bool.not_eq_true'] at held
            grind
    · refine .loads slot absent fun valid => ?_
      unfold vertexFsPageCacheVictim at isSlot
      dsimp only at isSlot
      split at isSlot
      · rename_i index unused
        cases isSlot
        have unused := List.find?_some unused
        simp [valid] at unused
      · split at isSlot
        · rename_i index clean
          cases isSlot
          have clean := List.find?_some clean
          simp only [Bool.and_eq_true, Bool.not_eq_true'] at clean
          exact clean.1.1
        · cases isSlot

theorem Paged.of_kept {after : VertexFsState} (paged : fs.Paged mountId)
    (len_le : ∀ backing, (after.files backing).len ≤ maxVertexFsFileBytes)
    (kept : ∀ index, (after.pageCache index).valid = true → (fs.pageCache index).valid = true ∧
      (after.pageCache index).address = (fs.pageCache index).address ∧
      after.pageKey (fs.pageCache index).backing = fs.pageKey (fs.pageCache index).backing) :
    after.Paged mountId := by
  refine ⟨len_le, fun index valid => ?_, fun index other valid otherValid same => ?_⟩
  · obtain ⟨wasValid, sameAddress, sameKey⟩ := kept index valid
    simp only [VfsPageCachePage.address, Prod.mk.injEq] at sameAddress
    obtain ⟨sameMount, sameInode, sameBacking, sameOffset⟩ := sameAddress
    rw [sameMount, sameInode, sameBacking, sameOffset, sameKey]
    exact paged.keyed index wasValid
  · obtain ⟨wasValid, sameAddress, -⟩ := kept index valid
    obtain ⟨otherWasValid, otherAddress, -⟩ := kept other otherValid
    simp only [VfsPageCachePage.address, Prod.mk.injEq] at sameAddress otherAddress
    refine paged.single index other wasValid otherWasValid ?_
    rw [← sameAddress.2.2.1, ← otherAddress.2.2.1, same]

theorem Paged.load {slot : PageIndex} (paged : fs.Paged mountId)
    (absent : ∀ index, ¬fs.PageAt backing index) :
    (fs.updatePage slot fun _ =>
      fs.freshPage mountId (fs.pageKey backing) backing 0).Paged mountId := by
  refine ⟨paged.len_le, fun index valid => ?_, fun index other valid otherValid same => ?_⟩
  · by_cases isSlot : index = slot
    · subst isSlot
      simp only [updatePage, Function.update_self]
      exact ⟨rfl, rfl, rfl⟩
    · simp only [updatePage, Function.update_of_ne isSlot] at valid ⊢
      exact paged.keyed index valid
  · by_cases isSlot : index = slot <;> by_cases otherSlot : other = slot
    · rw [isSlot, otherSlot]
    · subst isSlot
      simp only [updatePage, Function.update_self, Function.update_of_ne otherSlot] at otherValid same
      exact absurd ⟨otherValid, same.symm⟩ (absent other)
    · subst otherSlot
      simp only [updatePage, Function.update_self, Function.update_of_ne isSlot] at valid same
      exact absurd ⟨valid, same⟩ (absent index)
    · simp only [updatePage, Function.update_of_ne isSlot, Function.update_of_ne otherSlot]
        at valid otherValid same
      exact paged.single index other valid otherValid same

theorem Paged.edit {index : PageIndex} {changePage : VfsPageCachePage → VfsPageCachePage}
    {changeFile : VfsVertexFsFile → VfsVertexFsFile} (paged : fs.Paged mountId)
    (here : fs.PageAt backing index)
    (page : ∀ page, (changePage page).valid = page.valid ∧ (changePage page).address = page.address)
    (inode : ∀ file, (changeFile file).inodeId = file.inodeId)
    (len : (changeFile (fs.files backing)).len ≤ maxVertexFsFileBytes) :
    ((fs.updatePage index changePage).updateFile backing changeFile).Paged mountId := by
  refine paged.of_kept (fun other => ?_) fun other isValid => ⟨?_, ?_, ?_⟩
  · by_cases same : other = backing
    · subst same
      simpa [updateFile, updatePage] using len
    · simpa [updateFile, updatePage, same] using paged.len_le other
  · by_cases same : other = index
    · rw [same]
      exact here.1
    · simpa [updateFile, updatePage, same] using isValid
  · by_cases same : other = index
    · subst same
      simpa [updateFile, updatePage] using (page _).2
    · simp [updateFile, updatePage, same]
  · unfold pageKey
    by_cases same : (fs.pageCache other).backing = backing
    · simp [updateFile, updatePage, same, inode]
    · simp [updateFile, updatePage, same]

theorem paged_of_empty (len_le : ∀ backing, (fs.files backing).len ≤ maxVertexFsFileBytes)
    (empty : ∀ index, fs.pageCache index = .empty) : fs.Paged mountId := by
  have invalid (index : PageIndex) : (fs.pageCache index).valid = false := by
    rw [empty]
    rfl
  exact ⟨len_le, fun index valid => by simp [invalid] at valid,
    fun index other valid => by simp [invalid] at valid⟩

theorem exec_write_of_absent (bytes : Bytes) (paged : fs.Paged mountId)
    (inside : backing < fs.fileCount) (small : bytes.length ≤ maxVertexFsFileBytes)
    (nonempty : bytes ≠ []) (absent : ∀ index, ¬fs.PageAt backing index)
    (allDirty : ∀ index, (fs.pageCache index).valid = true → (fs.pageCache index).dirty = true)
    (room : ∃ index, (fs.pageCache index).valid = false)
    (mayDirty : (fs.files backing).dirty = true ∨ ∀ index, (fs.pageCache index).valid = false) :
    ∃ slot, (fs.pageCache slot).valid = false ∧
      exec (writeVertexFsPageCache mountId backing 0 bytes) fs =
        (.ok (bytes.length, bytes.length), ((fs.updatePage slot fun _ =>
          fs.freshPage mountId (fs.pageKey backing) backing 0).updatePage slot fun page =>
            page.written 0 bytes).updateFile backing fun file => file.written 0 bytes) := by
  obtain ⟨slot, free, load⟩ : ∃ slot, (fs.pageCache slot).valid = false ∧
      exec (ensureVertexFsPageCachePage mountId backing 0) fs = (.ok slot,
        fs.updatePage slot fun _ => fs.freshPage mountId (fs.pageKey backing) backing 0) := by
    have ensured := ensures_page paged inside
    unfold Ends at ensured
    rcases run : exec (ensureVertexFsPageCachePage mountId backing 0) fs with ended
    rw [run] at ensured
    cases ensured with
    | fails crowded =>
      obtain ⟨index, unused⟩ := room
      simp [crowded index] at unused
    | hits index here => exact absurd here (absent index)
    | loads slot _ clean =>
      refine ⟨slot, ?_, rfl⟩
      by_contra valid
      simp only [Bool.not_eq_false] at valid
      rw [allDirty slot valid] at clean
      cases clean valid
  refine ⟨slot, free, ?_⟩
  set loaded := fs.updatePage slot fun _ => fs.freshPage mountId (fs.pageKey backing) backing 0
    with isLoaded
  have page : loaded.pageCache slot = fs.freshPage mountId (fs.pageKey backing) backing 0 := by
    simp [isLoaded, updatePage]
  have dirties : exec (ensureVertexFsPageCacheDirty slot) loaded = (.ok (), loaded) := by
    have valid : (loaded.pageCache slot).valid = true := by rw [page]; rfl
    rw [ensureVertexFsPageCacheDirty, exec_get_bind, exec_require_bind, if_pos valid,
      exec_require, if_pos]
    by_cases dirty : (fs.files backing).dirty = true
    · left
      rw [page]
      exact dirty
    · right
      have none (counted : VfsPageCachePage → Bool) : loaded.dirtyBytesWhere counted = 0 := by
        unfold dirtyBytesWhere
        rw [List.countP_eq_zero.mpr, Nat.mul_zero]
        intro index _
        by_cases same : index = slot
        · rw [same, page]
          simp [freshPage, dirty]
        · simp [isLoaded, updatePage, same, mayDirty.resolve_left dirty index]
      simp only [vertexFsPageCacheDirtyBytes, vertexFsPageCacheDirtyBytesForMount, none]
      decide
  rw [writeVertexFsPageCache, exec_require_bind, if_pos (by omega), exec_get_bind,
    exec_require_bind, if_pos inside, exec_ite, if_neg nonempty, exec_bind, Nat.zero_div, load]
  dsimp only
  rw [exec_bind, dirties, Nat.zero_add]
  rfl

end Paged

end VertexFsState

end VertexOS
