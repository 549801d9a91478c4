import VertexOS.FailedSyncs

/-! # Files committed one after the other -/

namespace VertexOS

open ByteStrings ByteImages FailingCalls

section

variable {layout : VertexFsLayout} {generation : Bytes} {old : Image} {index other : Nat}
  {file : VfsVertexFsFile}

theorem CleanImage.tableRoom (clean : CleanImage layout old generation) :
    layout.inodeTable.sectorCount ≤ 8 := by
  have format := clean.body.format
  unfold vertexFsLayoutFromSuperblock at format
  split_ifs at format <;> cases format <;> decide

section

variable (clean : CleanImage layout old generation) (known : KnownFile layout old index file)
  (checksum : Nat)
include clean known

theorem knownCommittedImage_stored (entry : FileIndex layout old other) :
    let after := knownCommittedImage layout old index file checksum
    (layout.readInode after other).stored after =
      if index = other then file.content else (layout.readInode old other).stored old := by
  intro after
  rw [(knownCommittedImage_entry clean known checksum entry.1).1]
  by_cases same : index = other
  · subst same
    rw [if_pos rfl, if_pos rfl]
    exact knownCommittedImage_content clean known checksum
  · rw [if_neg same, if_neg (Ne.symm same)]
    exact knownCommittedImage_stored_other clean known checksum entry (Ne.symm same)

end

def commitAll : List (Nat × VfsVertexFsFile) → VertexFsCall Unit :=
  inTurn fun commit => do
    let _ ← commitVertexFsFileToImage commit.2 (vertexFsChecksum32 commit.2.content)

/-- Files that an accepted image has are committed in any order and any number of times: no
commit fails, the image is accepted again, and every file has what was committed last for it. -/
theorem commitAll_last_wins {state : VertexFsState} {commits : List (Nat × VfsVertexFsFile)}
    (clean : CleanImage layout state.image generation)
    (known : ∀ commit ∈ commits, KnownFile layout state.image commit.1 commit.2 ∧
      commit.2.sectorCount ≤ 14) :
    ∃ after, exec (commitAll commits) state = (.ok (), after) ∧
      CleanImage layout after.image generation ∧
      ∀ index, FileIndex layout state.image index →
        (layout.readInode after.image index).stored after.image =
          commits.foldl (fun content commit => if commit.1 = index then commit.2.content else content)
            ((layout.readInode state.image index).stored state.image) := by
  induction commits generalizing state with
  | nil => exact ⟨state, rfl, clean, fun _ _ => rfl⟩
  | cons commit rest ih =>
    obtain ⟨⟨here, room⟩, known⟩ := List.forall_mem_cons.mp known
    obtain ⟨total, next, committed, image⟩ : ∃ total next,
        exec (commitVertexFsFileToImage commit.2 (vertexFsChecksum32 commit.2.content)) state =
          (.ok total, next) ∧ next.image = knownCommittedImage layout state.image commit.1 commit.2
            (vertexFsChecksum32 commit.2.content) :=
      ⟨_, _, commit_known_ok clean here rfl room clean.tableRoom, VertexFsState.during_image ..⟩
    obtain ⟨after, ran, accepted, contents⟩ := @ih next
      (image ▸ cleanImage_knownCommitted clean here rfl)
      fun other member => ⟨image ▸ here.committed clean (known other member).1 _, (known other member).2⟩
    refine ⟨after, exec_bind_ok.mpr ⟨(), next, exec_bind_ok.mpr ⟨total, next, committed, rfl⟩, ran⟩,
      accepted, fun index entry => ?_⟩
    have still : FileIndex layout next.image index := by
      rw [FileIndex, image, knownCommittedImage_count clean here]
      exact entry
    rw [contents index still, List.foldl_cons, image]
    exact congrArg (rest.foldl _) (knownCommittedImage_stored clean here _ entry)

end

theorem commitAll_last_wins_createdState : ∃ after,
    exec (commitAll [(1, editedReadme), (3, editedAppA)]) createdState = (.ok (), after) ∧
      CleanImage vertexFsLayoutV1 after.image (utf8 "gen:1") := by
  obtain ⟨after, ran, accepted, -⟩ := @commitAll_last_wins _ _ createdState
    [(1, editedReadme), (3, editedAppA)] createdState_clean (List.forall_mem_cons.mpr
      ⟨⟨editedReadme_known, by decide⟩, List.forall_mem_singleton.mpr ⟨editedAppA_known, by decide⟩⟩)
  exact ⟨after, ran, accepted⟩

end VertexOS
