import VertexOS.FileEffects

/-!
# The steps of VertexFS

What the operations do to the tables of VertexFS, apart from the nodes.
-/

namespace VertexOS

open ByteStrings FailingCalls SlotTables

namespace VfsState

variable {vfs : VfsState}

theorem addVfsNodeWithName_ok {name : VfsName} {parent : Option VfsNodeId} {kind : VfsNodeKind}
    {backing : VfsBacking} {source : String} {id : VfsNodeId} {after : VfsState}
    (added : vfs.addVfsNodeWithName name parent kind backing source = .ok (id, after)) :
    ∃ nodes node, after = { vfs with
        nodes
        nextNodeId := vfs.nextNodeId + 1
        nextMetadataVersion := vfs.nextMetadataVersion + 1 } ∧
      node = VfsNode.mk id name parent kind backing source vfs.nextMetadataVersion ∧
      id = ⟨vfs.nextNodeId⟩ ∧ ∀ other, some other ∈ nodes ↔ other = node ∨ some other ∈ vfs.nodes := by
  unfold addVfsNodeWithName at added
  dsimp only at added
  split at added
  · rename_i nodes filled
    cases added
    exact ⟨nodes, _, rfl, rfl, rfl, fun other => mem_of_fillFirst filled⟩
  · split at added
    · cases added
      refine ⟨_, _, rfl, rfl, rfl, fun other => ?_⟩
      simp [or_comm]
    · cases added

theorem releaseVertexFsFile_ok {index : Nat} {after : VfsState}
    (released : vfs.releaseVertexFsFile index = .ok after) :
    ∃ vertexfs, vfs.vertexfs.releaseVertexFsFile vfs.vertexFsFileInUse index = .ok vertexfs ∧
      after = { vfs with vertexfs } := by
  obtain ⟨vertexfs, inTable, result⟩ := outcome_bind_ok.mp released
  cases result
  exact ⟨vertexfs, inTable, rfl⟩

end VfsState

open VfsState

/-- A step of the tables of VertexFS, with the file whose writeback fails in it. -/
inductive VertexFsStep (mountId : Nat) : Option Nat → VertexFsState → VertexFsState → Prop
  | reads (fs : VertexFsState) (backing offset maxLen : Nat) (copied : Bool) :
      VertexFsStep mountId none fs
        (exec (readVertexFsPageCache mountId backing offset maxLen copied) fs).2
  | writes (fs : VertexFsState) (backing offset : Nat) (bytes : Bytes) :
      VertexFsStep mountId none fs
        (exec (writeVertexFsPageCache mountId backing offset bytes) fs).2
  | truncates (fs : VertexFsState) (backing len : Nat) :
      VertexFsStep mountId none fs (exec (truncateVertexFsPageCache mountId backing len) fs).2
  | prepares {fs after : VertexFsState} {backing : Nat} {result : VertexFsSyncResult}
      (run : exec (prepareVertexFsSyncFile backing) fs = (.ok result, after)) :
      VertexFsStep mountId none fs after
  | unprepared {fs after : VertexFsState} {backing : Nat} {error : IpcError}
      (run : exec (prepareVertexFsSyncFile backing) fs = (.error error, after)) :
      VertexFsStep mountId (some backing) fs after
  | finishes (fs : VertexFsState) (backing checksum : Nat) :
      VertexFsStep mountId none fs (exec (finishVertexFsSyncFile backing checksum) fs).2
  | fails (fs : VertexFsState) (backing : Nat) :
      VertexFsStep mountId (some backing) fs (fs.recordVertexFsPageCacheWritebackError backing)
  | creates {vfs made : VfsState} {name : VfsName} {parentInodeId index : Nat}
      (added : vfs.addEmptyVertexFsFile name parentInodeId = .ok (index, made)) :
      VertexFsStep mountId none vfs.vertexfs made.vertexfs
  | releases {fs after : VertexFsState} {inUse : Nat → Bool} {backing : Nat}
      (released : fs.releaseVertexFsFile inUse backing = .ok after) :
      VertexFsStep mountId none fs after

def VertexFsSteps (mountId : Nat) : VertexFsState → VertexFsState → Prop :=
  Relation.ReflTransGen fun fs after => ∃ failing, VertexFsStep mountId failing fs after

section

variable {mountId : Nat} {vfs : VfsState} {after : VfsState}

theorem VertexFsState.Works.step {fs after : VertexFsState} (works : fs.Works mountId after) :
    ∃ failing, VertexFsStep mountId failing fs after := by
  cases works with
  | reads => exact ⟨none, .reads ..⟩
  | prepares backing =>
    rcases run : exec (prepareVertexFsSyncFile backing) fs with ⟨error | result, prepared⟩
    · exact ⟨some backing, .unprepared run⟩
    · exact ⟨none, .prepares run⟩
  | finishes => exact ⟨none, .finishes ..⟩
  | fails backing => exact ⟨some backing, .fails ..⟩

theorem VertexFsState.Edits.step {fs after : VertexFsState} {backing : Nat}
    (edits : fs.Edits mountId backing after) :
    ∃ failing, VertexFsStep mountId failing fs after := by
  cases edits with
  | writes => exact ⟨none, .writes ..⟩
  | truncates => exact ⟨none, .truncates ..⟩

theorem steps_releaseBacking (backing : VfsBacking) :
    VertexFsSteps mountId vfs.vertexfs (vfs.releaseBacking backing).vertexfs := by
  cases backing with
  | memoryFile index =>
    simp only [releaseBacking, orKeep, releaseVfsMemoryFile]
    split <;> exact .refl
  | vertexFsFile index =>
    simp only [releaseBacking, orKeep]
    cases released : vfs.releaseVertexFsFile index with
    | error => exact .refl
    | ok after =>
      obtain ⟨vertexfs, inTable, rfl⟩ := releaseVertexFsFile_ok released
      exact .single ⟨none, .releases inTable⟩
  | _ => exact .refl

theorem steps_addFileUnder {name : VfsName} {parent : VfsNode} {backing : VfsBacking}
    {made : VfsState} (added : vfs.addFileUnder name parent = .ok (backing, made)) :
    VertexFsSteps mountId vfs.vertexfs made.vertexfs := by
  unfold addFileUnder at added
  split at added
  · obtain ⟨inode, _, added⟩ := outcome_bind_ok.mp added
    obtain ⟨⟨index, after⟩, inFs, added⟩ := outcome_bind_ok.mp added
    cases added
    exact .single ⟨none, .creates inFs⟩
  · obtain ⟨⟨index, after⟩, inMemory, added⟩ := outcome_bind_ok.mp added
    cases added
    have inMemory := mapError_ok.mp inMemory
    unfold addVfsEmptyMemoryFile at inMemory
    split at inMemory
    · cases inMemory
      exact .refl
    · cases inMemory

theorem steps_addFileNode (name : VfsName) (parent : VfsNode) (backing : VfsBacking) :
    VertexFsSteps mountId vfs.vertexfs (exec (addFileNode name parent backing) vfs).2.vertexfs := by
  unfold addFileNode
  rw [exec_get_bind]
  split
  · exact steps_releaseBacking backing
  · rename_i id after added
    obtain ⟨nodes, node, rfl, -⟩ := addVfsNodeWithName_ok added
    exact .refl

theorem vertexfs_of_removeVfsNode {id : VfsNodeId} (removed : vfs.removeVfsNode id = .ok after) :
    after.vertexfs = vfs.vertexfs := by
  unfold removeVfsNode at removed
  split at removed <;> cases removed
  rfl

theorem vertexfs_orKeep_removeVfsNode (id : VfsNodeId) :
    (vfs.orKeep (vfs.removeVfsNode id)).vertexfs = vfs.vertexfs := by
  unfold removeVfsNode orKeep
  split <;> rfl

theorem vertexfs_of_changeVfsNode {id : VfsNodeId} {change : VfsNode → VfsNode} {node : VfsNode}
    (changed : vfs.changeVfsNode id change = .ok (node, after)) :
    after.vertexfs = vfs.vertexfs := by
  unfold changeVfsNode at changed
  split at changed
  · cases changed
  · cases changed
    rfl

theorem vertexfs_of_acquireVfsLock {description : OpenFileDescription} {mode : VfsLockMode}
    {start len : Nat} (acquired : vfs.acquireVfsLock description mode start len = .ok after) :
    after.vertexfs = vfs.vertexfs := by
  unfold acquireVfsLock at acquired
  dsimp only at acquired
  split at acquired
  · cases acquired
  · split at acquired
    · cases acquired
      rfl
    · split at acquired
      · cases acquired
        rfl
      · split at acquired
        · cases acquired
          rfl
        · cases acquired

theorem steps_of_eq (same : after.vertexfs = vfs.vertexfs) :
    VertexFsSteps mountId vfs.vertexfs after.vertexfs :=
  same ▸ .refl

theorem VfsEffect.steps {aligned : Prop} (effect : VfsEffect mountId aligned vfs after) :
    VertexFsSteps mountId vfs.vertexfs after.vertexfs := by
  cases effect with
  | stirs stirs => exact steps_of_eq stirs.vertexfs
  | works works => exact .single works.step
  | edits _ edits => exact .single edits.step
  | createsFile _ _ _ added =>
    exact Relation.ReflTransGen.trans (steps_addFileUnder added) (steps_addFileNode ..)
  | makesDirectory _ _ _ added =>
    obtain ⟨nodes, node, rfl, -⟩ := addVfsNodeWithName_ok added
    exact .refl
  | makesInVain _ _ added =>
    obtain ⟨nodes, node, rfl, -⟩ := addVfsNodeWithName_ok added
    exact steps_of_eq (vertexfs_orKeep_removeVfsNode _)
  | removesDirectory _ _ _ _ removed => exact steps_of_eq (vertexfs_of_removeVfsNode removed)
  | detaches _ _ _ changed => exact steps_of_eq (vertexfs_of_changeVfsNode changed)
  | removesFile _ _ _ _ removes =>
    have kept := vertexfs_of_removeVfsNode removes
    split
    · exact steps_of_eq kept
    · exact kept ▸ steps_releaseBacking _
  | renames _ _ _ _ _ changed => exact steps_of_eq (vertexfs_of_changeVfsNode changed)
  | links _ _ _ _ _ added =>
    obtain ⟨nodes, node, rfl, -⟩ := addVfsNodeWithName_ok added
    exact .refl
  | discards pinned =>
    unfold releaseCreatedVfsMemoryNode
    dsimp only
    split
    · exact .refl
    split
    · exact vertexfs_orKeep_removeVfsNode _ ▸ steps_releaseBacking _
    · exact vertexfs_orKeep_removeVfsNode _ ▸ steps_releaseBacking _
    · exact .refl
  | locks _ _ acquired => exact steps_of_eq (vertexfs_of_acquireVfsLock acquired)
  | unlocks description => exact .refl

end

end VertexOS
