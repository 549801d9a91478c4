import VertexOS.VfsMountSyscalls

/-!
# What a step does to the file system

Every operation of the file system is one of a few: a node comes, goes, is renamed
or loses its name; a file is read or written through its page; a lock is taken or
given back.
-/

namespace VertexOS

open ByteStrings ByteImages FailingCalls SlotTables

def VfsNode.core (node : VfsNode) : VfsNode := { node with metadataVersion := 0 }

def OpenFileDescription.core (description : OpenFileDescription) : OpenFileDescription :=
  { description with offset := 0, watchCursor := 0 }

namespace VfsState

/-- A step that changes no node, file, description or lock. -/
structure Stirs (vfs after : VfsState) : Prop where
  nodes : after.nodes.map (Option.map VfsNode.core) = vfs.nodes.map (Option.map VfsNode.core)
  nextNodeId : after.nextNodeId = vfs.nextNodeId
  memFileCount : after.memFileCount = vfs.memFileCount
  memFiles : ∀ index, vfs.vfsMemoryFileInUse index = false →
    after.memFiles index = vfs.memFiles index
  vertexfs : after.vertexfs = vfs.vertexfs
  descriptions : after.descriptions.map (Option.map OpenFileDescription.core) =
    vfs.descriptions.map (Option.map OpenFileDescription.core)
  nextFileDescriptionId : after.nextFileDescriptionId = vfs.nextFileDescriptionId
  locks : after.locks = vfs.locks

section

variable {vfs after : VfsState}

theorem Stirs.backingInUse (stirs : vfs.Stirs after) (backing : VfsBacking) :
    after.backingInUse backing = vfs.backingInUse backing := by
  have counted (nodes : Slots VfsNode) :
      (nodes.any (Option.any fun node => node.backing = backing)) =
        (nodes.map (Option.map VfsNode.core)).any
          (Option.any fun node => node.backing = backing) := by
    rw [List.any_map]
    congr 1
    funext slot
    cases slot <;> rfl
  rw [VfsState.backingInUse, counted, stirs.nodes, ← counted]
  rfl

instance : IsTrans VfsState Stirs where
  trans _ _ _ one two :=
    { nodes := two.nodes.trans one.nodes
      nextNodeId := two.nextNodeId.trans one.nextNodeId
      memFileCount := two.memFileCount.trans one.memFileCount
      memFiles := fun index unused =>
        (two.memFiles index ((one.backingInUse _).trans unused)).trans (one.memFiles index unused)
      vertexfs := two.vertexfs.trans one.vertexfs
      descriptions := two.descriptions.trans one.descriptions
      nextFileDescriptionId := two.nextFileDescriptionId.trans one.nextFileDescriptionId
      locks := two.locks.trans one.locks }

instance : Std.Refl Stirs := ⟨fun _ => ⟨rfl, rfl, rfl, fun _ _ => rfl, rfl, rfl, rfl, rfl⟩⟩

theorem stirs_touchNodesBackedBy {backing : VfsBacking}
    (touched : vfs.touchNodesBackedBy backing = .ok after) : vfs.Stirs after := by
  unfold touchNodesBackedBy at touched
  split at touched
  · cases touched
    refine ⟨?_, rfl, rfl, fun _ _ => rfl, rfl, rfl, rfl, rfl⟩
    rw [List.map_map]
    refine List.map_congr_left fun slot _ => ?_
    cases slot with
    | none => rfl
    | some node =>
      simp only [Function.comp, Option.map_some]
      split <;> rfl
  · cases touched

theorem stirs_updateDescription (id : FileDescriptionId)
    {change : OpenFileDescription → OpenFileDescription}
    (sameCore : ∀ description, (change description).core = description.core) :
    vfs.Stirs (vfs.updateDescription id change) := by
  refine ⟨rfl, rfl, rfl, fun _ _ => rfl, rfl, ?_, rfl, rfl⟩
  unfold updateDescription updateFirst
  induction vfs.descriptions with
  | nil => rfl
  | cons slot rest ih =>
    simp only [changeFirst]
    split
    · cases slot <;> simp [sameCore]
    · simp only [List.map_cons, ih]

end

end VfsState

namespace VertexFsState

/-- Reading a file and the steps of its sync: no file gets other bytes. -/
inductive Works (mountId : Nat) : VertexFsState → VertexFsState → Prop
  | reads (fs : VertexFsState) (backing offset maxLen : Nat) (copied : Bool) :
      Works mountId fs (exec (readVertexFsPageCache mountId backing offset maxLen copied) fs).2
  | prepares (fs : VertexFsState) (backing : Nat) :
      Works mountId fs (exec (prepareVertexFsSyncFile backing) fs).2
  | finishes (fs : VertexFsState) (backing checksum : Nat) :
      Works mountId fs (exec (finishVertexFsSyncFile backing checksum) fs).2
  | fails (fs : VertexFsState) (backing : Nat) :
      Works mountId fs (fs.recordVertexFsPageCacheWritebackError backing)

inductive Edits (mountId backing : Nat) : VertexFsState → VertexFsState → Prop
  | writes (fs : VertexFsState) (offset : Nat) (bytes : Bytes) :
      Edits mountId backing fs (exec (writeVertexFsPageCache mountId backing offset bytes) fs).2
  | truncates (fs : VertexFsState) (len : Nat) :
      Edits mountId backing fs (exec (truncateVertexFsPageCache mountId backing len) fs).2

end VertexFsState

/-- A range that a lock may have: one that the caller packed, or the whole file. -/
def LockRange (start len : Nat) : Prop :=
  (start < 2 ^ 32 ∧ 0 < len ∧ len < 2 ^ 32) ∨ (start = 0 ∧ len = 2 ^ 64 - 1)

namespace VfsState

def NameFree (vfs : VfsState) (parent : VfsNodeId) (name : VfsName) : Prop :=
  vfs.vfsNodeByParentName parent name.bytes = none

/-- The table still has the node, up to its version. -/
def Pins (vfs : VfsState) (node : VfsNode) : Prop :=
  ∃ live, vfs.vfsNode node.id = some live ∧ live.core = node.core

end VfsState

/-- What one step does to the files, without those who have them open. -/
inductive VfsEffect (mountId : Nat) (aligned : Prop) : VfsState → VfsState → Prop
  | stirs {vfs after : VfsState} (stirs : vfs.Stirs after) : VfsEffect mountId aligned vfs after
  | works {vfs : VfsState} {vertexfs : VertexFsState}
      (works : vfs.vertexfs.Works mountId vertexfs) :
      VfsEffect mountId aligned vfs { vfs with vertexfs }
  | edits {vfs : VfsState} {vertexfs : VertexFsState} {backing : Nat}
      (inUse : vfs.vertexFsFileInUse backing = true)
      (edits : vfs.vertexfs.Edits mountId backing vertexfs) :
      VfsEffect mountId aligned vfs { vfs with vertexfs }
  | createsFile {vfs made : VfsState} {name : VfsName} {parent : VfsNode} {backing : VfsBacking}
      (live : some parent ∈ vfs.nodes) (directory : parent.kind = .directory)
      (free : aligned → vfs.NameFree parent.id name)
      (added : vfs.addFileUnder name parent = .ok (backing, made)) :
      VfsEffect mountId aligned vfs (exec (addFileNode name parent backing) made).2
  | makesDirectory {vfs after : VfsState} {name : VfsName} {parent : VfsNode} {source : String}
      {id : VfsNodeId} (live : some parent ∈ vfs.nodes) (directory : parent.kind = .directory)
      (free : aligned → vfs.NameFree parent.id name)
      (added : vfs.addVfsNodeWithName name (some parent.id) .directory .none source =
        .ok (id, after)) :
      VfsEffect mountId aligned vfs after
  | makesInVain {vfs after : VfsState} {name : VfsName} {parent : VfsNode} {source : String}
      {id : VfsNodeId} (live : some parent ∈ vfs.nodes) (directory : parent.kind = .directory)
      (added : vfs.addVfsNodeWithName name (some parent.id) .directory .none source =
        .ok (id, after)) :
      VfsEffect mountId aligned vfs (after.orKeep (after.removeVfsNode id))
  | removesDirectory {vfs after : VfsState} {node : VfsNode} (live : some node ∈ vfs.nodes)
      (directory : node.kind = .directory) (childless : vfs.vfsNodeHasChildren node.id = false)
      (closed : vfs.vfsNodeHasOpenDescription node.id = false)
      (removed : vfs.removeVfsNode node.id = .ok after) :
      VfsEffect mountId aligned vfs after
  | detaches {vfs after : VfsState} {node detached : VfsNode} (live : some node ∈ vfs.nodes)
      (isFile : node.backing.isFile = true)
      (isOpen : vfs.vfsNodeHasOpenDescription node.id = true)
      (changed : vfs.detachVfsNode node.id = .ok (detached, after)) :
      VfsEffect mountId aligned vfs after
  | removesFile {vfs removed : VfsState} {node : VfsNode} (live : some node ∈ vfs.nodes)
      (isFile : node.backing.isFile = true) (childless : vfs.vfsNodeHasChildren node.id = false)
      (closed : vfs.vfsNodeHasOpenDescription node.id = false)
      (removes : vfs.removeVfsNode node.id = .ok removed) :
      VfsEffect mountId aligned vfs
        (if removed.backingInUse node.backing then removed
          else removed.releaseBacking node.backing)
  | renames {vfs after : VfsState} {node parent renamed : VfsNode} {name : VfsName}
      (live : some node ∈ vfs.nodes) (isFile : node.backing.isFile = true)
      (parentLive : some parent ∈ vfs.nodes) (directory : parent.kind = .directory)
      (free : aligned → vfs.NameFree parent.id name)
      (changed : vfs.renameVfsNode node.id parent.id name = .ok (renamed, after)) :
      VfsEffect mountId aligned vfs after
  | links {vfs after : VfsState} {node parent : VfsNode} {name : VfsName} {id : VfsNodeId}
      (live : some node ∈ vfs.nodes) (isFile : node.backing.isFile = true)
      (parentLive : some parent ∈ vfs.nodes) (directory : parent.kind = .directory)
      (free : aligned → vfs.NameFree parent.id name)
      (added : vfs.addVfsNodeWithName name (some parent.id) .regularFile node.backing
        node.mountSource = .ok (id, after)) :
      VfsEffect mountId aligned vfs after
  | discards {vfs : VfsState} {node : VfsNode} (pinned : vfs.Pins node) :
      VfsEffect mountId aligned vfs (vfs.releaseCreatedVfsMemoryNode (some node))
  | locks {vfs after : VfsState} {description : OpenFileDescription} {mode : VfsLockMode}
      {start len : Nat} (live : some description ∈ vfs.descriptions) (range : LockRange start len)
      (acquired : vfs.acquireVfsLock description mode start len = .ok after) :
      VfsEffect mountId aligned vfs after
  | unlocks {vfs : VfsState} (description : FileDescriptionId) :
      VfsEffect mountId aligned vfs (vfs.releaseVfsLock description)

end VertexOS
