import VertexOS.ProcessTable
import VertexOS.VertexFsPageCache

/-!
# The nodes and open files of the virtual file system

Nodes form a tree by parent links and name what backs them.  Open file descriptions
keep a node alive after its last name is gone; closing the last one reaps it.
-/

namespace VertexOS

open ByteStrings ByteImages SlotTables FailingCalls

def maxVfsNodes : Nat := 96
def maxVfsMemFiles : Nat := 8
def maxVfsMemFileBytes : Nat := 512
def maxVfsPipeBytes : Nat := 128
def maxOpenFileDescriptions : Nat := maxProcesses * maxFileHandles
def maxVfsLocks : Nat := maxOpenFileDescriptions
def maxVfsEvents : Nat := 64

inductive VfsNodeKind where
  | regularFile
  | directory
  | deviceNode
  | pipe
  | syntheticNode
deriving DecidableEq, Repr

inductive VfsBacking where
  | none
  | storeObject (object : KernelObjectId)
  | stateVolume (object : KernelObjectId)
  | stateVolumeValue (object : KernelObjectId)
  | stateVolumeControl (object : KernelObjectId)
  | memoryFile (index : Nat)
  | vertexFsFile (index : Nat)
  | device (object : KernelObjectId)
  | synthetic (bytes : Bytes)
  | fsServiceReport
  | pipe
deriving DecidableEq, Repr

structure VfsNode where
  id : VfsNodeId
  name : VfsName
  parent : Option VfsNodeId
  kind : VfsNodeKind
  backing : VfsBacking
  mountSource : String
  metadataVersion : Nat
deriving DecidableEq

structure VfsMemoryFile where
  name : String
  bytes : Image
  len : Nat

namespace VfsMemoryFile

def empty : VfsMemoryFile := ⟨"", fun _ => 0, 0⟩

def new (name : String) (initial : Bytes) : Except InitError VfsMemoryFile :=
  if initial.length ≤ maxVfsMemFileBytes then
    .ok ⟨name, writeBytes (fun _ => 0) 0 initial, initial.length⟩
  else .error .invalidBootManifest

end VfsMemoryFile

structure OpenFileDescription where
  id : FileDescriptionId
  node : VfsNodeId
  rights : Rights
  flags : BitVec 64
  offset : Nat
  refCount : Nat
  owner : ProcessId
  authorityCapId : Nat
  watchCursor : Nat
deriving DecidableEq

inductive VfsLockMode where
  | shared
  | exclusive
deriving DecidableEq, Repr

structure VfsLock where
  node : VfsNodeId
  owner : ProcessId
  description : FileDescriptionId
  mode : VfsLockMode
  start : Nat
  len : Nat
deriving DecidableEq

inductive VfsEventKind where
  | create
  | rename
  | unlink
deriving DecidableEq, Repr

structure VfsEvent where
  parent : VfsNodeId
  kind : VfsEventKind
  name : VfsName
  metadataVersion : Nat
deriving DecidableEq

/-- What the virtual file system keeps.  The node slots end at the last node. -/
structure VfsState where
  nodes : Slots VfsNode
  nextNodeId : ℕ+
  nextMetadataVersion : Nat
  memFiles : Nat → VfsMemoryFile
  memFileCount : Nat
  vertexfs : VertexFsState
  descriptions : Slots OpenFileDescription
  nextFileDescriptionId : ℕ+
  locks : Slots VfsLock
  events : List VfsEvent
  pipe : Bytes

namespace VfsState

variable (vfs : VfsState) (id : VfsNodeId)

def empty : VfsState where
  nodes := []
  nextNodeId := 1
  nextMetadataVersion := 1
  memFiles := fun _ => .empty
  memFileCount := 0
  vertexfs := .empty
  descriptions := []
  nextFileDescriptionId := 1
  locks := []
  events := []
  pipe := []

def allocateVfsMetadataVersion : Nat × VfsState :=
  (vfs.nextMetadataVersion, { vfs with nextMetadataVersion := vfs.nextMetadataVersion + 1 })

def addVfsNodeWithName (name : VfsName) (parent : Option VfsNodeId)
    (kind : VfsNodeKind) (backing : VfsBacking) (mountSource : String) :
    Except InitError (VfsNodeId × VfsState) :=
  let id : VfsNodeId := ⟨vfs.nextNodeId⟩
  let node : VfsNode :=
    { id, name, parent, kind, backing, mountSource, metadataVersion := vfs.nextMetadataVersion }
  let after (nodes : Slots VfsNode) : VfsState :=
    { vfs with
      nodes
      nextNodeId := vfs.nextNodeId + 1
      nextMetadataVersion := vfs.nextMetadataVersion + 1 }
  match fillFirst node vfs.nodes with
  | some nodes => .ok (id, after nodes)
  | none =>
    if vfs.nodes.length < maxVfsNodes then .ok (id, after (vfs.nodes ++ [some node]))
    else .error .objectTableFull

def addVfsNode (name : String) (parent : Option VfsNodeId)
    (kind : VfsNodeKind) (backing : VfsBacking) (mountSource : String) :
    Except InitError (VfsNodeId × VfsState) := do
  let name ← VfsName.fromStatic name
  vfs.addVfsNodeWithName name parent kind backing mountSource

def vfsNode : Option VfsNode :=
  select (fun node => if node.id = id then some node else none) vfs.nodes

def vfsNodeByParentName (parent : VfsNodeId) (name : Bytes) : Option VfsNode :=
  select (fun node =>
    if node.parent = some parent ∧ node.name.bytes = name then some node else none) vfs.nodes

def walk (vfs : VfsState) (node : VfsNode) : List Bytes → Option VfsNode
  | [] => some node
  | name :: rest =>
    if name = [] then none
    else (vfs.vfsNodeByParentName node.id name).bind fun child => vfs.walk child rest

def vfsNodeByPathFrom (node : VfsNode) (path : Bytes) : Option VfsNode :=
  if path = [] then some node
  else if path.head? ≠ some slash then none
  else vfs.walk node ((path.drop 1).splitOn slash)

def rootNode : Option VfsNode := vfs.nodes.head?.join

def vfsNodeHasChildren : Bool :=
  vfs.nodes.any (Option.any fun node => node.parent = some id)

def vfsNodeHasOpenDescription : Bool :=
  vfs.descriptions.any (Option.any fun description => description.node = id)

/-- Whether the chain of parents from a node meets `root`. -/
def descendsFrom (vfs : VfsState) (root : VfsNodeId) : Nat → VfsNodeId → Bool
  | 0, node => node = root
  | steps + 1, node =>
    node = root ∨
      ((vfs.vfsNode node).bind VfsNode.parent).any fun parent => vfs.descendsFrom root steps parent

def vfsNodeIsDescendantOrSelf (node root : VfsNodeId) : Bool :=
  vfs.descendsFrom root vfs.nodes.length node

def vfsSubtreeHasOpenDescription (root : VfsNodeId) : Bool :=
  vfs.descriptions.any
    (Option.any fun description => vfs.vfsNodeIsDescendantOrSelf description.node root)

def removeVfsNode : Except IpcError VfsState :=
  if (vfs.vfsNode id).isNone then .error .badCapability
  else .ok { vfs with
    nodes := trimEmptyTail (clearFirst (fun node => node.id = id) vfs.nodes) }

def changeVfsNode (change : VfsNode → VfsNode) :
    Except IpcError (VfsNode × VfsState) :=
  match vfs.vfsNode id with
  | none => .error .vfsBadHandle
  | some node =>
    let (version, after) := vfs.allocateVfsMetadataVersion
    let changed (node : VfsNode) : VfsNode :=
      { change node with metadataVersion := version }
    .ok (changed node, { after with
      nodes := updateFirst (fun node => node.id = id) changed vfs.nodes })

def detachVfsNode : Except IpcError (VfsNode × VfsState) :=
  vfs.changeVfsNode id fun node => { node with parent := none }

def renameVfsNode (id newParent : VfsNodeId) (newName : VfsName) :
    Except IpcError (VfsNode × VfsState) :=
  vfs.changeVfsNode id fun node => { node with parent := some newParent, name := newName }

def touchNodesBackedBy (backing : VfsBacking) : Except IpcError VfsState :=
  if vfs.nodes.any (Option.any fun node => node.backing = backing) then
    let (version, after) := vfs.allocateVfsMetadataVersion
    .ok { after with
      nodes := vfs.nodes.map (Option.map fun node =>
        if node.backing = backing then { node with metadataVersion := version } else node) }
  else .error .vfsBadHandle

def touchVfsMemoryFileNodes (backing : Nat) : Except IpcError VfsState :=
  vfs.touchNodesBackedBy (.memoryFile backing)

def touchVertexFsFileNodes (backing : Nat) : Except IpcError VfsState :=
  vfs.touchNodesBackedBy (.vertexFsFile backing)

def backingInUse (backing : VfsBacking) : Bool :=
  vfs.nodes.any (Option.any fun node => node.backing = backing)

def vfsMemoryFileInUse (index : Nat) : Bool :=
  vfs.backingInUse (.memoryFile index)

def vertexFsFileInUse (index : Nat) : Bool :=
  vfs.backingInUse (.vertexFsFile index)

def linkCount (backing : VfsBacking) : Nat :=
  vfs.nodes.countP (Option.any fun node => node.backing = backing ∧ node.parent.isSome)

def addVfsMemoryFile (name : String) (initial : Bytes) :
    Except InitError (Nat × VfsState) :=
  if vfs.memFileCount = maxVfsMemFiles then .error .objectTableFull
  else do
    let file ← VfsMemoryFile.new name initial
    return (vfs.memFileCount, { vfs with
      memFiles := Function.update vfs.memFiles vfs.memFileCount file
      memFileCount := vfs.memFileCount + 1 })

def addVfsEmptyMemoryFile : Except InitError (Nat × VfsState) :=
  match (List.range maxVfsMemFiles).find? fun index => !vfs.vfsMemoryFileInUse index with
  | some index => .ok (index, { vfs with
      memFiles := Function.update vfs.memFiles index .empty
      memFileCount := max vfs.memFileCount (index + 1) })
  | none => .error .objectTableFull

def releaseVfsMemoryFile (index : Nat) : Except IpcError VfsState :=
  if maxVfsMemFiles ≤ index ∨ vfs.vfsMemoryFileInUse index then .error .badCapability
  else .ok { vfs with
    memFiles := Function.update vfs.memFiles index .empty
    memFileCount := VertexFsState.trimFileCount vfs.vfsMemoryFileInUse vfs.memFileCount }

def releaseVertexFsFile (vfs : VfsState) (index : Nat) : Except IpcError VfsState := do
  let vertexfs ← vfs.vertexfs.releaseVertexFsFile vfs.vertexFsFileInUse index
  return { vfs with vertexfs }

def addVertexFsFile (name : String) (initial : Bytes)
    (inode : Option VertexFsInode) : Except InitError (Nat × VfsState) :=
  let fs := vfs.vertexfs
  if fs.fileCount = maxVertexFsFiles then .error .objectTableFull
  else do
    let file ← VfsVertexFsFile.new name initial inode
    return (fs.fileCount, { vfs with
      vertexfs := { fs with
        files := Function.update fs.files fs.fileCount file
        fileCount := fs.fileCount + 1 } })

def vertexFsDynamicInodeInUse (inodeId : Nat) : Bool :=
  (List.range vfs.vertexfs.fileCount).any fun index =>
    (vfs.vertexfs.files index).inodeId = inodeId

/-- The first dynamic inode that neither an open file nor the image has, with its
sector. -/
def freeDynamicInode (vfs : VfsState) : List Nat → Except IpcError (Option (Nat × Nat))
  | [] => .ok none
  | index :: rest =>
    match vertexFsDynamicInodeAt vfs.vertexfs.image index with
    | .error _ => .ok none
    | .ok candidate =>
      if vfs.vertexFsDynamicInodeInUse candidate then vfs.freeDynamicInode rest
      else do
        if ← vertexFsImageHasInode vfs.vertexfs.image candidate then
          vfs.freeDynamicInode rest
        else
          let sector ← vertexFsDynamicDataSectorAt vfs.vertexfs.image index
          return some (candidate, sector)

def addEmptyVertexFsFile (name : VfsName) (parentInodeId : Nat) :
    Except IpcError (Nat × VfsState) :=
  if 28 < name.bytes.length ∨ parentInodeId ≠ vertexFsInodeAppDir then .error .vfsUnsupported
  else if vfs.vertexfs.imageLoaded = false then .error .vfsUnsupported
  else do
    match ← vfs.freeDynamicInode (List.range maxVertexFsFiles) with
    | none => .error .vfsNoSpace
    | some (inodeId, firstSector) =>
      match (List.range maxVertexFsFiles).find? fun index => !vfs.vertexFsFileInUse index with
      | none => .error .vfsNoSpace
      | some index =>
        let file : VfsVertexFsFile := { VfsVertexFsFile.empty with
          vfsName := name, inodeId, parentInodeId, firstSector, sectorCount := 1 }
        let fs := (vfs.vertexfs.invalidateVertexFsPageCache index).updateFile index
          fun _ => file
        return (index, { vfs with
          vertexfs := { fs with fileCount := max fs.fileCount (index + 1) } })

def fileDescription (id : FileDescriptionId) : Option OpenFileDescription :=
  select (fun description => if description.id = id then some description else none)
    vfs.descriptions

def updateDescription (id : FileDescriptionId)
    (change : OpenFileDescription → OpenFileDescription) : VfsState :=
  { vfs with
    descriptions := updateFirst (fun description => description.id = id) change
      vfs.descriptions }

def openFileDescription (node : VfsNodeId) (rights : Rights)
    (flags : BitVec 64) (owner : ProcessId) (authorityCapId : Nat) :
    Except IpcError (FileDescriptionId × VfsState) :=
  -- the kernel replaces a next number zero by one, which never happens
  let id : FileDescriptionId := ⟨vfs.nextFileDescriptionId⟩
  let description : OpenFileDescription :=
    { id, node, rights, flags, offset := 0, refCount := 1, owner, authorityCapId
      watchCursor := vfs.events.length }
  let after (descriptions : Slots OpenFileDescription) : VfsState :=
    { vfs with descriptions, nextFileDescriptionId := id.raw + 1 }
  match fillFirst description vfs.descriptions with
  | some descriptions => .ok (id, after descriptions)
  | none =>
    if vfs.descriptions.length < maxOpenFileDescriptions then
      .ok (id, after (vfs.descriptions ++ [some description]))
    else .error .badCapability

def releaseVfsLock (description : FileDescriptionId) : VfsState :=
  { vfs with locks := clearAll (fun lock => lock.description = description) vfs.locks }

def releaseVfsLocksForProcess (pid : ProcessId) : VfsState :=
  { vfs with locks := clearAll (fun lock => lock.owner = pid) vfs.locks }

def orKeep (outcome : Except IpcError VfsState) : VfsState :=
  outcome.toOption.getD vfs

def releaseBacking : VfsBacking → VfsState
  | .memoryFile index => vfs.orKeep (vfs.releaseVfsMemoryFile index)
  | .vertexFsFile index => vfs.orKeep (vfs.releaseVertexFsFile index)
  | _ => vfs

def reapUnlinkedVfsNodeIfIdle : VfsState :=
  if vfs.vfsNodeHasOpenDescription id then vfs
  else
    match vfs.vfsNode id with
    | none => vfs
    | some node =>
      if node.parent.isSome then vfs
      else
        match node.backing with
        | .memoryFile _ => (vfs.orKeep (vfs.removeVfsNode node.id)).releaseBacking node.backing
        | .vertexFsFile _ => (vfs.orKeep (vfs.removeVfsNode node.id)).releaseBacking node.backing
        | _ => vfs

def dropDescriptionAt (index : Nat) : VfsState :=
  { vfs with descriptions := vfs.descriptions.set index none }

def releaseFileDescription (id : FileDescriptionId) :
    Except IpcError VfsState :=
  match vfs.fileDescription id with
  | none => .error .vfsBadHandle
  | some description =>
    if description.refCount ≤ 1 then
      let closed := { vfs.releaseVfsLock id with
        descriptions := clearFirst (fun other => other.id = id) vfs.descriptions }
      .ok (closed.reapUnlinkedVfsNodeIfIdle description.node)
    else
      .ok (vfs.updateDescription id fun other => { other with refCount := other.refCount - 1 })

def releaseOwnedAt (pid : ProcessId) (vfs : VfsState) (index : Nat) : VfsState :=
  match vfs.descriptions[index]?.join with
  | none => vfs
  | some description =>
    if description.owner = pid then
      (vfs.dropDescriptionAt index).reapUnlinkedVfsNodeIfIdle description.node
    else vfs

def releaseProcessFileDescriptions (pid : ProcessId) : VfsState :=
  (List.range vfs.descriptions.length).foldl (releaseOwnedAt pid)
    (vfs.releaseVfsLocksForProcess pid)

def recordVfsEvent (parent : VfsNodeId) (kind : VfsEventKind)
    (name : VfsName) : VfsState :=
  let (metadataVersion, after) := vfs.allocateVfsMetadataVersion
  let event : VfsEvent := { parent, kind, name, metadataVersion }
  if vfs.events.length < maxVfsEvents then { after with events := vfs.events ++ [event] }
  else { after with
    events := vfs.events.drop 1 ++ [event]
    descriptions := vfs.descriptions.map (Option.map fun description =>
      { description with watchCursor := description.watchCursor - 1 }) }

end VfsState

end VertexOS
