import VertexOS.VfsFileSyscalls

/-! # The system calls on directories and mounts -/

namespace VertexOS

open ByteStrings FailingCalls SlotTables

def vfsMountKnownFlags : BitVec 64 :=
  vfsMountVolatile ||| ObjectTable.vfsMountBind ||| vfsMountReadOnly

namespace ObjectTable

def dynamicMountWith (wanted : VfsMountObject → Bool) : KernelObject → Option VfsMountObject
  | .vfsMount mount => if mount.dynamic ∧ wanted mount then some mount else none
  | _ => none

def removeFirstDynamicMount (table : ObjectTable) (wanted : VfsMountObject → Bool) :
    Option KernelObjectId × ObjectTable :=
  match table.lookup (dynamicMountWith wanted) with
  | none => (none, table)
  | some mount =>
    (some mount.id, table.removeFirst fun object => (dynamicMountWith wanted object).isSome)

def removeDynamicVfsMount (table : ObjectTable) (rootNode : VfsNodeId) :
    Option KernelObjectId × ObjectTable :=
  table.removeFirstDynamicMount fun mount => mount.rootNode = rootNode

def removeDynamicVfsMountByPath (table : ObjectTable) (path : Bytes) :
    Option KernelObjectId × ObjectTable :=
  table.removeFirstDynamicMount fun mount => mount.rootPath.bytes = path

end ObjectTable

namespace RuntimeState

def removeVfsMountId (runtime : RuntimeState) (id : KernelObjectId) : RuntimeState :=
  { runtime with vfsMountIds := trimEmptyTail (clearAll (fun other => other = id) runtime.vfsMountIds) }

/-- Take a mount made at run time out: a bind mount by its path, another one by the
node it is at. -/
def removeMount (runtime : RuntimeState) (mount : VfsMountObject) (path : Bytes) : RuntimeState :=
  let (removed, objects) :=
    if mount.flags &&& ObjectTable.vfsMountBind ≠ 0 then
      runtime.objects.removeDynamicVfsMountByPath path
    else runtime.objects.removeDynamicVfsMount mount.rootNode
  removed.elim { runtime with objects } fun id => { runtime with objects }.removeVfsMountId id

end RuntimeState

def addDirectory (name : VfsName) (parent : VfsNodeId) (mountSource : String) :
    KernelCall VfsNodeId := do
  let runtime ← get
  let (id, vfs) ← fromExcept
    ((runtime.vfs.addVfsNodeWithName name (some parent) .directory .none mountSource).mapError
      fun _ => .vfsNoSpace)
  set { runtime with vfs }
  return id

def vfsCreateDirectoryNode (cap : Capability) (path : Bytes) : KernelCall VfsNode := do
  let runtime ← get
  let canonical ← fromExcept (runtime.resolveProcessVfsPath path)
  let (parentPath, childName) ← fromExcept (splitVfsParentChild canonical.bytes)
  let name ← fromExcept (newChildName childName)
  let available ← fromExcept (runtime.resolveVfsRootAuthority cap parentPath)
  require .vfsPermission (available &&& rightCreate ≠ 0)
  let parent ← fromOption .vfsNotFound (runtime.vfsNodeByPath parentPath)
  require .vfsNotDirectory (parent.kind = .directory)
  require .vfsExists (runtime.vfsNodeByPath canonical.bytes = none)
  let id ← addDirectory name parent.id parent.mountSource
  fromOption .vfsBadHandle ((← get).vfs.vfsNode id)

def vfsMkdir (machine : Machine) (capSlot path packedLenFlags : Nat) : KernelCall Unit := do
  let pathLen := packedLow packedLenFlags
  require .vfsBadPath (pathLen ≤ maxVfsPathBytes ∧ packedHigh packedLenFlags = 0)
  let path ← copyFromUser machine path pathLen
  let readOnly ← fromExcept ((← get).vfsRequestPathIsReadOnly path)
  require .vfsPermission (readOnly = false)
  let cap ← rootCapability capSlot
  let node ← vfsCreateDirectoryNode cap path
  match node.parent with
  | some parent => recordEvent parent .create node.name
  | none => pure ()

def vfsRmdir (machine : Machine) (capSlot path pathLen : Nat) : KernelCall Unit := do
  require .vfsBadPath (pathLen ≤ maxVfsPathBytes)
  let path ← copyFromUser machine path pathLen
  let runtime ← get
  let canonical ← fromExcept (runtime.resolveProcessVfsPath path)
  require .vfsPermission (runtime.vfsPathIsReadOnly canonical.bytes = false)
  let (parentPath, _) ← fromExcept (splitVfsParentChild canonical.bytes)
  let cap ← rootCapability capSlot
  let available ← fromExcept (runtime.resolveVfsRootAuthority cap parentPath)
  require .vfsPermission (available &&& rightUnlink ≠ 0)
  let node ← fromOption .vfsNotFound (runtime.vfsNodeByPath canonical.bytes)
  require .vfsNotDirectory (node.kind = .directory)
  require .vfsUnsupported
    (node.parent.isSome ∧ (runtime.objects.getVfsMountByRootNode node.id).isNone)
  require .vfsBusy (runtime.vfs.vfsNodeHasChildren node.id = false ∧
    runtime.vfs.vfsNodeHasOpenDescription node.id = false)
  updateVfsOr fun vfs => vfs.removeVfsNode node.id
  match node.parent with
  | some parent => recordEvent parent .unlink node.name
  | none => pure ()

/-- The flags a mount may be asked for: volatile alone, or bind with or without
read-only. -/
def vfsMountFlagsSupported (flags : BitVec 64) : Bool :=
  flags &&& ~~~vfsMountKnownFlags = 0 ∧ flags ≠ 0 ∧
    (flags &&& vfsMountVolatile ≠ 0 → flags = vfsMountVolatile) ∧
    (flags &&& vfsMountReadOnly ≠ 0 → flags &&& ObjectTable.vfsMountBind ≠ 0)

def addDynamicMount (name : String) (rootNode : VfsNodeId) (rootPath : VfsPath)
    (source : String) (flags : BitVec 64) : KernelCall Unit := do
  let runtime ← get
  let (_, after) ← fromExcept ((runtime.addVfsMount name rootNode rootPath source flags true
    runtime.currentProcessId).mapError fun _ => .vfsNoSpace)
  set after

/-- Show the directory of a root at another path.  What is read-only stays so. -/
def vfsMountBindAt (cap : Capability) (rootPath : VfsPath) (flags : BitVec 64) :
    KernelCall Unit := do
  let runtime ← get
  let sourceRoot ← fromOption .vfsPermission (runtime.objects.getVfsRoot cap.object)
  let sourceNode ← fromOption .vfsNotFound (runtime.vfsNodeByPath sourceRoot.rootPath.bytes)
  require .vfsNotDirectory (sourceNode.kind = .directory)
  let sourceFlags := ((runtime.objects.getVfsMountByPath sourceRoot.rootPath.bytes).map
    VfsMountObject.flags).getD 0
  addDynamicMount "mount:bind" sourceNode.id rootPath sourceNode.mountSource
    (flags ||| (sourceFlags &&& vfsMountReadOnly))

/-- A new directory with a mount at it; without the mount the directory goes. -/
def vfsMountVolatileAt (parent : VfsNodeId) (name : VfsName) (rootPath : VfsPath)
    (flags : BitVec 64) : KernelCall Unit := do
  let node ← addDirectory name parent "volatilefs"
  match ← attempt (addDynamicMount "mount:volatile" node rootPath "volatilefs" flags) with
  | .ok () => pure ()
  | .error _ =>
    modify fun runtime => runtime.updateVfs fun vfs => vfs.orKeep (vfs.removeVfsNode node)
    throw .vfsNoSpace

def vfsMount (machine : Machine) (capSlot path packedLenFlags : Nat) : KernelCall Unit := do
  let pathLen := packedLow packedLenFlags
  let flags := BitVec.ofNat 64 (packedHigh packedLenFlags)
  require .vfsBadPath (pathLen ≤ maxVfsPathBytes)
  require .vfsUnsupported (vfsMountFlagsSupported flags = true)
  let requested ← copyFromUser machine path pathLen
  let runtime ← get
  let rootPath ← fromExcept (runtime.resolveProcessVfsPath requested)
  let (parentPath, childName) ← fromExcept (splitVfsParentChild rootPath.bytes)
  let name ← fromExcept (newChildName childName)
  let cap ← rootCapability capSlot
  let available ← fromExcept (runtime.resolveVfsRootAuthority cap parentPath)
  require .vfsPermission (available &&& rightMount ≠ 0)
  let parent ← fromOption .vfsNotFound (runtime.vfsNodeByPath parentPath)
  require .vfsNotDirectory (parent.kind = .directory)
  require .vfsExists (runtime.vfsNodeByPath rootPath.bytes = none)
  if flags &&& ObjectTable.vfsMountBind ≠ 0 then vfsMountBindAt cap rootPath flags
  else vfsMountVolatileAt parent.id name rootPath flags

/-- The mount that an unmount of a path is about: a bind mount made there, or the
mount at the directory that the path names. -/
def RuntimeState.mountToRemove (runtime : RuntimeState) (path : Bytes) :
    Except IpcError VfsMountObject :=
  let bound := (runtime.objects.getVfsMountByExactPath path).filter fun mount =>
    mount.dynamic ∧ mount.flags &&& ObjectTable.vfsMountBind ≠ 0
  match bound with
  | some mount => .ok mount
  | none =>
    match runtime.vfsNodeByPath path with
    | none => .error .vfsNotFound
    | some node =>
      if node.kind ≠ .directory then .error .vfsNotDirectory
      else (runtime.objects.getVfsMountByRootNode node.id).elim (.error .vfsUnsupported) .ok

def vfsUnmount (machine : Machine) (capSlot path pathLen : Nat) : KernelCall Unit := do
  require .vfsBadPath (pathLen ≤ maxVfsPathBytes)
  let requested ← copyFromUser machine path pathLen
  let runtime ← get
  let canonical ← fromExcept (runtime.resolveProcessVfsPath requested)
  let cap ← rootCapability capSlot
  let available ← fromExcept (runtime.resolveVfsRootAuthority cap canonical.bytes)
  require .vfsPermission (available &&& rightMount ≠ 0)
  let node := runtime.vfsNodeByPath canonical.bytes
  let mount ← fromExcept (runtime.mountToRemove canonical.bytes)
  require .vfsUnsupported (mount.dynamic = true)
  let bind : Bool := mount.flags &&& ObjectTable.vfsMountBind ≠ 0
  require .vfsBusy (runtime.vfs.vfsSubtreeHasOpenDescription mount.rootNode = false ∧
    (bind = false → node.all (fun node => !runtime.vfs.vfsNodeHasChildren node.id) = true))
  match bind, node with
  | false, some node => updateVfsOr fun vfs => vfs.removeVfsNode node.id
  | _, _ => pure ()
  modify fun runtime => runtime.removeMount mount canonical.bytes

end VertexOS
