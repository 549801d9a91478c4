import VertexOS.VfsTransactions

/-!
# Paths, authority and the nodes behind them

A path is resolved against the mounts of the process and the roots it may use.
-/

namespace VertexOS

open ByteStrings ByteImages FailingCalls SlotTables

def vfsMountVolatile : BitVec 64 := BitVec.twoPow 64 0
def vfsMountReadOnly : BitVec 64 := BitVec.twoPow 64 2

def vfsOpenRead : BitVec 64 := BitVec.twoPow 64 0
def vfsOpenWrite : BitVec 64 := BitVec.twoPow 64 1
def vfsOpenCreate : BitVec 64 := BitVec.twoPow 64 2
def vfsOpenTrunc : BitVec 64 := BitVec.twoPow 64 3
def vfsOpenAppend : BitVec 64 := BitVec.twoPow 64 4

def vertexFsSource : String := "vertexfs"

def validateVfsAbsolutePath (path : Bytes) : Except IpcError Unit :=
  if 2 ≤ path.length ∧ validVfsRootPath path then .ok () else .error .vfsBadPath

def splitVfsParentChild (path : Bytes) : Except IpcError (Bytes × Bytes) := do
  validateVfsAbsolutePath path
  let child := path.rtakeWhile fun byte => byte ≠ slash
  let parent := path.take (path.length - child.length - 1)
  return (if parent = [] then [slash] else parent, child)

def resolveVfsPathUnderRoot (root : VfsPath) (path : Bytes) : Except IpcError VfsPath :=
  if path = [slash] then .ok root
  else do
    validateVfsAbsolutePath path
    if root.bytes = [slash] then VfsPath.fromRootPath path
    else if fits : (root.bytes ++ path).length ≤ maxVfsPathBytes then
      return ⟨root.bytes ++ path, fits⟩
    else .error .vfsBadPath

def vfsFileRightMask : Rights :=
  rightRead ||| rightWrite ||| rightControl ||| rightCreate ||| rightUnlink ||| rightRename |||
    rightMount ||| rightResolve ||| rightExecute ||| rightInspectMetadata

namespace RuntimeState

variable (runtime : RuntimeState)

def resolveProcessVfsPath (path : Bytes) : Except IpcError VfsPath := do
  if path ≠ [slash] then validateVfsAbsolutePath path
  match runtime.processes.currentProcess with
  | none => .error .vfsPermission
  | some process => resolveVfsPathUnderRoot process.mountRoot path

/-- An empty path stands for the root. -/
def resolveRequestPath (path : Bytes) : Except IpcError VfsPath :=
  runtime.resolveProcessVfsPath (if path = [] then [slash] else path)

def vfsPathIsReadOnly (path : Bytes) : Bool :=
  (runtime.objects.getVfsMountByPath path).any fun mount => mount.flags &&& vfsMountReadOnly ≠ 0

def vfsRequestPathIsReadOnly (path : Bytes) : Except IpcError Bool := do
  let canonical ← runtime.resolveRequestPath path
  return runtime.vfsPathIsReadOnly canonical.bytes

def resolveVfsRootAuthority (cap : Capability) (path : Bytes) :
    Except IpcError Rights :=
  match runtime.objects.getVfsRoot cap.object with
  | none => .error .vfsPermission
  | some root =>
    let available := cap.rights &&& vfsFileRightMask
    if vfsAuthorityPathCovers root.rootPath.bytes path = false then .error .vfsPermission
    else if available &&& rightResolve = 0 then .error .vfsPermission
    else .ok available

def vfsNodeForStoreObject (object : KernelObjectId) : Option VfsNode :=
  select (fun node => if node.backing = .storeObject object then some node else none)
    runtime.vfs.nodes

def resolveVfsNodeFromCap (cap : Capability) (path : Bytes) :
    Except IpcError (VfsNode × Rights) :=
  match runtime.vfsNodeForStoreObject cap.object with
  | some node =>
    if path ≠ [] ∧ path ≠ utf8 "." then .error .vfsBadPath
    else .ok (node, cap.rights &&& vfsFileRightMask)
  | none =>
    match runtime.objects.getVfsRoot cap.object with
    | none => .error .vfsPermission
    | some root => do
      let canonical ← runtime.resolveRequestPath path
      if cap.rights &&& rightResolve = 0 ∨
          vfsAuthorityPathCovers root.rootPath.bytes canonical.bytes = false then
        .error .vfsPermission
      else
        match runtime.vfsNodeByPath canonical.bytes with
        | none => .error .vfsNotFound
        | some node =>
          if cap.rights &&& vfsFileRightMask &&& rightResolve = 0 then .error .vfsPermission
          else .ok (node, cap.rights &&& vfsFileRightMask)

def currentProcessHasLiveCapForObject (object : KernelObjectId)
    (requiredRights : Rights) : Bool :=
  runtime.processes.currentProcess.any fun process =>
    (List.finRange maxCaps).any fun slot => (process.caps.caps slot).any fun cap =>
      cap.object = object ∧ Rights.Has cap.rights requiredRights ∧ runtime.CapLive cap

end RuntimeState

def vfsRegularFileOpenRights (flags : BitVec 64) : Except IpcError Rights :=
  let rights := (if flags &&& vfsOpenRead ≠ 0 then rightRead else 0) |||
    (if flags &&& vfsOpenWrite ≠ 0 then rightWrite else 0)
  if rights = 0 then .error .vfsUnsupported else .ok rights

def vfsOpenChanging : BitVec 64 := vfsOpenCreate ||| vfsOpenTrunc ||| vfsOpenAppend

def vfsOpenRights (flags : BitVec 64) (node : VfsNode) : Except IpcError Rights :=
  match node.kind with
  | .directory =>
    if flags &&& (vfsOpenWrite ||| vfsOpenChanging) ≠ 0 then .error .vfsNotFile
    else if flags &&& vfsOpenRead = 0 then .error .vfsUnsupported
    else .ok rightResolve
  | .deviceNode =>
    if flags &&& vfsOpenChanging ≠ 0 then .error .vfsUnsupported
    else if flags &&& (vfsOpenRead ||| vfsOpenWrite) = 0 then .error .vfsUnsupported
    else .ok rightControl
  | _ =>
    match node.backing with
    | .stateVolumeControl _ =>
      if flags ≠ vfsOpenWrite then .error .vfsUnsupported else .ok rightControl
    | _ => vfsRegularFileOpenRights flags

def validateVfsDeviceOpen (runtime : RuntimeState) (flags : BitVec 64) (available : Rights)
    (object : KernelObjectId) : Except IpcError Unit := do
  let pathRights ← vfsRegularFileOpenRights flags
  if ¬Rights.Within pathRights available then .error .vfsPermission
  else if runtime.currentProcessHasLiveCapForObject object rightControl then return ()
  else .error .vfsPermission

def vertexFsDirectoryInodeForNode (node : VfsNode) : Except IpcError Nat :=
  if node.mountSource = vertexFsSource ∧ node.name.bytes = utf8 "app" then
    .ok vertexFsInodeAppDir
  else .error .vfsUnsupported

def newChildName (name : Bytes) : Except IpcError VfsName :=
  (VfsName.fromUserComponent name).mapError fun _ => .vfsBadPath

/-- A new empty file for a directory: of VertexFS there, else in memory. -/
def VfsState.addFileUnder (vfs : VfsState) (name : VfsName) (parent : VfsNode) :
    Except IpcError (VfsBacking × VfsState) :=
  if parent.mountSource = vertexFsSource then do
    let inode ← vertexFsDirectoryInodeForNode parent
    let (index, after) ← vfs.addEmptyVertexFsFile name inode
    return (.vertexFsFile index, after)
  else do
    let (index, after) ← vfs.addVfsEmptyMemoryFile.mapError fun _ => IpcError.vfsNoSpace
    return (.memoryFile index, after)

/-- A new node for a file that was just made; the file goes when there is no room. -/
def addFileNode (name : VfsName) (parent : VfsNode) (backing : VfsBacking) :
    Call IpcError VfsState VfsNode := do
  let vfs ← get
  match vfs.addVfsNodeWithName name (some parent.id) .regularFile backing parent.mountSource with
  | .error _ =>
    set (vfs.releaseBacking backing)
    throw .vfsNoSpace
  | .ok (id, after) =>
    set after
    fromOption .vfsBadHandle (after.vfsNode id)

def onVfs {α : Type} (call : Call IpcError VfsState α) : KernelCall α :=
  onPart RuntimeState.vfs (fun vfs runtime => { runtime with vfs }) call

def vfsCreateMemoryFileNode (cap : Capability) (path : Bytes) (requiredFileRights : Rights) :
    KernelCall (VfsNode × Rights) := do
  let runtime ← get
  let canonical ← fromExcept (runtime.resolveProcessVfsPath path)
  let (parentPath, childName) ← fromExcept (splitVfsParentChild canonical.bytes)
  let name ← fromExcept (newChildName childName)
  let available ← fromExcept (runtime.resolveVfsRootAuthority cap parentPath)
  require .vfsPermission
    (available &&& rightCreate ≠ 0 ∧ Rights.Within requiredFileRights available)
  let parent ← fromOption .vfsNotFound (runtime.vfsNodeByPath parentPath)
  require .vfsNotDirectory (parent.kind = .directory)
  require .vfsExists (runtime.vfsNodeByPath canonical.bytes = none)
  let (backing, vfs) ← fromExcept (runtime.vfs.addFileUnder name parent)
  set { runtime with vfs }
  let node ← onVfs (addFileNode name parent backing)
  return (node, available)

def VfsState.releaseCreatedVfsMemoryNode (vfs : VfsState) (created : Option VfsNode) : VfsState :=
  match created with
  | none => vfs
  | some node =>
    if vfs.vfsNodeHasOpenDescription node.id then vfs
    else
      match node.backing with
      | .memoryFile _ => (vfs.orKeep (vfs.removeVfsNode node.id)).releaseBacking node.backing
      | .vertexFsFile _ => (vfs.orKeep (vfs.removeVfsNode node.id)).releaseBacking node.backing
      | _ => vfs

def decodeFileHandle (raw : Nat) : Except IpcError (Nat × Nat) :=
  let slot := raw % 256
  let generation := raw / 256
  if raw = 0 ∨ slot = 0 ∨ generation = 0 then .error .vfsBadHandle else .ok (slot - 1, generation)

namespace Process

def fileHandle (process : Process) (raw : Nat) :
    Except IpcError (Fin maxFileHandles × FileDescriptionId) := do
  let (index, generation) ← decodeFileHandle raw
  if inside : index < maxFileHandles then
    let slot := process.fileHandles ⟨index, inside⟩
    if slot.generation ≠ generation then .error .vfsBadHandle
    else slot.handle.elim (.error .vfsBadHandle) fun description => .ok (⟨index, inside⟩, description)
  else .error .vfsBadHandle

def setFileHandle (process : Process) (index : Fin maxFileHandles) (slot : FileHandleSlot) :
    Process :=
  { process with fileHandles := Function.update process.fileHandles index slot }

def openFileHandle (process : Process) (description : FileDescriptionId) :
    Except IpcError (Nat × Process) :=
  match (List.finRange maxFileHandles).find? fun index =>
    (process.fileHandles index).handle.isNone with
  | none => .error .vfsNoSpace
  | some index =>
    let generation := (process.fileHandles index).generation + 1
    .ok (generation * 256 + (index + 1),
      process.setFileHandle index ⟨generation, some description⟩)

def closeFileHandle (process : Process) (raw : Nat) :
    Except IpcError (FileDescriptionId × Process) := do
  let (index, description) ← process.fileHandle raw
  return (description,
    process.setFileHandle index { process.fileHandles index with handle := none })

end Process

namespace RuntimeState

def currentOpenFile (runtime : RuntimeState) (handle : Nat) :
    Except IpcError (OpenFileDescription × VfsNode) := do
  let process ← runtime.processes.currentProcess.elim (.error .vfsPermission) .ok
  let (_, id) ← process.fileHandle handle
  let description ← (runtime.vfs.fileDescription id).elim (.error .vfsBadHandle) .ok
  let node ← (runtime.vfs.vfsNode description.node).elim (.error .vfsBadHandle) .ok
  return (description, node)

def blockedVfsPipeReaderIndex (runtime : RuntimeState) : Option Nat :=
  runtime.processes.processes.findIdx? fun process =>
    match process.state with
    | .blockedOnVfsRead node _ _ _ =>
      (runtime.vfs.vfsNode node).any fun node => node.backing = .pipe
    | _ => false

def wakeBlockedVfsPipeRead (runtime : RuntimeState) (machine : Machine) (bytes : Bytes) :
    Bool × RuntimeState :=
  if bytes = [] then (false, runtime)
  else
    match runtime.blockedVfsPipeReaderIndex.bind fun index =>
      runtime.processes.processes[index]?.map fun waiter => (index, waiter) with
    | none => (false, runtime)
    | some (index, waiter) =>
      match waiter.state with
      | .blockedOnVfsRead _ _ destination maxLen =>
        let copied := bytes.take maxLen
        match runtime.copyToUser machine waiter.pid destination copied with
        | some after => (true, after.updateProcesses fun table =>
          table.updateAt index (Process.wakeWith copied.length))
        | none => (true, runtime.updateProcesses fun table =>
          table.updateAt index (Process.wakeWith statusBadBuffer))
      | _ => (false, runtime)

end RuntimeState

def updateVfsOr (change : VfsState → Except IpcError VfsState) : KernelCall Unit := do
  let runtime ← get
  let vfs ← fromExcept (change runtime.vfs)
  set { runtime with vfs }

def vfsWriteNode (machine : Machine) (node : VfsNode) (offset : Nat) (bytes : Bytes) :
    KernelCall (Nat × Nat) := do
  match node.backing with
  | .memoryFile index =>
    require .vfsNoSpace (offset + bytes.length ≤ maxVfsMemFileBytes)
    require .vfsBadHandle (index < (← get).vfs.memFileCount)
    modify fun runtime => runtime.updateVfs fun vfs => { vfs with
      memFiles := Function.update vfs.memFiles index
        { vfs.memFiles index with
          bytes := writeBytes (vfs.memFiles index).bytes offset bytes
          len := max (vfs.memFiles index).len (offset + bytes.length) } }
    updateVfsOr fun vfs => vfs.touchVfsMemoryFileNodes index
    return (bytes.length, offset + bytes.length)
  | .vertexFsFile index =>
    let mountId := (← get).vertexFsPageCacheMountId
    let result ← onVertexFs (writeVertexFsPageCache mountId index offset bytes)
    updateVfsOr fun vfs => vfs.touchVertexFsFileNodes index
    return result
  | .pipe =>
    require .vfsNoSpace (bytes.length ≤ maxVfsPipeBytes)
    let (woken, after) := (← get).wakeBlockedVfsPipeRead machine bytes
    set after
    if woken then return (bytes.length, 0)
    else
      require .vfsBusy (after.vfs.pipe = [])
      modify fun runtime => runtime.updateVfs fun vfs => { vfs with pipe := bytes }
      return (bytes.length, 0)
  | _ => throw .vfsUnsupported

def vfsTruncateNode (node : VfsNode) (len : Nat) : KernelCall Unit := do
  match node.backing with
  | .memoryFile index =>
    require .vfsNoSpace (len ≤ maxVfsMemFileBytes)
    require .vfsBadHandle (index < (← get).vfs.memFileCount)
    modify fun runtime => runtime.updateVfs fun vfs => { vfs with
      memFiles := Function.update vfs.memFiles index { vfs.memFiles index with len } }
    updateVfsOr fun vfs => vfs.touchVfsMemoryFileNodes index
  | .vertexFsFile index =>
    let mountId := (← get).vertexFsPageCacheMountId
    onVertexFs (truncateVertexFsPageCache mountId index len)
    updateVfsOr fun vfs => vfs.touchVertexFsFileNodes index
  | _ => throw .vfsUnsupported

def vfsServiceReportBytes : Bytes := utf8 "servicefs:vertex-state-report\n"

def vfsNodeLen (runtime : RuntimeState) (node : VfsNode) : Except IpcError Nat :=
  match node.backing with
  | .storeObject object =>
    (runtime.objects.getStoreObject object).elim (.error .vfsBadHandle)
      fun store => .ok store.length
  | .memoryFile index =>
    if index < runtime.vfs.memFileCount then .ok (runtime.vfs.memFiles index).len
    else .error .vfsBadHandle
  | .vertexFsFile index =>
    if index < runtime.vfs.vertexfs.fileCount then .ok (runtime.vfs.vertexfs.files index).len
    else .error .vfsBadHandle
  | .synthetic bytes => .ok bytes.length
  | .fsServiceReport => .ok vfsServiceReportBytes.length
  | .pipe => .ok runtime.vfs.pipe.length
  | _ => .ok 0

end VertexOS
