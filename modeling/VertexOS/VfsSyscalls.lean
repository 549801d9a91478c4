import VertexOS.VfsResolution

/-!
# The system calls of the file system

Opening and closing, writing and truncating, syncing, and the operations on names.
A sync of a VertexFS file returns to its caller only when the block driver has
answered for every sector.
-/

namespace VertexOS

open ByteStrings ByteImages FailingCalls SlotTables

variable (machine : Machine)

def vfsRenameRequestHeaderBytes : Nat := 16
def vfsRenameRequestMaxBytes : Nat := vfsRenameRequestHeaderBytes + maxVfsPathBytes * 2
def maxStateVolumeValueBytes : Nat := 16

def packedLow (packed : Nat) : Nat := packed % 2 ^ 32
def packedHigh (packed : Nat) : Nat := packed / 2 ^ 32

def copyFromUser (source len : Nat) : KernelCall Bytes :=
  fromOption .invalidUserBuffer (machine.readUser source len)

def vfsOpenKnownFlags : BitVec 64 := vfsOpenRead ||| vfsOpenWrite ||| vfsOpenChanging

/-- What an open file of this node may not be asked for. -/
def vfsOpenSupports (flags : BitVec 64) (node : VfsNode) : Bool :=
  match node.backing with
  | .stateVolumeValue _ => flags &&& vfsOpenChanging = 0
  | .stateVolumeControl _ => flags &&& vfsOpenChanging = 0
  | .fsServiceReport => flags &&& (vfsOpenWrite ||| vfsOpenChanging) = 0
  | .memoryFile _ => true
  | .vertexFsFile _ => true
  | _ => flags &&& vfsOpenTrunc = 0

def checkVfsOpen (runtime : RuntimeState) (flags : BitVec 64) (node : VfsNode)
    (available : Rights) : Except IpcError Rights := do
  let requested ← vfsOpenRights flags node
  match node.backing with
  | .device object => validateVfsDeviceOpen runtime flags available object
  | _ => if Rights.Within requested available then pure () else .error .vfsPermission
  if vfsOpenSupports flags node then return requested else .error .vfsUnsupported

def openHandle (node : VfsNodeId) (rights : Rights) (flags : BitVec 64) (authorityCapId : Nat) :
    KernelCall (Nat × FileDescriptionId) := do
  let runtime ← get
  let owner := (runtime.processes.currentProcess.map Process.pid).getD .empty
  let (description, vfs) ← fromExcept
    (runtime.vfs.openFileDescription node rights flags owner authorityCapId)
  let opened ← attempt (fromOption IpcError.vfsPermission runtime.processes.currentProcess >>=
    fun process => fromExcept (process.openFileHandle description))
  match opened with
  | .error error =>
    set { runtime with vfs := vfs.orKeep (vfs.releaseFileDescription description) }
    throw error
  | .ok (handle, process) =>
    set ({ runtime with vfs }.updateCurrent fun _ => process)
    return (handle, description)

def closeHandle (handle : Nat) (description : FileDescriptionId) (runtime : RuntimeState) :
    RuntimeState :=
  (runtime.updateCurrent fun process =>
    ((process.closeFileHandle handle).toOption.map Prod.snd).getD process).updateVfs
    fun vfs => vfs.orKeep (vfs.releaseFileDescription description)

def releaseCreated (created : Option VfsNode) : KernelCall Unit :=
  modify fun runtime => runtime.updateVfs fun vfs => vfs.releaseCreatedVfsMemoryNode created

/-- Empty a file that was opened for that; without success the handle is closed. -/
def truncateOpened (node : VfsNode) (created : Option VfsNode) (handle : Nat)
    (description : FileDescriptionId) : KernelCall Unit := do
  match ← attempt (vfsTruncateNode node 0) with
  | .error error =>
    modify (closeHandle handle description)
    releaseCreated created
    throw error
  | .ok () => pure ()

/-- Open a node; an open that cannot be finished takes a node it created back. -/
def vfsOpenNode (node : VfsNode) (created : Option VfsNode) (available : Rights)
    (flags : BitVec 64) (cap : Capability) : KernelCall Nat := do
  match ← attempt (do
      let requested ← fromExcept (checkVfsOpen (← get) flags node available)
      openHandle node.id requested flags cap.id) with
  | .error error =>
    releaseCreated created
    throw error
  | .ok (handle, description) =>
    if flags &&& vfsOpenTrunc ≠ 0 then truncateOpened node created handle description
    match created, node.parent with
    | some _, some parent =>
      modify fun runtime => runtime.updateVfs fun vfs =>
        vfs.recordVfsEvent parent .create node.name
    | _, _ => pure ()
    return handle

def vfsOpenTarget (cap : Capability) (path : Bytes) (flags : BitVec 64) :
    KernelCall (VfsNode × Option VfsNode × Rights) := do
  match (← get).resolveVfsNodeFromCap cap path with
  | .ok (node, available) => return (node, none, available)
  | .error error =>
    if error = .vfsNotFound ∧ flags &&& vfsOpenCreate ≠ 0 then
      let requested ← fromExcept (vfsRegularFileOpenRights flags)
      let (node, available) ← vfsCreateMemoryFileNode cap path requested
      return (node, some node, available)
    else throw error

def vfsOpen (capSlot path packedLenFlags : Nat) : KernelCall Nat := do
  let pathLen := packedLow packedLenFlags
  let flags := BitVec.ofNat 64 (packedHigh packedLenFlags)
  require .vfsBadPath (pathLen ≤ maxVfsPathBytes)
  require .vfsUnsupported (flags &&& ~~~vfsOpenKnownFlags = 0)
  require .vfsPermission (flags &&& vfsOpenChanging = 0 ∨ flags &&& vfsOpenWrite ≠ 0)
  let path ← copyFromUser machine path pathLen
  let runtime ← get
  let cap ← fromExcept ((runtime.lookupCapability capSlot 0).mapError fun _ => .vfsPermission)
  if flags &&& (vfsOpenWrite ||| vfsOpenChanging) ≠ 0 ∧
      (runtime.objects.getVfsRoot cap.object).isSome then
    let canonical ← fromExcept (runtime.resolveRequestPath path)
    require .vfsPermission (runtime.vfsPathIsReadOnly canonical.bytes = false)
  let (node, created, available) ← vfsOpenTarget cap path flags
  vfsOpenNode node created available flags cap

def vfsClose (handle : Nat) : KernelCall Unit := do
  let runtime ← get
  let process ← fromOption .vfsPermission runtime.processes.currentProcess
  let (description, closed) ← fromExcept (process.closeFileHandle handle)
  set (runtime.updateCurrent fun _ => closed)
  updateVfsOr fun vfs => vfs.releaseFileDescription description

def vfsStateValueWrite (state : KernelObjectId) (node : VfsNode)
    (description : FileDescriptionId) (offset source len : Nat) (updateOffset : Bool) :
    KernelCall Unit := do
  require .vfsUnsupported (offset = 0)
  require .vfsNoSpace (len ≤ maxStateVolumeValueBytes)
  let payload ← copyFromUser machine source len
  startVfsStateTransaction machine state node description .write offset 0 0 len updateOffset
    payload

def vfsStateControlWrite (state : KernelObjectId) (node : VfsNode)
    (description : FileDescriptionId) (offset source len : Nat) (updateOffset : Bool) :
    KernelCall Unit := do
  require .vfsUnsupported (offset = 0 ∧ len = 1)
  let payload ← copyFromUser machine source len
  require .vfsUnsupported (payload = utf8 "Q")
  startVfsStateTransaction machine state node description .control offset 0 0 len updateOffset
    payload

def answer (value : Nat) : KernelCall Unit :=
  modify fun runtime => { runtime with frame := { runtime.frame with rax := value } }

def vfsWrite (handle source len : Nat) : KernelCall Unit := do
  let (description, node) ← fromExcept ((← get).currentOpenFile handle)
  match node.backing with
  | .stateVolumeControl state =>
    require .vfsPermission (description.rights &&& rightControl ≠ 0)
    require .vfsUnsupported (description.flags &&& vfsOpenAppend = 0)
    vfsStateControlWrite machine state node description.id description.offset source len true
  | .stateVolumeValue state =>
    require .vfsPermission (description.rights &&& rightWrite ≠ 0)
    require .vfsUnsupported (description.flags &&& vfsOpenAppend = 0)
    vfsStateValueWrite machine state node description.id description.offset source len true
  | _ =>
    require .vfsPermission (description.rights &&& rightWrite ≠ 0)
    require .vfsNoSpace (len ≤ maxVfsMemFileBytes)
    let bytes ← copyFromUser machine source len
    let offset ←
      if description.flags &&& vfsOpenAppend ≠ 0 then fromExcept (vfsNodeLen (← get) node)
      else pure description.offset
    let (written, newOffset) ← vfsWriteNode machine node offset bytes
    require .vfsBadHandle ((← get).vfs.fileDescription description.id).isSome
    modify fun runtime => runtime.updateVfs fun vfs =>
      vfs.updateDescription description.id fun file => { file with offset := newOffset }
    answer written

def vfsPwrite (handle source packedLenOffset : Nat) : KernelCall Unit := do
  let len := packedLow packedLenOffset
  let offset := packedHigh packedLenOffset
  let (description, node) ← fromExcept ((← get).currentOpenFile handle)
  match node.backing with
  | .stateVolumeControl state =>
    require .vfsPermission (description.rights &&& rightControl ≠ 0)
    vfsStateControlWrite machine state node description.id offset source len false
  | .stateVolumeValue state =>
    require .vfsPermission (description.rights &&& rightWrite ≠ 0)
    vfsStateValueWrite machine state node description.id offset source len false
  | _ =>
    require .vfsPermission (description.rights &&& rightWrite ≠ 0)
    require .vfsNoSpace (len ≤ maxVfsMemFileBytes)
    let bytes ← copyFromUser machine source len
    let (written, _) ← vfsWriteNode machine node offset bytes
    answer written

def vfsSync (handle : Nat) : KernelCall Unit := do
  let (_, node) ← fromExcept ((← get).currentOpenFile handle)
  match node.backing with
  | .vertexFsFile backing =>
    match ← onVertexFs (prepareVertexFsSyncFile backing) with
    | .journaled inodeId checksum writeCount =>
      startVertexFsSyncTransaction machine backing inodeId checksum writeCount
    | .cached _ => answer statusOk
  | .storeObject _ => answer statusOk
  | .stateVolumeValue _ => answer statusOk
  | .memoryFile _ => answer statusOk
  | .synthetic _ => answer statusOk
  | _ => throw .vfsUnsupported

def rootCapability (capSlot : Nat) : KernelCall Capability := do
  fromExcept (((← get).lookupCapability capSlot rightResolve).mapError fun _ => .vfsPermission)

def recordEvent (parent : VfsNodeId) (kind : VfsEventKind) (name : VfsName) : KernelCall Unit :=
  modify fun runtime => runtime.updateVfs fun vfs => vfs.recordVfsEvent parent kind name

def vfsCreate (capSlot path packedLenFlags : Nat) : KernelCall Unit := do
  let pathLen := packedLow packedLenFlags
  require .vfsBadPath (pathLen ≤ maxVfsPathBytes ∧ packedHigh packedLenFlags = 0)
  let path ← copyFromUser machine path pathLen
  let readOnly ← fromExcept ((← get).vfsRequestPathIsReadOnly path)
  require .vfsPermission (readOnly = false)
  let cap ← rootCapability capSlot
  let (node, _) ← vfsCreateMemoryFileNode cap path 0
  match node.parent with
  | some parent => recordEvent parent .create node.name
  | none => pure ()

def touchBacking (backing : VfsBacking) : KernelCall Unit :=
  match backing with
  | .memoryFile index => updateVfsOr fun vfs => vfs.touchVfsMemoryFileNodes index
  | .vertexFsFile index => updateVfsOr fun vfs => vfs.touchVertexFsFileNodes index
  | _ => pure ()

/-- Take a name away from a file; an open node lives on without a name, and a file
without a node is released. -/
def unlinkNode (node : VfsNode) : KernelCall Unit := do
  if (← get).vfs.vfsNodeHasOpenDescription node.id then
    updateVfsOr fun vfs => (vfs.detachVfsNode node.id).map Prod.snd
    touchBacking node.backing
  else
    updateVfsOr fun vfs => vfs.removeVfsNode node.id
    if (← get).vfs.backingInUse node.backing then touchBacking node.backing
    else modify fun runtime => runtime.updateVfs fun vfs => vfs.releaseBacking node.backing

/-- Names of memory files and of VertexFS files can be changed, no others. -/
def VfsBacking.isFile : VfsBacking → Bool
  | .memoryFile _ => true
  | .vertexFsFile _ => true
  | _ => false

def vfsUnlink (capSlot path pathLen : Nat) : KernelCall Unit := do
  require .vfsBadPath (pathLen ≤ maxVfsPathBytes)
  let path ← copyFromUser machine path pathLen
  let runtime ← get
  let canonical ← fromExcept (runtime.resolveProcessVfsPath path)
  require .vfsPermission (runtime.vfsPathIsReadOnly canonical.bytes = false)
  let cap ← rootCapability capSlot
  let available ← fromExcept (runtime.resolveVfsRootAuthority cap canonical.bytes)
  require .vfsPermission (available &&& rightUnlink ≠ 0)
  let node ← fromOption .vfsNotFound (runtime.vfsNodeByPath canonical.bytes)
  require .vfsBusy (runtime.vfs.vfsNodeHasChildren node.id = false)
  require .vfsUnsupported (node.backing.isFile = true)
  unlinkNode node
  match node.parent with
  | some parent => recordEvent parent .unlink node.name
  | none => pure ()

/-- The two paths of a rename or link request, behind a header with their lengths. -/
def twoPathRequest (request requestLen : Nat) : KernelCall (Bytes × Bytes) := do
  require .vfsBadPath
    (vfsRenameRequestHeaderBytes ≤ requestLen ∧ requestLen ≤ vfsRenameRequestMaxBytes)
  let bytes ← copyFromUser machine request requestLen
  let oldLen := (readLe? 8 bytes 0).getD 0
  let newLen := (readLe? 8 bytes 8).getD 0
  require .vfsBadPath (oldLen ≤ maxVfsPathBytes ∧ newLen ≤ maxVfsPathBytes)
  require .vfsBadPath (vfsRenameRequestHeaderBytes + oldLen + newLen = requestLen)
  let paths := bytes.drop vfsRenameRequestHeaderBytes
  return (paths.take oldLen, paths.drop oldLen)

def requireOneMount (oldPath newParentPath : Bytes) : KernelCall Unit := do
  let runtime ← get
  let oldMount ← fromOption .vfsUnsupported (runtime.objects.getVfsMountByPath oldPath)
  let newMount ← fromOption .vfsUnsupported (runtime.objects.getVfsMountByPath newParentPath)
  require .vfsUnsupported (oldMount.id = newMount.id)

def fileNodeAt (path : Bytes) : KernelCall VfsNode := do
  let node ← fromOption .vfsNotFound ((← get).vfsNodeByPath path)
  require .vfsUnsupported (node.backing.isFile = true)
  return node

def vfsRename (capSlot request requestLen : Nat) : KernelCall Unit := do
  let (oldRequested, newRequested) ← twoPathRequest machine request requestLen
  let runtime ← get
  let oldPath ← fromExcept (runtime.resolveProcessVfsPath oldRequested)
  let newPath ← fromExcept (runtime.resolveProcessVfsPath newRequested)
  require .vfsPermission (runtime.vfsPathIsReadOnly oldPath.bytes = false ∧
    runtime.vfsPathIsReadOnly newPath.bytes = false)
  let (oldParentPath, _) ← fromExcept (splitVfsParentChild oldPath.bytes)
  let (newParentPath, childName) ← fromExcept (splitVfsParentChild newPath.bytes)
  let newName ← fromExcept (newChildName childName)
  let cap ← rootCapability capSlot
  let oldAvailable ← fromExcept (runtime.resolveVfsRootAuthority cap oldParentPath)
  let newAvailable ← fromExcept (runtime.resolveVfsRootAuthority cap newParentPath)
  require .vfsPermission (oldAvailable &&& rightRename ≠ 0 ∧ newAvailable &&& rightRename ≠ 0)
  let oldParent ← fromOption .vfsNotFound (runtime.vfsNodeByPath oldParentPath)
  let newParent ← fromOption .vfsNotFound (runtime.vfsNodeByPath newParentPath)
  require .vfsNotDirectory (oldParent.kind = .directory ∧ newParent.kind = .directory)
  let node ← fileNodeAt oldPath.bytes
  requireOneMount oldPath.bytes newParentPath
  require .vfsExists (runtime.vfsNodeByPath newPath.bytes = none)
  updateVfsOr fun vfs => (vfs.renameVfsNode node.id newParent.id newName).map Prod.snd
  match node.backing with
  | .memoryFile _ =>
    if 1 < (← get).vfs.linkCount node.backing then touchBacking node.backing
  | _ => touchBacking node.backing
  recordEvent newParent.id .rename newName

def vfsLink (capSlot request requestLen : Nat) : KernelCall Unit := do
  let (oldRequested, newRequested) ← twoPathRequest machine request requestLen
  let runtime ← get
  let oldPath ← fromExcept (runtime.resolveProcessVfsPath oldRequested)
  let newPath ← fromExcept (runtime.resolveProcessVfsPath newRequested)
  require .vfsPermission (runtime.vfsPathIsReadOnly newPath.bytes = false)
  let (oldParentPath, _) ← fromExcept (splitVfsParentChild oldPath.bytes)
  let (newParentPath, childName) ← fromExcept (splitVfsParentChild newPath.bytes)
  let newName ← fromExcept (newChildName childName)
  let cap ← rootCapability capSlot
  let _ ← fromExcept (runtime.resolveVfsRootAuthority cap oldParentPath)
  let newAvailable ← fromExcept (runtime.resolveVfsRootAuthority cap newParentPath)
  require .vfsPermission (newAvailable &&& rightCreate ≠ 0)
  let node ← fileNodeAt oldPath.bytes
  let newParent ← fromOption .vfsNotFound (runtime.vfsNodeByPath newParentPath)
  require .vfsNotDirectory (newParent.kind = .directory)
  requireOneMount oldPath.bytes newParentPath
  require .vfsExists (runtime.vfsNodeByPath newPath.bytes = none)
  updateVfsOr fun vfs =>
    ((vfs.addVfsNodeWithName newName (some newParent.id) .regularFile node.backing
      node.mountSource).map Prod.snd).mapError fun _ => .vfsNoSpace
  touchBacking node.backing
  recordEvent newParent.id .create newName

def grantCurrent (error : IpcError) (slot : Nat) (cap : Capability) : KernelCall Unit := do
  let runtime ← get
  let process ← fromOption error runtime.processes.currentProcess
  let caps ← fromExcept ((process.caps.grant slot cap).mapError fun _ => error)
  set (runtime.updateCurrent fun process => { process with caps })

def createCapability (object : KernelObjectId) (rights : Rights) (owner : ProcessId)
    (parentCapId : Nat) (delegatedBy : ProcessId) : KernelCall Capability := do
  let (cap, after) ← fromExcept
    ((← get).newCapability object rights owner parentCapId delegatedBy)
  set after
  return cap

def vfsDeriveRoot (capSlot path packedLenTarget : Nat) :
    KernelCall Unit := do
  let pathLen := packedLow packedLenTarget
  let targetSlot := packedHigh packedLenTarget
  require .vfsBadPath (pathLen ≤ maxVfsPathBytes)
  let requested ← copyFromUser machine path pathLen
  let runtime ← get
  let rootPath ← fromExcept (runtime.resolveProcessVfsPath requested)
  let source ← rootCapability capSlot
  let sourceRoot ← fromOption .vfsPermission (runtime.objects.getVfsRoot source.object)
  require .vfsPermission (vfsAuthorityPathCovers sourceRoot.rootPath.bytes rootPath.bytes = true)
  let node ← fromOption .vfsNotFound (runtime.vfsNodeByPath rootPath.bytes)
  require .vfsNotDirectory (node.kind = .directory)
  let process ← fromOption .vfsPermission runtime.processes.currentProcess
  require .vfsBadHandle (process.caps.canGrant targetSlot = true)
  require .vfsNoSpace (runtime.ledger.canAllocateCapability = true)
  let (object, objects) ← fromExcept (runtime.objects.addDerivedVfsRoot rootPath)
  set { runtime with objects }
  let cap ← createCapability object (source.rights &&& vfsFileRightMask) process.pid source.id
    process.pid
  grantCurrent .vfsBadHandle targetSlot cap

end VertexOS
