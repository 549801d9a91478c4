import VertexOS.VfsSyscalls

/-!
# The system calls on open files

Reads, seeks, listings, watches and locks of what a handle stands for.
-/

namespace VertexOS

open ByteStrings ByteImages FailingCalls SlotTables

variable (machine : Machine)

def vfsDirentBytes : Nat := 96
def vfsWatchEventBytes : Nat := 96
def vfsDupShareOffset : BitVec 64 := BitVec.twoPow 64 0
def vfsLockShared : BitVec 64 := 1
def vfsLockExclusive : BitVec 64 := 2
def vfsLockRange : BitVec 64 := BitVec.twoPow 64 8
def vfsLockModeMask : BitVec 64 := vfsLockShared ||| vfsLockExclusive

def paddedTo (length : Nat) (bytes : Bytes) : Bytes :=
  (bytes ++ List.replicate length 0).take length

def RuntimeState.currentProcessId (runtime : RuntimeState) : ProcessId :=
  (runtime.processes.currentProcess.map Process.pid).getD .empty

def copyOut (destination : Nat) (bytes : Bytes) : KernelCall Unit := do
  let runtime ← get
  let copied ← fromOption .invalidUserBuffer
    (runtime.copyToUser machine runtime.currentProcessId destination bytes)
  set copied

def requireWritable (destination len : Nat) : KernelCall Unit := do
  require .invalidUserBuffer
    (machine.writable (← get).currentProcessId destination len = true)

/-- Read from bytes at an offset: how many were read, and the offset behind them. -/
def readOut (destination offset maxLen : Nat) (bytes : Bytes) :
    KernelCall (Nat × Nat) := do
  let part := (bytes.drop (min offset bytes.length)).take maxLen
  copyOut machine destination part
  require .vfsUnsupported (offset + part.length < 2 ^ 64)
  return (part.length, offset + part.length)

def readVertexFsOut (index destination offset maxLen : Nat) :
    KernelCall (Nat × Nat) := do
  let runtime ← get
  let fileLen := (runtime.vfs.vertexfs.files index).len
  let copied := machine.writable runtime.currentProcessId destination
    (min (fileLen - min offset fileLen) maxLen)
  let (bytes, next) ← onVertexFs
    (readVertexFsPageCache runtime.vertexFsPageCacheMountId index offset maxLen copied)
  if bytes = [] then return (0, next)
  else
    copyOut machine destination bytes
    return (bytes.length, next)

def vfsReadNode (node : VfsNode) (offset destination maxLen : Nat) :
    KernelCall (Nat × Nat) := do
  let runtime ← get
  match node.backing with
  | .storeObject object =>
    let store ← fromOption .vfsBadHandle (runtime.objects.getStoreObject object)
    let bytes ← fromOption .badCapability (machine.readStore store)
    readOut machine destination offset maxLen bytes
  | .memoryFile index =>
    require .vfsBadHandle (index < runtime.vfs.memFileCount)
    let file := runtime.vfs.memFiles index
    readOut machine destination offset maxLen (readBytes file.bytes 0 file.len)
  | .vertexFsFile index => readVertexFsOut machine index destination offset maxLen
  | .synthetic bytes => readOut machine destination offset maxLen bytes
  | _ => throw .vfsNotFile

def vfsStateValueRead (state : KernelObjectId) (node : VfsNode)
    (description : FileDescriptionId) (offset destination maxLen : Nat) (updateOffset : Bool) :
    KernelCall Unit := do
  if maxLen = 0 then answer 0
  else
    requireWritable machine destination maxLen
    startVfsStateTransaction machine state node description .read offset destination maxLen 0
      updateOffset []

namespace RuntimeState

def blockCurrentOnVfsRead (runtime : RuntimeState) (machine : Machine) (node : VfsNodeId)
    (description : FileDescriptionId) (destination maxLen : Nat) : Bool × RuntimeState :=
  runtime.blockCurrent machine (.blockedOnVfsRead node description destination maxLen)

end RuntimeState

def readPipe (node : VfsNodeId) (description : FileDescriptionId)
    (destination maxLen : Nat) : KernelCall Unit := do
  if maxLen = 0 then answer 0
  else
    requireWritable machine destination maxLen
    let runtime ← get
    if runtime.vfs.pipe = [] then
      let (blocked, after) :=
        runtime.blockCurrentOnVfsRead machine node description destination maxLen
      set after
      require .empty (blocked = true)
    else
      let bytes := runtime.vfs.pipe.take maxLen
      copyOut machine destination bytes
      modify fun runtime => runtime.updateVfs fun vfs => { vfs with pipe := [] }
      answer bytes.length

def setOffset (description : FileDescriptionId) (offset : Nat) : KernelCall Unit := do
  require .vfsBadHandle ((← get).vfs.fileDescription description).isSome
  modify fun runtime => runtime.updateVfs fun vfs =>
    vfs.updateDescription description fun file => { file with offset }

def vfsRead (handle destination maxLen : Nat) : KernelCall Unit := do
  let (description, node) ← fromExcept ((← get).currentOpenFile handle)
  require .vfsPermission (description.rights &&& rightRead ≠ 0)
  match node.backing with
  | .pipe => readPipe machine node.id description.id destination maxLen
  | .stateVolumeValue state =>
    vfsStateValueRead machine state node description.id description.offset destination maxLen
      true
  | .fsServiceReport =>
    startVfsServiceReadTransaction machine node description.id description.offset destination
      maxLen true
  | _ =>
    let (copied, offset) ← vfsReadNode machine node description.offset destination maxLen
    setOffset description.id offset
    answer copied

def vfsPread (handle destination packedLenOffset : Nat) :
    KernelCall Unit := do
  let maxLen := packedLow packedLenOffset
  let offset := packedHigh packedLenOffset
  let (description, node) ← fromExcept ((← get).currentOpenFile handle)
  require .vfsPermission (description.rights &&& rightRead ≠ 0)
  match node.backing with
  | .stateVolumeValue state =>
    vfsStateValueRead machine state node description.id offset destination maxLen false
  | .fsServiceReport =>
    startVfsServiceReadTransaction machine node description.id offset destination maxLen false
  | _ =>
    let (copied, _) ← vfsReadNode machine node offset destination maxLen
    answer copied

/-- Where a seek leads: from the start, from the offset or from the end of the file. -/
def seekTarget (offset whence fileOffset size : Nat) : Except IpcError Nat :=
  let checked (sum : Nat) : Except IpcError Nat :=
    if sum < 2 ^ 64 then .ok sum else .error .vfsUnsupported
  match whence with
  | 0 => .ok offset
  | 1 => checked (fileOffset + offset)
  | 2 => checked (size + offset)
  | _ => .error .vfsUnsupported

def vfsSeek (handle offset whence : Nat) : KernelCall Nat := do
  let runtime ← get
  let (description, node) ← fromExcept (runtime.currentOpenFile handle)
  let size ← fromExcept (vfsNodeLen runtime node)
  let next ← fromExcept (seekTarget offset whence description.offset size)
  require .vfsUnsupported (next ≤ size)
  setOffset description.id next
  return next

def vfsStat (handle destination maxLen : Nat) : KernelCall Unit := do
  require .invalidUserBuffer (vfsStatBytes ≤ maxLen)
  let runtime ← get
  let (description, node) ← fromExcept (runtime.currentOpenFile handle)
  match node.backing with
  | .stateVolumeValue state =>
    requireWritable machine destination vfsStatBytes
    startVfsStateTransaction machine state node description.id .stat 0 destination maxLen 0
      false []
  | _ =>
    let size ← fromExcept (vfsNodeLen runtime node)
    copyOut machine destination (runtime.vfs.vfsStatRecord node size description.rights)
    answer vfsStatBytes

def openDirectory (handle : Nat) : KernelCall (OpenFileDescription × VfsNode) := do
  let (description, node) ← fromExcept ((← get).currentOpenFile handle)
  require .vfsNotDirectory (node.kind = .directory)
  require .vfsPermission (description.rights &&& rightResolve ≠ 0)
  return (description, node)

def vfsDirentRecord (child : VfsNode) : Bytes :=
  paddedTo vfsDirentBytes
    (leBytes 8 (vfsNodeKindValue child.kind) ++ leBytes 8 child.id.raw ++
      leBytes 8 child.name.bytes.length ++ child.name.bytes)

def VfsState.children (vfs : VfsState) (parent : VfsNodeId) : List VfsNode :=
  vfs.nodes.reduceOption.filter fun node => node.parent = some parent

def vfsReaddir (handle destination maxLen : Nat) : KernelCall Nat := do
  require .invalidUserBuffer (vfsDirentBytes ≤ maxLen)
  let (description, node) ← openDirectory handle
  match ((← get).vfs.children node.id)[description.offset]? with
  | none => return 0
  | some child =>
    copyOut machine destination (vfsDirentRecord child)
    setOffset description.id (description.offset + 1)
    return vfsDirentBytes

def vfsEventKindValue : VfsEventKind → Nat
  | .create => 1
  | .rename => 2
  | .unlink => 3

def vfsWatchEventRecord (event : VfsEvent) : Bytes :=
  paddedTo vfsWatchEventBytes
    (leBytes 8 (vfsEventKindValue event.kind) ++ leBytes 8 event.metadataVersion ++
      leBytes 8 event.name.bytes.length ++ event.name.bytes)

/-- The first event of a directory that an open file did not see yet, and its place. -/
def VfsState.nextEvent (vfs : VfsState) (cursor : Nat) (parent : VfsNodeId) :
    Option (Nat × VfsEvent) :=
  let start := min cursor vfs.events.length
  ((vfs.events.drop start).findIdx? fun event => event.parent = parent).bind fun index =>
    vfs.events[start + index]?.map fun event => (start + index, event)

def vfsWatch (handle destination maxLen : Nat) : KernelCall Nat := do
  require .invalidUserBuffer (vfsWatchEventBytes ≤ maxLen)
  let (description, node) ← openDirectory handle
  match (← get).vfs.nextEvent description.watchCursor node.id with
  | none => return 0
  | some (index, event) =>
    copyOut machine destination (vfsWatchEventRecord event)
    require .vfsBadHandle ((← get).vfs.fileDescription description.id).isSome
    modify fun runtime => runtime.updateVfs fun vfs =>
      vfs.updateDescription description.id fun file => { file with watchCursor := index + 1 }
    return vfsWatchEventBytes

namespace VfsState

def retainFileDescription (vfs : VfsState) (id : FileDescriptionId) : Except IpcError VfsState :=
  if (vfs.fileDescription id).isNone then .error .vfsBadHandle
  else .ok (vfs.updateDescription id fun file => { file with refCount := file.refCount + 1 })

def dupDescription (vfs : VfsState) (description : OpenFileDescription) (share : Bool) :
    Except IpcError (FileDescriptionId × VfsState) :=
  if share then do
    let retained ← vfs.retainFileDescription description.id
    return (description.id, retained)
  else do
    let (id, opened) ← vfs.openFileDescription description.node description.rights
      description.flags description.owner description.authorityCapId
    return (id, opened.updateDescription id fun file =>
      { file with offset := description.offset })

end VfsState

def vfsDup (handle : Nat) (flags : BitVec 64) : KernelCall Nat := do
  require .vfsUnsupported (flags &&& ~~~vfsDupShareOffset = 0)
  let runtime ← get
  let process ← fromOption .vfsPermission runtime.processes.currentProcess
  let (_, id) ← fromExcept (process.fileHandle handle)
  let description ← fromOption .vfsBadHandle (runtime.vfs.fileDescription id)
  require .vfsPermission
    (runtime.ledger.capIdRevokedOrHasRevokedAncestor description.authorityCapId = false)
  let (dup, vfs) ← fromExcept
    (runtime.vfs.dupDescription description (flags &&& vfsDupShareOffset ≠ 0))
  match process.openFileHandle dup with
  | .error error =>
    set { runtime with vfs := vfs.orKeep (vfs.releaseFileDescription dup) }
    throw error
  | .ok (raw, opened) =>
    set ({ runtime with vfs }.updateCurrent fun _ => opened)
    return raw

def rangesOverlap (leftStart leftLen rightStart rightLen : Nat) : Bool :=
  let ending (start len : Nat) := min (start + len) (2 ^ 64 - 1)
  leftLen ≠ 0 ∧ rightLen ≠ 0 ∧ leftStart < ending rightStart rightLen ∧
    rightStart < ending leftStart leftLen

namespace VfsLock

def Refuses (lock : VfsLock) (description : OpenFileDescription) (mode : VfsLockMode)
    (start len : Nat) : Prop :=
  lock.description ≠ description.id ∧ lock.node = description.node ∧
    rangesOverlap start len lock.start lock.len ∧ (mode = .exclusive ∨ lock.mode = .exclusive)

instance (lock : VfsLock) (description : OpenFileDescription) (mode : VfsLockMode)
    (start len : Nat) : Decidable (lock.Refuses description mode start len) :=
  inferInstanceAs (Decidable (_ ∧ _))

end VfsLock

namespace VfsState

def acquireVfsLock (vfs : VfsState) (description : OpenFileDescription) (mode : VfsLockMode)
    (start len : Nat) : Except IpcError VfsState :=
  let lock : VfsLock :=
    { node := description.node, owner := description.owner, description := description.id
      mode, start, len }
  if vfs.locks.any (Option.any fun other => other.Refuses description mode start len) then
    .error .vfsBusy
  else if vfs.locks.any (Option.any fun other => other.description = description.id) then
    .ok { vfs with
      locks := updateLast (fun other => other.description = description.id) (fun _ => lock)
        vfs.locks }
  else
    match fillFirst lock vfs.locks with
    | some locks => .ok { vfs with locks }
    | none =>
      if vfs.locks.length < maxVfsLocks then .ok { vfs with locks := vfs.locks ++ [some lock] }
      else .error .vfsNoSpace

end VfsState

def lockRequest (flags : BitVec 64) (packedRange : Nat) :
    Except IpcError (VfsLockMode × Nat × Nat) := do
  let mode ← if flags &&& vfsLockModeMask = vfsLockShared then .ok VfsLockMode.shared
    else if flags &&& vfsLockModeMask = vfsLockExclusive then .ok VfsLockMode.exclusive
    else .error IpcError.vfsUnsupported
  if flags &&& ~~~(vfsLockModeMask ||| vfsLockRange) ≠ 0 then .error .vfsUnsupported
  else if flags &&& vfsLockRange = 0 then return (mode, 0, 2 ^ 64 - 1)
  else if packedHigh packedRange = 0 then .error .vfsUnsupported
  else return (mode, packedLow packedRange, packedHigh packedRange)

def vfsLock (handle : Nat) (flags : BitVec 64) (packedRange : Nat) : KernelCall Unit := do
  let (mode, start, len) ← fromExcept (lockRequest flags packedRange)
  let (description, node) ← fromExcept ((← get).currentOpenFile handle)
  require .vfsNotFile (node.kind = .regularFile)
  require .vfsPermission
    (description.rights &&& (if mode = .shared then rightRead else rightWrite) ≠ 0)
  updateVfsOr fun vfs => vfs.acquireVfsLock description mode start len

def vfsUnlock (handle : Nat) : KernelCall Unit := do
  let (description, _) ← fromExcept ((← get).currentOpenFile handle)
  require .vfsBadHandle
    ((← get).vfs.locks.any (Option.any fun lock => lock.description = description.id) = true)
  modify fun runtime => runtime.updateVfs fun vfs => vfs.releaseVfsLock description.id

end VertexOS
