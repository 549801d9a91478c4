import VertexOS.Scheduler

/-!
# Transactions with the file system services

Reads and writes of state volumes go to the state service, and a sync of a
VertexFS file goes to the block driver sector by sector.
-/

namespace VertexOS

open ByteStrings ByteImages FailingCalls

def blockProtocolV1 : Nat := 1
def blockOpWriteSector : Nat := 2
def blockRequestLen : Nat := 16
def blockWriteAckLen : Nat := 16
def vertexDiskVertexFsImageSector : Nat := 49209
def vfsStatBytes : Nat := 64
def vfsStateTransactionIdBytes : Nat := 8
def vfsStateRequestHeaderBytes : Nat := 8
def vfsStateRequestVersion : UInt8 := 1
def vfsServiceRequestVersion : UInt8 := 2
def vfsServiceSourceServicefs : UInt8 := 7

def vertexFsDeviceAbsoluteSector (sector : Nat) : Except IpcError Nat :=
  if sector < vertexFsSectors then .ok (vertexDiskVertexFsImageSector + sector)
  else .error .vfsUnsupported

def vfsNodeKindValue : VfsNodeKind → Nat
  | .regularFile => 1
  | .directory => 2
  | .deviceNode => 3
  | .pipe => 4
  | .syntheticNode => 5

def vfsStateOperationCode : VfsStateOperation → UInt8
  | .read => 82
  | .stat => 83
  | .write => 87
  | .control => 67
  | .serviceRead => 82

namespace VfsState

/-- The lowest node of a file without an inode, which then names the file. -/
def lowestNodeBackedBy (vfs : VfsState) (backing : VfsBacking) (fallback : VfsNodeId) : Nat :=
  ((vfs.nodes.filterMap fun slot =>
    slot.bind fun node => if node.backing = backing then some (node.id.raw : Nat) else none).min?).getD
    fallback.raw

def vfsNodeStatIdentity (vfs : VfsState) (node : VfsNode) : Nat :=
  match node.backing with
  | .memoryFile _ => vfs.lowestNodeBackedBy node.backing node.id
  | .vertexFsFile backing =>
    if backing < maxVertexFsFiles ∧ (vfs.vertexfs.files backing).inodeId ≠ 0 then
      (vfs.vertexfs.files backing).inodeId
    else vfs.lowestNodeBackedBy node.backing node.id
  | _ => node.id.raw

def vfsNodeLinkCount (vfs : VfsState) (node : VfsNode) : Nat :=
  match node.backing with
  | .memoryFile _ => vfs.linkCount node.backing
  | .vertexFsFile _ => vfs.linkCount node.backing
  | _ => 1

def vfsStatRecord (vfs : VfsState) (node : VfsNode) (size : Nat) (rights : Rights) : Bytes :=
  leBytes 8 (vfsNodeKindValue node.kind) ++ leBytes 8 size ++
    leBytes 8 (vfs.vfsNodeStatIdentity node) ++ leBytes 8 rights.toNat ++
    leBytes 8 node.metadataVersion ++ leBytes 8 (vfs.vfsNodeLinkCount node) ++
    leBytes 8 0 ++ leBytes 8 0

end VfsState

def enqueueAt (endpoint : KernelObjectId) (sender : ProcessId) (bytes : Bytes) :
    KernelCall Unit := do
  let runtime ← get
  let object ← fromOption .badCapability (runtime.objects.getEndpoint endpoint)
  let queue ← fromExcept (object.queue.enqueue sender bytes)
  set { runtime with objects := runtime.objects.setEndpointQueue endpoint queue }

namespace RuntimeState

def updateQueue (runtime : RuntimeState) (endpoint : KernelObjectId)
    (change : MessageQueue → MessageQueue) : RuntimeState :=
  match runtime.objects.getEndpoint endpoint with
  | none => runtime
  | some object =>
    { runtime with
      objects := runtime.objects.setEndpointQueue endpoint (change object.queue) }

def restoreCurrentVfsStateWaiter (runtime : RuntimeState) (replyEndpoint : KernelObjectId) :
    RuntimeState :=
  runtime.updateCurrent fun process =>
    match process.state with
    | .blockedOnVfsState waiting _ _ _ _ _ _ _ _ _ =>
      if waiting = replyEndpoint then { process with state := .running } else process
    | _ => process

def restoreCurrentVertexFsSyncWaiter (runtime : RuntimeState) (replyEndpoint : KernelObjectId) :
    RuntimeState :=
  runtime.updateCurrent fun process =>
    match process.state with
    | .blockedOnVertexFsSync _ waiting _ _ _ _ _ _ =>
      if waiting = replyEndpoint then { process with state := .running } else process
    | _ => process

end RuntimeState

def vfsStateRequest (transactionId : Nat) (operation : VfsStateOperation) (name payload : Bytes) :
    Bytes :=
  leBytes 8 transactionId ++ utf8 "VS" ++
    [vfsStateRequestVersion, vfsStateOperationCode operation] ++ leBytes 2 name.length ++
    leBytes 2 payload.length ++ name ++ payload

def vfsServiceRequest (transactionId node description : Nat) : Bytes :=
  leBytes 8 transactionId ++ utf8 "FS" ++
    [vfsServiceRequestVersion, vfsStateOperationCode .serviceRead,
      vfsServiceSourceServicefs, 0, 0, 0] ++
    leBytes 8 node ++ leBytes 8 description

def sendVfsStateRequest (machine : Machine) (requestEndpoint replyEndpoint : KernelObjectId)
    (transactionId : Nat) (request : Bytes) : KernelCall Unit := do
  -- without the endpoint the process stays blocked, as it does in the kernel
  let _ ← fromOption .badCapability ((← get).objects.getEndpoint requestEndpoint)
  match ← attempt (enqueueAt requestEndpoint .empty request) with
  | .error error =>
    modify fun runtime => runtime.restoreCurrentVfsStateWaiter replyEndpoint
    throw error
  | .ok () =>
    modify fun runtime => runtime.wakeBlockedReceiver machine requestEndpoint
    let (switched, after) := (← get).scheduleNextReady machine
    set after
    if switched then return ()
    else
      modify fun runtime =>
        (runtime.restoreCurrentVfsStateWaiter replyEndpoint).updateQueue requestEndpoint
          fun queue => queue.removeTransactionFromSender .empty transactionId
      throw .empty

def nextVfsStateTransaction : KernelCall Nat := do
  let runtime ← get
  let id := runtime.nextVfsStateTransactionId
  require .vfsNoSpace (id ≠ 0 ∧ id ≠ UInt64.ofNat (2 ^ 64 - 1))
  set { runtime with nextVfsStateTransactionId := id + 1 }
  return id.toNat

def startVfsStateTransaction (machine : Machine) (state : KernelObjectId) (node : VfsNode)
    (description : FileDescriptionId) (operation : VfsStateOperation)
    (offset destination maxLen writeLen : Nat) (updateOffset : Bool) (payload : Bytes) :
    KernelCall Unit := do
  let runtime ← get
  let volume ← fromOption .vfsBadHandle (runtime.objects.getStateVolume state)
  let requestEndpoint ← fromOption .vfsUnsupported runtime.installed.stateVfsRequestEndpoint
  let replyEndpoint ← fromOption .vfsUnsupported runtime.installed.stateVfsReplyEndpoint
  let name := utf8 volume.name
  require .vfsNoSpace
    (vfsStateTransactionIdBytes + vfsStateRequestHeaderBytes + name.length + payload.length ≤
      maxMessageBytes)
  let transactionId ← nextVfsStateTransaction
  require .vfsPermission (← get).processes.currentProcess.isSome
  modify fun runtime => runtime.updateCurrent (Process.suspend runtime.frame
    (.blockedOnVfsState replyEndpoint node.id description operation transactionId offset
      destination maxLen writeLen updateOffset))
  sendVfsStateRequest machine requestEndpoint replyEndpoint transactionId
    (vfsStateRequest transactionId operation name payload)

def startVfsServiceReadTransaction (machine : Machine) (node : VfsNode)
    (description : FileDescriptionId) (offset destination maxLen : Nat) (updateOffset : Bool) :
    KernelCall Unit := do
  let runtime ← get
  let requestEndpoint ← fromOption .vfsUnsupported runtime.installed.stateVfsRequestEndpoint
  let replyEndpoint ← fromOption .vfsUnsupported runtime.installed.stateVfsReplyEndpoint
  let transactionId ← nextVfsStateTransaction
  require .vfsPermission (← get).processes.currentProcess.isSome
  modify fun runtime => runtime.updateCurrent (Process.suspend runtime.frame
    (.blockedOnVfsState replyEndpoint node.id description .serviceRead transactionId offset
      destination maxLen 0 updateOffset))
  sendVfsStateRequest machine requestEndpoint replyEndpoint transactionId
    (vfsServiceRequest transactionId node.id.raw description.raw)

/-- The header of a sector write, as the block driver reads it. -/
def blockWriteRequest (absoluteSector : Nat) : Bytes :=
  leBytes 2 blockProtocolV1 ++ leBytes 2 blockOpWriteSector ++ leBytes 2 0 ++ leBytes 2 0 ++
    leBytes 8 absoluteSector

def queueVertexFsDeviceWrite (requestEndpoint : KernelObjectId) (writeIndex : Nat) :
    KernelCall Nat := do
  let vertexfs := (← get).vfs.vertexfs
  require .vfsBadHandle (writeIndex < vertexfs.syncWriteCount)
  let write := vertexfs.syncWrites writeIndex
  let absoluteSector ← fromExcept (vertexFsDeviceAbsoluteSector write.sector)
  enqueueAt requestEndpoint .empty (blockWriteRequest absoluteSector)
  match ← attempt (enqueueAt requestEndpoint .empty write.bytes) with
  | .ok () => return absoluteSector
  | .error error =>
    modify fun runtime => runtime.updateQueue requestEndpoint
      fun queue => queue.removeAllFromSender .empty
    throw error

namespace RuntimeState

def blockedVertexFsSyncWaiterIndex (runtime : RuntimeState) (endpoint : KernelObjectId) :
    Option Nat :=
  runtime.processes.processes.findIdx? fun process =>
    match process.state with
    | .blockedOnVertexFsSync _ replyEndpoint _ _ _ _ _ _ =>
      replyEndpoint = endpoint ∧
        (runtime.objects.getEndpoint endpoint).any fun object => object.hasMessageFor process.pid
    | _ => false

end RuntimeState

def startVertexFsSyncTransaction (machine : Machine) (backing inodeId checksum writeCount : Nat) :
    KernelCall Unit := do
  require .vfsUnsupported (writeCount ≠ 0 ∧ writeCount ≤ vertexFsSyncMaxDeviceWrites)
  let runtime ← get
  let requestEndpoint ← fromOption .vfsUnsupported runtime.installed.vertexfsDeviceRequestEndpoint
  let replyEndpoint ← fromOption .vfsUnsupported runtime.installed.vertexfsDeviceReplyEndpoint
  require .vfsBusy (runtime.blockedVertexFsSyncWaiterIndex replyEndpoint = none)
  let firstSector ← fromExcept
    (vertexFsDeviceAbsoluteSector (runtime.vfs.vertexfs.syncWrites 0).sector)
  require .vfsPermission runtime.processes.currentProcess.isSome
  set (runtime.updateCurrent (Process.suspend runtime.frame
    (.blockedOnVertexFsSync requestEndpoint replyEndpoint backing inodeId checksum writeCount 1
      firstSector)))
  match ← attempt (queueVertexFsDeviceWrite requestEndpoint 0) with
  | .error error =>
    modify fun runtime => runtime.restoreCurrentVertexFsSyncWaiter replyEndpoint
    throw error
  | .ok _ =>
    modify fun runtime => runtime.wakeBlockedReceiver machine requestEndpoint
    let (switched, after) := (← get).scheduleNextReady machine
    set after
    if switched then return ()
    else
      modify fun runtime =>
        (runtime.restoreCurrentVertexFsSyncWaiter replyEndpoint).updateQueue requestEndpoint
          fun queue => queue.removeAllFromSender .empty
      throw .empty

def vertexFsDeviceAckOk (message : IpcMessage) (expectedSector : Nat) : Bool :=
  message.bytes.length = blockWriteAckLen ∧ readLe? 2 message.bytes 0 = some blockProtocolV1 ∧
    readLe? 2 message.bytes 2 = some blockOpWriteSector ∧ readLe? 2 message.bytes 4 = some 0 ∧
    readLe? 8 message.bytes 8 = some expectedSector

namespace RuntimeState

variable (runtime : RuntimeState) (machine : Machine)

def updateVertexFs (change : VertexFsState → VertexFsState) :
    RuntimeState :=
  runtime.updateVfs fun vfs => { vfs with vertexfs := change vfs.vertexfs }

/-- End the sync of a waiting process with an error; its file stays dirty. -/
def failVertexFsSync (index backing status : Nat) : RuntimeState :=
  (runtime.updateVertexFs fun fs =>
    fs.recordVertexFsPageCacheWritebackError backing).updateProcesses fun table =>
      table.updateAt index (Process.wakeWith status)

def advanceVertexFsSync (nextWrite nextSector : Nat) (process : Process) : Process :=
  match process.state with
  | .blockedOnVertexFsSync requestEndpoint replyEndpoint backing inodeId checksum writeCount _ _ =>
    { process with
      state := .blockedOnVertexFsSync requestEndpoint replyEndpoint backing inodeId checksum
        writeCount (nextWrite + 1) nextSector }
  | _ => process

/-- An acknowledged sector of a sync: the next one is queued, or the sync is over. -/
def continueVertexFsSync (index : Nat)
    (requestEndpoint : KernelObjectId) (backing checksum writeCount nextWrite : Nat) :
    RuntimeState :=
  if nextWrite < writeCount then
    match exec (queueVertexFsDeviceWrite requestEndpoint nextWrite) runtime with
    | (.error _, after) => after.failVertexFsSync index backing statusVfsUnsupported
    | (.ok nextSector, after) =>
      (after.updateProcesses fun table =>
        table.updateAt index (advanceVertexFsSync nextWrite nextSector)).wakeBlockedReceiver
          machine requestEndpoint
  else
    match exec (onVertexFs (finishVertexFsSyncFile backing checksum)) runtime with
    | (outcome, after) =>
      after.updateProcesses fun table => table.updateAt index
        (Process.wakeWith (if outcome.isOk then statusOk else statusVfsBadHandle))

def wakeBlockedVertexFsSyncReply
    (endpoint : KernelObjectId) : RuntimeState :=
  match (runtime.blockedVertexFsSyncWaiterIndex endpoint).bind fun index =>
    runtime.processes.processes[index]?.map fun waiter => (index, waiter) with
  | none => runtime
  | some (index, waiter) =>
    match waiter.state with
    | .blockedOnVertexFsSync requestEndpoint _ backing _ checksum writeCount nextWrite
        expectedSector =>
        match runtime.dequeueAt endpoint fun queue => queue.dequeueFor waiter.pid with
        | none => runtime
        | some (message, after) =>
          if vertexFsDeviceAckOk message expectedSector then
            after.continueVertexFsSync machine index requestEndpoint backing checksum
              writeCount nextWrite
          else after.failVertexFsSync index backing statusVfsUnsupported
    | _ => runtime

def abortVertexFsSyncTransactions (status : Nat) : RuntimeState :=
  let cleared := runtime.installed.vertexfsDeviceRequestEndpoint.elim runtime fun endpoint =>
    runtime.updateQueue endpoint fun queue => queue.removeAllFromSender .empty
  match runtime.installed.vertexfsDeviceReplyEndpoint with
  | none => cleared
  | some replyEndpoint =>
    (List.range cleared.processes.processes.length).foldl
      (fun state index =>
        match (state.processes.processes[index]?).map Process.state with
        | some (.blockedOnVertexFsSync _ waiting backing _ _ _ _ _) =>
          if waiting = replyEndpoint then state.failVertexFsSync index backing status
          else state
        | _ => state)
      cleared

def abortVfsStateTransactions (status : Nat) : RuntimeState :=
  let cleared := runtime.installed.stateVfsRequestEndpoint.elim runtime fun endpoint =>
    runtime.updateQueue endpoint fun queue => queue.removeAllFromSender .empty
  match runtime.installed.stateVfsReplyEndpoint with
  | none => cleared
  | some replyEndpoint =>
    cleared.updateProcesses fun table => table.updateAll fun process =>
      match process.state with
      | .blockedOnVfsState waiting _ _ _ _ _ _ _ _ _ =>
        if waiting = replyEndpoint then process.wakeWith status else process
      | _ => process

def blockedVfsStateWaiterIndex (endpoint : KernelObjectId) :
    Option Nat :=
  runtime.processes.processes.findIdx? fun process =>
    match process.state with
    | .blockedOnVfsState replyEndpoint _ _ _ transactionId _ _ _ _ _ =>
      replyEndpoint = endpoint ∧
        (runtime.objects.getEndpoint endpoint).any fun object =>
          object.queue.hasTransactionReplyFor process.pid transactionId
    | _ => false

def advanceOffset (description : FileDescriptionId)
    (updateOffset : Bool) (offset count : Nat) : Except Nat RuntimeState :=
  if updateOffset = false then .ok runtime
  else if 2 ^ 64 ≤ offset + count then .error statusVfsUnsupported
  else if (runtime.vfs.fileDescription description).isNone then .error statusVfsBadHandle
  else .ok (runtime.updateVfs fun vfs =>
    vfs.updateDescription description fun file => { file with offset := offset + count })

def wakeBlockedVfsStateRead (pid : ProcessId)
    (destination maxLen offset : Nat) (description : FileDescriptionId) (updateOffset : Bool)
    (message : IpcMessage) : Nat × RuntimeState :=
  if message.bytes.length < vfsStateTransactionIdBytes then (statusVfsUnsupported, runtime)
  else
    let payload := message.bytes.drop vfsStateTransactionIdBytes
    let bytes := (payload.drop (min offset payload.length)).take maxLen
    match runtime.copyToUser machine pid destination bytes with
    | none => (statusBadBuffer, runtime)
    | some copied =>
      match copied.advanceOffset description updateOffset offset bytes.length with
      | .error status => (status, copied)
      | .ok after => (bytes.length, after)

def wakeBlockedVfsStateStat (pid : ProcessId)
    (destination maxLen : Nat) (description : FileDescriptionId) (nodeId : VfsNodeId)
    (message : IpcMessage) : Nat × RuntimeState :=
  if maxLen < vfsStatBytes ∨ message.bytes.length ≠ vfsStateTransactionIdBytes + 8 then
    (statusVfsUnsupported, runtime)
  else
    match runtime.vfs.vfsNode nodeId, runtime.vfs.fileDescription description with
    | some node, some file =>
      let size := (readLe? 8 message.bytes vfsStateTransactionIdBytes).getD 0
      match runtime.copyToUser machine pid destination
        (runtime.vfs.vfsStatRecord node size file.rights) with
      | none => (statusBadBuffer, runtime)
      | some copied => (vfsStatBytes, copied)
    | _, _ => (statusVfsBadHandle, runtime)

def wakeBlockedVfsStateWrite (offset : Nat)
    (description : FileDescriptionId) (updateOffset : Bool) (writeLen : Nat)
    (message : IpcMessage) : Nat × RuntimeState :=
  if message.bytes.length ≠ vfsStateTransactionIdBytes + 2 ∨
      message.bytes.drop vfsStateTransactionIdBytes ≠ utf8 "OK" then
    (statusVfsUnsupported, runtime)
  else
    match runtime.advanceOffset description updateOffset offset writeLen with
    | .error status => (status, runtime)
    | .ok after => (writeLen, after)

def wakeBlockedVfsStateReply
    (endpoint : KernelObjectId) : RuntimeState :=
  match (runtime.blockedVfsStateWaiterIndex endpoint).bind fun index =>
    runtime.processes.processes[index]?.map fun waiter => (index, waiter) with
  | none => runtime
  | some (index, waiter) =>
    match waiter.state with
    | .blockedOnVfsState _ node description operation transactionId offset destination maxLen
        writeLen updateOffset =>
        match runtime.dequeueAt endpoint fun queue =>
          queue.dequeueTransactionReplyFor waiter.pid transactionId with
        | none => runtime
        | some (message, taken) =>
          let (status, after) :=
            match operation with
            | .read | .serviceRead =>
              taken.wakeBlockedVfsStateRead machine waiter.pid destination maxLen offset
                description updateOffset message
            | .stat =>
              taken.wakeBlockedVfsStateStat machine waiter.pid destination maxLen
                description node message
            | .write | .control =>
              taken.wakeBlockedVfsStateWrite offset description updateOffset writeLen message
          after.updateProcesses fun table => table.updateAt index (Process.wakeWith status)
    | _ => runtime

end RuntimeState

end VertexOS
