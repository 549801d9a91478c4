import VertexOS.BootConfig
import VertexOS.CapabilityLedger
import VertexOS.ObjectTable
import VertexOS.VfsNodes

/-!
# The state of the running kernel

Everything the system calls read and change.  What a call takes from outside (the
clock, the user's memory, the loader) comes with a `Machine`.  Counters are natural
numbers: they do not reach the end of 64 bits.
-/

namespace VertexOS

open ByteStrings SlotTables FailingCalls ParentForest

def maxVfsMounts : Nat := 16
def maxServiceLifecycleEvents : Nat := 128

def errorStatus (code : Nat) : Nat := 2 ^ 64 - 1 - code

def statusOk : Nat := 0
def statusBadCapability : Nat := errorStatus 1
def statusBadBuffer : Nat := errorStatus 2
def statusNotExited : Nat := errorStatus 8
def statusTimeout : Nat := errorStatus 9
def statusProcessFault : Nat := errorStatus 10
def statusProcessKilled : Nat := errorStatus 11
def statusVfsBadHandle : Nat := errorStatus 38
def statusVfsUnsupported : Nat := errorStatus 39

def blockDriverProcessName : String := "block-driver"
def generationManagerProcessName : String := "gen-manager"
def vertexStateProcessName : String := "vertex-state"

inductive ServiceLifecycleState where
  | declared
  | starting
  | ready
  | failed
  | restarting
  | exited
deriving DecidableEq, Repr

structure ServiceLifecycleEvent where
  service : String
  state : ServiceLifecycleState
  status : Option Nat
deriving DecidableEq, Repr

structure InstalledObjects where
  endpointIds : List KernelObjectId
  storeObjectIds : List KernelObjectId
  stateVolumeIds : List KernelObjectId
  networkPortIds : List KernelObjectId
  ioPortIds : List KernelObjectId
  mmioRegionIds : List KernelObjectId
  framebufferIds : List KernelObjectId
  interruptLineIds : List KernelObjectId
  dmaRegionIds : List KernelObjectId
  pciDeviceIds : List KernelObjectId
  virtioDeviceIds : List KernelObjectId
  namespaceIds : List KernelObjectId
  vfsRootIds : List KernelObjectId
  timerId : Option KernelObjectId
  processControlId : Option KernelObjectId
  secretId : Option KernelObjectId
  stateVfsRequestEndpoint : Option KernelObjectId
  stateVfsReplyEndpoint : Option KernelObjectId
  vertexfsDeviceRequestEndpoint : Option KernelObjectId
  vertexfsDeviceReplyEndpoint : Option KernelObjectId
  generationMetadataBlockRequestEndpoint : Option KernelObjectId
  generationMetadataBlockReplyEndpoint : Option KernelObjectId

def InstalledObjects.empty : InstalledObjects where
  endpointIds := []
  storeObjectIds := []
  stateVolumeIds := []
  networkPortIds := []
  ioPortIds := []
  mmioRegionIds := []
  framebufferIds := []
  interruptLineIds := []
  dmaRegionIds := []
  pciDeviceIds := []
  virtioDeviceIds := []
  namespaceIds := []
  vfsRootIds := []
  timerId := none
  processControlId := none
  secretId := none
  stateVfsRequestEndpoint := none
  stateVfsReplyEndpoint := none
  vertexfsDeviceRequestEndpoint := none
  vertexfsDeviceReplyEndpoint := none
  generationMetadataBlockRequestEndpoint := none
  generationMetadataBlockReplyEndpoint := none

structure UserCopy where
  pid : ProcessId
  destination : Nat
  bytes : Bytes
deriving DecidableEq

/-- One round of waiting for a deadline: the two readings of the clock that decide
whether to wait on, and the interrupt that ends the round, or the timer's. -/
structure WaitRound where
  now : Tsc
  wake : Tsc
  line : Option Nat
  interrupted : Tsc
deriving DecidableEq

/-- What a call takes from outside the kernel's own state. -/
structure Machine where
  /-- The readings of the time stamp counter, one for each place that takes one. -/
  clock : Nat → Tsc
  ticksPerMs : Nat
  /-- What happens while the processor waits for a deadline. -/
  waits : List WaitRound
  /-- What the running process has in its memory, where the kernel may read it. -/
  readUser : Nat → Nat → Option Bytes
  readUser_length : ∀ address len bytes, readUser address len = some bytes → bytes.length = len
  /-- Whether a process lets the kernel write a range of its memory. -/
  writable : ProcessId → Nat → Nat → Bool
  /-- The bytes of a store object, where their hash is the recorded one. -/
  readStore : StoreObject → Option Bytes
  /-- The address space the loader makes of an image. -/
  loadContext : Nat → Nat → Option ProcessContext
  reclaims : Nat → Bool

/-- A machine whose clock stands still and whose running process holds `bytes` wherever it is
read.  Nothing can be loaded on it. -/
def Machine.holding (bytes : Bytes) : Machine where
  clock := fun _ => 0
  ticksPerMs := 1
  waits := []
  readUser := fun _ len => if bytes.length = len then some bytes else none
  readUser_length := by
    intro _ len _ read
    obtain ⟨sameLength, same⟩ := Option.ite_none_right_eq_some.mp read
    exact Option.some.inj same ▸ sameLength
  writable := fun _ _ _ => true
  readStore := fun _ => none
  loadContext := fun _ _ => none
  reclaims := fun _ => true

structure RuntimeState where
  objects : ObjectTable
  processes : ProcessTable
  generationId : String
  activeConfig : Option BootRuntimeConfig
  ledger : CapabilityLedger
  vfs : VfsState
  installed : InstalledObjects
  vfsMountIds : Slots KernelObjectId
  nextVfsStateTransactionId : UInt64
  processTemplatePids : Nat → Option ProcessId
  serviceLifecycleEvents : List ServiceLifecycleEvent
  frame : SyscallFrame
  userCopies : List UserCopy
  /-- The processes the scheduler switched to, in the order of its trace. -/
  switchLog : List ProcessId

abbrev KernelCall := Call IpcError RuntimeState

namespace RuntimeState

variable (runtime : RuntimeState)

def new : RuntimeState where
  objects := .empty
  processes := .empty
  generationId := ""
  activeConfig := none
  ledger := .empty
  vfs := .empty
  installed := .empty
  vfsMountIds := []
  nextVfsStateTransactionId := 1
  processTemplatePids := fun _ => none
  serviceLifecycleEvents := []
  frame := .empty
  userCopies := []
  switchLog := []

def resetCapabilityLifecycle (config : BootRuntimeConfig) : RuntimeState :=
  { new with generationId := config.generationId, activeConfig := some config }

def recordServiceLifecycle (service : String)
    (state : ServiceLifecycleState) (status : Option Nat) : RuntimeState :=
  let events := runtime.serviceLifecycleEvents
  let kept := if events.length < maxServiceLifecycleEvents then events else events.drop 1
  { runtime with serviceLifecycleEvents := kept ++ [{ service, state, status }] }

def addVfsMount (runtime : RuntimeState) (name : String) (rootNode : VfsNodeId)
    (rootPath : VfsPath) (source : String) (flags : BitVec 64) (dynamic : Bool)
    (owner : ProcessId) : Except InitError (KernelObjectId × RuntimeState) :=
  if runtime.vfsMountIds.all Option.isSome ∧ maxVfsMounts ≤ runtime.vfsMountIds.length then
    .error .objectTableFull
  else do
    let (id, objects) ←
      runtime.objects.addVfsMount name rootNode rootPath source flags dynamic owner
    let vfsMountIds := (fillFirst id runtime.vfsMountIds).getD (runtime.vfsMountIds ++ [some id])
    return (id, { runtime with objects, vfsMountIds })

def removeOwnedBindMounts (owner : ProcessId) (dynamic : Bool) :
    RuntimeState :=
  let wanted := ObjectTable.isBindMountOf owner dynamic
  let removed := runtime.objects.vfsMounts.filter fun mount => wanted (.vfsMount mount)
  { runtime with
    objects := runtime.objects.removeAll wanted
    vfsMountIds := removed.foldl
      (fun ids mount => trimEmptyTail (clearAll (fun id => id = mount.id) ids))
      runtime.vfsMountIds }

def removeOwnedDynamicBindMounts (owner : ProcessId) : RuntimeState :=
  runtime.removeOwnedBindMounts owner true

def removeOwnedDeclaredBindMounts (owner : ProcessId) : RuntimeState :=
  runtime.removeOwnedBindMounts owner false

def vfsNodeByBindMountPath (path : Bytes) : Option VfsNode := do
  let mount ← runtime.objects.getVfsMountByPath path
  if mount.flags &&& ObjectTable.vfsMountBind = 0 then none
  else
    let root ← runtime.vfs.vfsNode mount.rootNode
    runtime.vfs.vfsNodeByPathFrom root (path.drop mount.rootPath.bytes.length)

def vfsNodeByPath (path : Bytes) : Option VfsNode :=
  (runtime.vfsNodeByBindMountPath path).or <|
    if path = [slash] then runtime.vfs.rootNode
    else if path.head? ≠ some slash then none
    else runtime.vfs.rootNode.bind fun root => runtime.vfs.vfsNodeByPathFrom root path

def vertexFsPageCacheMountId : Nat :=
  ((runtime.objects.vfsMounts.find? fun mount => mount.source = "vertexfs").map
    fun mount => mount.id.raw).getD 0

def newCapability (object : KernelObjectId) (rights : Rights)
    (ownerProcess : ProcessId) (parentCapId : Nat) (delegatedBy : ProcessId) :
    Except IpcError (Capability × RuntimeState) := do
  let (id, ledger) ← runtime.ledger.allocate parentCapId
  return ({ id, object, rights, ownerProcess, parentCapId
            generationId := runtime.generationId
            delegatedBy
            revoked := false }, { runtime with ledger })

def rollbackLastCapability (runtime : RuntimeState) (cap : Capability) : RuntimeState :=
  { runtime with ledger := runtime.ledger.rollbackLastCapability cap.id }

def markCapRevoked (processes : ProcessTable) (capId : Nat) : ProcessTable :=
  processes.updateAll fun process => { process with
    caps := process.caps.markRevoked capId
    initialCaps := process.initialCaps.markRevoked capId }

def markAllRevokedCaps : RuntimeState :=
  { runtime with processes := runtime.ledger.revokedCaps.foldl markCapRevoked runtime.processes }

def updateVfs (change : VfsState → VfsState) : RuntimeState :=
  { runtime with vfs := change runtime.vfs }

def updateProcesses (change : ProcessTable → ProcessTable) :
    RuntimeState :=
  { runtime with processes := change runtime.processes }

end RuntimeState

def onLedger {α : Type} (call : Call IpcError CapabilityLedger α) : KernelCall α :=
  onPart RuntimeState.ledger (fun ledger runtime => { runtime with ledger }) call

def onVertexFs {α : Type} (call : VertexFsCall α) : KernelCall α :=
  onPart (fun runtime => runtime.vfs.vertexfs)
    (fun vertexfs runtime => runtime.updateVfs fun vfs => { vfs with vertexfs }) call

def revokeCapId (capId : Nat) : KernelCall Unit := do
  onLedger (revokeDescendants capId)
  modify RuntimeState.markAllRevokedCaps

end VertexOS
