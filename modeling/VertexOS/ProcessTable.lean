import VertexOS.KernelObjects
import VertexOS.SlotTables

/-!
# Capability spaces and the process table

Processes with their slots of capabilities and their states.
-/

namespace VertexOS

open ByteStrings SlotTables

def maxProcesses : Nat := 16

def maxCaps : Nat := 32

def maxFileHandles : Nat := 16

abbrev Tsc := BitVec 64

structure FileDescriptionId where
  raw : ℕ+
deriving DecidableEq, Repr

inductive VfsStateOperation where
  | read
  | stat
  | write
  | control
  | serviceRead
deriving DecidableEq, Repr

inductive ProcessState where
  | empty
  | declared
  | ready
  | running
  | blockedOnEndpoint (endpoint : KernelObjectId) (capId : Nat) (destination : Nat)
      (maxLen : Nat) (timeoutTsc : Option Tsc)
  | blockedOnInterrupt (interrupt : KernelObjectId) (timeoutTsc : Option Tsc)
  | blockedOnVfsRead (node : VfsNodeId) (description : FileDescriptionId)
      (destination : Nat) (maxLen : Nat)
  | blockedOnVfsState (replyEndpoint : KernelObjectId) (node : VfsNodeId)
      (description : FileDescriptionId) (operation : VfsStateOperation)
      (transactionId : Nat) (offset : Nat) (destination : Nat) (maxLen : Nat)
      (writeLen : Nat) (updateOffset : Bool)
  | blockedOnVertexFsSync (requestEndpoint replyEndpoint : KernelObjectId) (backing : Nat)
      (inodeId : Nat) (checksum : Nat) (writeCount : Nat) (nextWrite : Nat)
      (expectedSector : Nat)
  | blockedOnNetworkPort (port : KernelObjectId) (destination : Nat) (maxLen : Nat)
  | sleeping (wakeTsc : Tsc)
  | exited
deriving DecidableEq

structure Capability where
  id : Nat
  object : KernelObjectId
  rights : Rights
  ownerProcess : ProcessId
  parentCapId : Nat
  generationId : String
  delegatedBy : ProcessId
  revoked : Bool
deriving DecidableEq

abbrev CapSlot := Fin maxCaps

structure CapabilitySpace where
  caps : CapSlot → Option Capability

namespace CapabilitySpace

variable (space : CapabilitySpace)

def new : CapabilitySpace := ⟨fun _ => none⟩

def lookup (slot : Nat) : Option Capability :=
  if inside : slot < maxCaps then space.caps ⟨slot, inside⟩ else none

def canGrant (slot : Nat) : Bool :=
  slot < maxCaps ∧ space.lookup slot = none

def grant (slot : Nat) (cap : Capability) :
    Except InitError CapabilitySpace :=
  if inside : slot < maxCaps then
    if (space.caps ⟨slot, inside⟩).isSome then .error .invalidBootManifest
    else .ok ⟨Function.update space.caps ⟨slot, inside⟩ (some cap)⟩
  else .error .capabilityTableFull

def clear (slot : Nat) :
    Except IpcError (Capability × CapabilitySpace) :=
  if inside : slot < maxCaps then
    match space.caps ⟨slot, inside⟩ with
    | some cap => .ok (cap, ⟨Function.update space.caps ⟨slot, inside⟩ none⟩)
    | none => .error .badCapability
  else .error .badCapability

def markRevoked (capId : Nat) : CapabilitySpace :=
  ⟨fun slot => (space.caps slot).map fun cap =>
    if cap.id = capId then { cap with revoked := true } else cap⟩

end CapabilitySpace

structure ProcessQuota where
  maxCaps : Nat
  maxEndpoints : Nat
  maxMemoryPages : Nat
  maxChildProcesses : Nat
  maxIpcBytes : Nat
  usedEndpoints : Nat
deriving DecidableEq

namespace ProcessQuota

def initial : ProcessQuota where
  maxCaps := VertexOS.maxCaps
  maxEndpoints := 1
  maxMemoryPages := 0
  maxChildProcesses := maxProcesses
  maxIpcBytes := maxMessageBytes
  usedEndpoints := 0

def service : ProcessQuota where
  maxCaps := VertexOS.maxCaps
  maxEndpoints := 0
  maxMemoryPages := 0
  maxChildProcesses := 0
  maxIpcBytes := maxMessageBytes
  usedEndpoints := 0

end ProcessQuota

structure ProcessContext where
  cr3 : Nat
  entry : Nat
  stackTop : Nat
deriving DecidableEq

structure SyscallFrame where
  rax : Nat
  userRip : Nat
  userRsp : Nat
deriving DecidableEq

namespace SyscallFrame

def empty : SyscallFrame := ⟨0, 0, 0⟩

def fromContext (context : ProcessContext) : SyscallFrame :=
  { empty with userRip := context.entry, userRsp := context.stackTop }

end SyscallFrame

structure FileHandleSlot where
  generation : Nat
  handle : Option FileDescriptionId
deriving DecidableEq

structure Process where
  pid : ProcessId
  name : String
  context : ProcessContext
  imageBase : Nat
  imageLength : Nat
  contextReaped : Bool
  state : ProcessState
  caps : CapabilitySpace
  initialCaps : CapabilitySpace
  savedFrame : SyscallFrame
  hasSavedFrame : Bool
  exitStatus : Nat
  hasExited : Bool
  startCount : Nat
  quota : ProcessQuota
  initialQuota : ProcessQuota
  mountRoot : VfsPath
  fileHandles : Fin maxFileHandles → FileHandleSlot

namespace Process

def new (pid : ProcessId) (name : String) (context : ProcessContext)
    (imageBase imageLength : Nat) (state : ProcessState) (caps : CapabilitySpace)
    (mountRoot : VfsPath) : Process :=
  let initial : Bool := state = .running
  let quota := if initial then ProcessQuota.initial else .service
  { pid, name, context, imageBase, imageLength
    contextReaped := false
    state, caps
    initialCaps := caps
    savedFrame := .empty
    hasSavedFrame := false
    exitStatus := 0
    hasExited := false
    startCount := if initial then 1 else 0
    quota
    initialQuota := quota
    mountRoot
    fileHandles := fun _ => ⟨0, none⟩ }

def clearFileHandles (process : Process) : Process :=
  { process with fileHandles := fun slot => { process.fileHandles slot with handle := none } }

end Process

structure ProcessTable where
  processes : List Process
  current : Option ProcessId
  nextId : Nat

namespace ProcessTable

variable (table : ProcessTable)

def empty : ProcessTable := ⟨[], none, 1⟩

def addProcess (name : String) (context : ProcessContext)
    (imageBase imageLength : Nat) (state : ProcessState) (caps : CapabilitySpace)
    (mountRoot : VfsPath) : Except InitError (ProcessId × ProcessTable) :=
  if table.processes.length = maxProcesses then .error .processTableFull
  else
    let pid : ProcessId := ⟨table.nextId⟩
    .ok (pid, { table with
      nextId := table.nextId + 1
      processes := table.processes ++
        [.new pid name context imageBase imageLength state caps mountRoot] })

def removeLastProcess (pid : ProcessId) : Except InitError ProcessTable :=
  match table.processes.getLast? with
  | none => .error .invalidBootManifest
  | some process =>
    if process.pid = pid then
      .ok { table with
        processes := table.processes.dropLast
        nextId := if table.nextId = pid.raw + 1 then pid.raw else table.nextId }
    else .error .invalidBootManifest

def removeProcess (pid : ProcessId) : Except InitError ProcessTable :=
  if (table.processes.any fun process => process.pid = pid) = false then
    .error .invalidBootManifest
  else if table.current = some pid then .error .invalidBootManifest
  else .ok { table with processes := table.processes.eraseP fun process => process.pid = pid }

def process (table : ProcessTable) (pid : ProcessId) : Option Process :=
  table.processes.find? fun process => process.pid = pid

def currentProcess : Option Process :=
  table.current.bind table.process

def update (pid : ProcessId) (change : Process → Process) :
    ProcessTable :=
  { table with
    processes := changeFirst (fun process => process.pid = pid) change table.processes }

def updateAt (index : Nat) (change : Process → Process) : ProcessTable :=
  { table with processes := table.processes.modify index change }

def updateCurrent (change : Process → Process) : ProcessTable :=
  table.current.elim table fun pid => table.update pid change

def updateAll (change : Process → Process) : ProcessTable :=
  { table with processes := table.processes.map change }

def currentIndex : Option Nat :=
  table.current.bind fun pid => table.processes.findIdx? fun process => process.pid = pid

def nextReadyIndexRoundRobin (includeCurrent : Bool) : Option Nat :=
  let count := table.processes.length
  let start := table.currentIndex.elim 0 fun index => (index + 1) % count
  ((List.range count).map fun offset => (start + offset) % count).find? fun index =>
    (includeCurrent ∨ table.currentIndex ≠ some index) ∧
      table.processes[index]?.any fun process => process.state = .ready

def allExitedSuccessfully : Bool :=
  table.processes.all fun process => process.state = .exited ∧ process.exitStatus = 0

variable {table : ProcessTable}

theorem mem_of_process {pid : ProcessId} {process : Process}
    (found : table.process pid = some process) : process ∈ table.processes :=
  List.mem_of_find?_eq_some found

theorem pid_of_process {pid : ProcessId} {process : Process}
    (found : table.process pid = some process) : process.pid = pid := by
  simpa using List.find?_some found

theorem mem_of_currentProcess {process : Process} (found : table.currentProcess = some process) :
    process ∈ table.processes := by
  obtain ⟨pid, _, found⟩ := Option.bind_eq_some_iff.mp found
  exact mem_of_process found

end ProcessTable

namespace ProcessTable

/-- The same processes in the same order, each related to what it was. -/
structure Pointwise (related : Process → Process → Prop) (table after : ProcessTable) : Prop where
  current : after.current = table.current
  nextId : after.nextId = table.nextId
  processes : List.Forall₂ related table.processes after.processes

theorem Pointwise.refl {related : Process → Process → Prop} [Std.Refl related]
    (table : ProcessTable) : Pointwise related table table :=
  ⟨rfl, rfl, List.forall₂_refl _⟩

theorem Pointwise.trans {related : Process → Process → Prop} [IsTrans Process related]
    {table middle after : ProcessTable} (one : Pointwise related table middle)
    (two : Pointwise related middle after) : Pointwise related table after := by
  refine ⟨two.current.trans one.current, two.nextId.trans one.nextId, ?_⟩
  have first := one.processes
  have second := two.processes
  generalize table.processes = start at first
  generalize middle.processes = between at first second
  generalize after.processes = final at second
  induction first generalizing final with
  | nil =>
    cases second
    exact .nil
  | cons head _ ih =>
    cases second with
    | cons nextHead nextTail => exact .cons (trans_of related head nextHead) (ih _ nextTail)

section

variable {related : Process → Process → Prop} [Std.Refl related] {table : ProcessTable}
  {change : Process → Process}

theorem pointwise_update {pid : ProcessId}
    (changed : ∀ process, table.process pid = some process → related process (change process)) :
    Pointwise related table (table.update pid change) :=
  ⟨rfl, rfl, forall₂_changeFirst changed⟩

theorem pointwise_updateCurrent
    (changed : ∀ process, table.currentProcess = some process → related process (change process)) :
    Pointwise related table (table.updateCurrent change) := by
  unfold updateCurrent
  cases isCurrent : table.current with
  | none => exact .refl table
  | some pid =>
    exact pointwise_update fun process found =>
      changed process (by simp [currentProcess, isCurrent, found])

theorem pointwise_updateAt {index : Nat}
    (changed : ∀ process, table.processes[index]? = some process →
      related process (change process)) : Pointwise related table (table.updateAt index change) :=
  ⟨rfl, rfl, forall₂_modify changed⟩

omit [Std.Refl related] in
theorem pointwise_updateAll (changed : ∀ process, related process (change process)) :
    Pointwise related table (table.updateAll change) :=
  ⟨rfl, rfl, List.forall₂_map_right_iff.mpr (List.forall₂_same.mpr fun process _ => changed process)⟩

end

end ProcessTable

theorem found_of_findIdx {list : List Process} {wanted : Process → Bool} {index : Nat}
    {process : Process}
    (found : ((list.findIdx? wanted).bind fun index =>
      list[index]?.map fun waiter => (index, waiter)) = some (index, process)) :
    list[index]? = some process ∧ wanted process = true := by
  obtain ⟨place, isFirst, taken⟩ := Option.bind_eq_some_iff.mp found
  obtain ⟨waiter, here, same⟩ := Option.map_eq_some_iff.mp taken
  cases same
  obtain ⟨inside, accepted, _⟩ := List.findIdx?_eq_some_iff_getElem.mp isFirst
  rw [List.getElem?_eq_getElem inside, Option.some.injEq] at here
  subst here
  exact ⟨List.getElem?_eq_getElem inside, accepted⟩

end VertexOS
