import VertexOS.BootRuntime

/-!
# Creating, starting and ending processes

A process is declared first and started later.  When it ends its files are closed and
its endpoints and mounts removed; a restart puts the capabilities back that it was
given before its first start.
-/

namespace VertexOS

open ByteStrings FailingCalls

inductive ScheduleResult where
  | proceed
  | switched
  | halt (ok : Bool)
deriving DecidableEq, Repr

namespace Process

def ended (status : Nat) (process : Process) : Process :=
  { process with
    state := .exited
    hasSavedFrame := false
    exitStatus := status
    hasExited := true }.clearFileHandles

def withContext (context : ProcessContext) (reaped : Bool) (process : Process) : Process :=
  { process with context, contextReaped := reaped }

def started (process : Process) : Process :=
  { process with
    state := .ready
    hasSavedFrame := false
    exitStatus := 0
    hasExited := false
    startCount := process.startCount + 1 }

def reloaded (context : ProcessContext) (process : Process) : Process :=
  { process.withContext context false with
    caps := process.initialCaps
    quota := process.initialQuota }.clearFileHandles

end Process

namespace RuntimeState

variable (runtime : RuntimeState)

def updateProcess (pid : ProcessId) (change : Process → Process) :
    RuntimeState :=
  runtime.updateProcesses fun table => table.update pid change

def releaseProcessFiles (pid : ProcessId) : RuntimeState :=
  runtime.updateVfs fun vfs => vfs.releaseProcessFileDescriptions pid

def abortTransactionsOf (name : String) : RuntimeState :=
  let stateAborted :=
    if name = vertexStateProcessName then runtime.abortVfsStateTransactions statusVfsUnsupported
    else runtime
  if name = blockDriverProcessName then
    stateAborted.abortVertexFsSyncTransactions statusVfsUnsupported
  else stateAborted

def processConfigForPid (pid : ProcessId) : Option BootProcessConfig :=
  runtime.activeConfig.bind fun config =>
    ((List.range config.processes.length).find? fun index =>
      runtime.processTemplatePids index = some pid).bind fun index => config.processes[index]?

def setTemplatePid (index : Nat) (pid : Option ProcessId) :
    RuntimeState :=
  { runtime with processTemplatePids := Function.update runtime.processTemplatePids index pid }

end RuntimeState

def reapProcessContext (machine : Machine) (pid : ProcessId) : KernelCall Unit := do
  modify fun runtime => runtime.cancelBlockedReceiversForEndpointOwner pid statusBadCapability
  modify fun runtime => { runtime with objects := runtime.objects.removeOwnedEndpoints pid }
  let process ← fromOption .badCapability ((← get).processes.process pid)
  modify fun runtime => (runtime.updateProcess pid Process.clearFileHandles).releaseProcessFiles pid
  modify fun runtime =>
    (runtime.removeOwnedDynamicBindMounts pid).removeOwnedDeclaredBindMounts pid
  modify RuntimeState.releaseUnreferencedDerivedVfsRoots
  if process.contextReaped = false ∧ process.context.cr3 ≠ 0 then
    require .badCapability (machine.reclaims process.context.cr3 = true)
    modify fun runtime => runtime.updateProcess pid (Process.withContext ⟨0, 0, 0⟩ true)

def exitLifecycle (status : Nat) : ServiceLifecycleState :=
  if status = 0 then .exited else .failed

namespace RuntimeState

variable (runtime : RuntimeState) (machine : Machine)

def endCurrent (process : Process) (status : Nat)
    (lifecycle : ServiceLifecycleState) : RuntimeState :=
  let ended := ((runtime.updateCurrent (Process.ended status)).releaseProcessFiles process.pid)
  let cancelled := ended.cancelBlockedReceiversForEndpointOwner process.pid statusBadCapability
  let released := cancelled.releaseUnreferencedDerivedVfsRoots
  let recorded :=
    if process.pid.raw = 1 then released
    else released.recordServiceLifecycle process.name lifecycle (some status)
  recorded.abortTransactionsOf process.name

def leaveEnded (pid : ProcessId) :
    ScheduleResult × RuntimeState :=
  let (switched, after) := runtime.scheduleNextReady machine
  if switched then (.switched, (exec (reapProcessContext machine pid) after).2)
  else (.halt after.processes.allExitedSuccessfully, after)

def exitCurrentProcess (status : Nat) :
    ScheduleResult × RuntimeState :=
  match runtime.processes.currentProcess with
  | none =>
    let released := runtime.releaseUnreferencedDerivedVfsRoots
    if status ≠ 0 then (.halt false, released)
    else
      let (switched, after) := released.scheduleNextReady machine
      (if switched then .switched else .halt after.processes.allExitedSuccessfully, after)
  | some process =>
    let ended := runtime.endCurrent process status (exitLifecycle status)
    if process.pid.raw = 1 ∧ status ≠ 0 then (.halt false, ended)
    else ended.leaveEnded machine process.pid

def faultCurrentProcess :
    ScheduleResult × RuntimeState :=
  match runtime.processes.currentProcess with
  | none => (.halt false, runtime)
  | some process =>
    let ended := runtime.endCurrent process statusProcessFault .failed
    if process.pid.raw = 1 then (.halt false, ended)
    else ended.leaveEnded machine process.pid

def yieldCurrentProcess :
    ScheduleResult × RuntimeState :=
  if runtime.processes.currentProcess.isNone then (.halt false, runtime)
  else
    let (switched, after) :=
      (runtime.updateCurrent (Process.suspend runtime.frame .ready)).scheduleNextReadyExcludingCurrent
        machine
    if switched then (.switched, after)
    else (.proceed, after.updateCurrent fun process => { process with state := .running })

def wakeTimedFromInterrupt : RuntimeState :=
  runtime.wakeTimedProcesses (machine.clock 4)

def preemptCurrentProcess :
    ScheduleResult × RuntimeState :=
  let woken := runtime.wakeTimedFromInterrupt machine
  if woken.processes.nextReadyIndexRoundRobin false = none then (.proceed, woken)
  else
    match woken.processes.currentProcess with
    | none => (.halt false, woken)
    | some process =>
      if process.state ≠ .running then (.proceed, woken)
      else
        let (switched, after) :=
          (woken.updateCurrent (Process.suspend woken.frame .ready))
            |>.scheduleNextReadyNoWaitExcludingCurrent machine
        if switched then (.switched, after)
        else (.proceed, after.updateCurrent fun process => { process with state := .running })

end RuntimeState

/-- Run steps of building the runtime inside a system call. -/
def fromBoot {α : Type} (call : BootCall α) : KernelCall α := do
  match ← attempt call with
  | .ok value => return value
  | .error _ => throw .badCapability

def recycleExitedProcessTemplate (machine : Machine) (index : Nat) : KernelCall Unit := do
  let runtime ← get
  let config ← fromOption .badCapability runtime.activeConfig
  require .badCapability (index < config.processes.length)
  match runtime.processTemplatePids index with
  | none => pure ()
  | some pid =>
    let process ← fromOption .badCapability (runtime.processes.process pid)
    require .badCapability (process.state = .exited)
    reapProcessContext machine pid
    let reaped ← get
    let processes ← fromExcept
      ((reaped.processes.removeProcess pid).mapError fun _ => IpcError.badCapability)
    set ({ reaped with processes }.setTemplatePid index none)

def loadProcessContext (machine : Machine) (imageBase imageLength : Nat) :
    KernelCall ProcessContext := do
  require .badCapability (imageBase ≠ 0 ∧ imageLength ≠ 0)
  fromOption .badCapability (machine.loadContext imageBase imageLength)

def removeIncomplete (pid : ProcessId) (runtime : RuntimeState) : RuntimeState :=
  (runtime.removeOwnedDeclaredBindMounts pid).updateProcesses fun table =>
    ((table.removeLastProcess pid).toOption).getD table

def completeProcess (config : BootRuntimeConfig) (process : BootProcessConfig) (index : Nat)
    (pid : ProcessId) (mountRoot : VfsPath) : KernelCall Unit := do
  match ← attempt (do
      installDeclaredProcessMounts process pid mountRoot
      grantConfigCapsToProcess config index pid) with
  | .ok () => pure ()
  | .error _ =>
    modify (removeIncomplete pid)
    throw .badCapability

def createProcess (machine : Machine) (capSlot index : Nat) : KernelCall Nat := do
  let _ ← fromExcept ((← get).processControlFromCap capSlot rightCreate)
  recycleExitedProcessTemplate machine index
  let runtime ← get
  let config ← fromOption .badCapability runtime.activeConfig
  require .badCapability (runtime.processTemplatePids index = none)
  let process ← fromOption .badCapability config.processes[index]?
  require .badCapability (process.initial = false)
  fromExcept ((validateConfigCapsForProcess config runtime.installed index).mapError
    fun _ => IpcError.badCapability)
  let context ← loadProcessContext machine process.imageBase process.imageLength
  let mountRoot ← fromExcept
    ((VfsPath.fromBootRootPath process.mountRoot).mapError fun _ => IpcError.badCapability)
  let (pid, processes) ← fromExcept
    ((runtime.processes.addProcess process.name context process.imageBase process.imageLength
      .declared .new mountRoot).mapError fun _ => IpcError.badCapability)
  set { runtime with processes }
  completeProcess config process index pid mountRoot
  modify fun runtime =>
    (runtime.setTemplatePid index (some pid)).recordServiceLifecycle process.name .declared none
  return pid.raw

def reloadExited (machine : Machine) (process : Process) : KernelCall Unit := do
  reapProcessContext machine process.pid
  let context ← loadProcessContext machine process.imageBase process.imageLength
  let config ← fromOption .badCapability ((← get).processConfigForPid process.pid)
  fromBoot (installDeclaredProcessMounts config process.pid process.mountRoot)
  modify fun runtime => runtime.updateProcess process.pid (Process.reloaded context)

def startProcess (machine : Machine) (capSlot pid : Nat) : KernelCall Unit := do
  let runtime ← get
  let _ ← fromExcept (runtime.processControlFromCap capSlot rightStart)
  let process ← fromOption .badCapability (runtime.processes.process ⟨pid⟩)
  require .badCapability (process.state = .declared ∨ process.state = .exited)
  let restarts : Bool := process.state = .exited
  if restarts then reloadExited machine process
  let _ ← fromOption .badCapability ((← get).processes.process ⟨pid⟩)
  modify fun runtime => runtime.updateProcess ⟨pid⟩ Process.started
  if restarts then modify fun runtime => runtime.releaseProcessFiles ⟨pid⟩
  modify RuntimeState.releaseUnreferencedDerivedVfsRoots
  modify fun runtime => runtime.recordServiceLifecycle process.name
    (if restarts then .restarting else .starting) none

def processWait (machine : Machine) (capSlot pid : Nat) : KernelCall Nat := do
  modify fun runtime => runtime.wakeTimedFromInterrupt machine
  let runtime ← get
  let _ ← fromExcept (runtime.processControlFromCap capSlot rightWait)
  let process ← fromOption .badCapability (runtime.processes.process ⟨pid⟩)
  if process.state = .exited then
    reapProcessContext machine ⟨pid⟩
    return process.exitStatus
  else return statusNotExited

def killProcess (machine : Machine) (capSlot pid : Nat) : KernelCall Unit := do
  let runtime ← get
  let _ ← fromExcept (runtime.processControlFromCap capSlot rightKill)
  require .badCapability (runtime.processes.currentProcess.all fun process => process.pid ≠ ⟨pid⟩)
  let process ← fromOption .badCapability (runtime.processes.process ⟨pid⟩)
  require .badCapability (process.pid.raw ≠ 1)
  modify fun runtime =>
    (runtime.updateProcess ⟨pid⟩ (Process.ended statusProcessKilled)).releaseProcessFiles ⟨pid⟩
  modify fun runtime => runtime.cancelBlockedReceiversForEndpointOwner ⟨pid⟩ statusBadCapability
  modify RuntimeState.releaseUnreferencedDerivedVfsRoots
  modify fun runtime => runtime.abortTransactionsOf process.name
  reapProcessContext machine ⟨pid⟩

end VertexOS
