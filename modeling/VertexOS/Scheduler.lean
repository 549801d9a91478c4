import VertexOS.ObjectLookup

/-!
# Blocking, waking and switching processes

The running process blocks or yields, and the next ready one takes over, in table order
after it.  A message wakes the first process that waits for it, unless its authority to
receive is gone by then.
-/

namespace VertexOS

open ByteStrings FailingCalls

def protocolHealthV0 : Nat := 2
def messageReady : Nat := 1
def readyEnvelopeLen : Nat := 16

def deadlineReached (now deadline : Tsc) : Bool := 0 ≤ (now - deadline).toInt

def deadlineAfterMs (machine : Machine) (milliseconds : Nat) : Tsc :=
  BitVec.ofNat 64
    (min ((machine.clock 3).toNat + min (milliseconds * machine.ticksPerMs) (2 ^ 64 - 1))
      (2 ^ 64 - 1))

namespace Process

/-- The status with which the clock wakes a process, if it does. -/
def timedOut (now : Tsc) (process : Process) : Option Nat :=
  match process.state with
  | .sleeping wakeTsc => if deadlineReached now wakeTsc then some statusOk else none
  | .blockedOnEndpoint _ _ _ _ (some timeoutTsc) =>
    if deadlineReached now timeoutTsc then some statusTimeout else none
  | .blockedOnInterrupt _ (some timeoutTsc) =>
    if deadlineReached now timeoutTsc then some statusTimeout else none
  | _ => none

def wakeWith (status : Nat) (process : Process) : Process :=
  { process with savedFrame := { process.savedFrame with rax := status }, state := .ready }

def wakeTimed (now : Tsc) (process : Process) : Process :=
  (process.timedOut now).elim process fun status => process.wakeWith status

def suspend (frame : SyscallFrame) (state : ProcessState) (process : Process) : Process :=
  { process with savedFrame := frame, hasSavedFrame := true, state }

def deadline (process : Process) : Option Tsc :=
  match process.state with
  | .sleeping wakeTsc => some wakeTsc
  | .blockedOnEndpoint _ _ _ _ timeoutTsc => timeoutTsc
  | .blockedOnInterrupt _ timeoutTsc => timeoutTsc
  | _ => none

end Process

namespace ProcessTable

def wakeTimedProcesses (table : ProcessTable) (now : Tsc) : ProcessTable :=
  table.updateAll (Process.wakeTimed now)

def nextDeadlineTsc (table : ProcessTable) : Option Tsc :=
  table.processes.foldl
    (fun next process =>
      match process.deadline with
      | none => next
      | some deadline =>
        if next.all fun current => (deadline - current).toInt < 0 then some deadline else next)
    none

end ProcessTable

namespace RuntimeState

variable (runtime : RuntimeState) (machine : Machine)

def wakeTimedProcesses (runtime : RuntimeState) (now : Tsc) : RuntimeState :=
  runtime.updateProcesses fun table => table.wakeTimedProcesses now

def blockedInterruptWaiterIndex (interrupt : KernelObjectId) :
    Option Nat :=
  runtime.processes.processes.findIdx? fun process =>
    match process.state with
    | .blockedOnInterrupt waiting _ => waiting = interrupt
    | _ => false

def recordHardwareIrq (irqLine : Nat) : RuntimeState :=
  match runtime.objects.getInterruptLineByNumber irqLine with
  | none => runtime
  | some line =>
    match runtime.blockedInterruptWaiterIndex line.id with
    | some index =>
      { runtime with
        processes := runtime.processes.updateAt index (Process.wakeWith statusOk)
        objects := runtime.objects.setLineCounts line.id line.pendingCount
          (line.deliveredCount + 1) }
    | none =>
      { runtime with
        objects := runtime.objects.setLineCounts line.id (line.pendingCount + 1)
          line.deliveredCount }

def takeInterrupt (round : WaitRound) : RuntimeState :=
  (round.line.elim runtime runtime.recordHardwareIrq).wakeTimedProcesses round.interrupted

def waitUntilDeadline (deadline : Tsc) (includeCurrent : Bool) :
    List WaitRound → RuntimeState → RuntimeState
  | [], runtime => runtime
  | round :: rest, runtime =>
    if deadlineReached round.now deadline ∨
        (runtime.processes.nextReadyIndexRoundRobin includeCurrent).isSome then runtime
    else if runtime.processes.processes.any fun process => (process.timedOut round.wake).isSome
    then runtime.wakeTimedProcesses round.wake
    else
      waitUntilDeadline deadline includeCurrent rest
        ((runtime.wakeTimedProcesses round.wake).takeInterrupt round)

/-- The state in which the next process is chosen, after the clock was looked at. -/
def readyForSwitch
    (includeCurrent waitForDeadline : Bool) : RuntimeState :=
  let woken := runtime.wakeTimedProcesses (machine.clock 0)
  if waitForDeadline ∧ woken.processes.nextReadyIndexRoundRobin includeCurrent = none then
    match woken.processes.nextDeadlineTsc with
    | none => woken
    | some deadline =>
      (waitUntilDeadline deadline includeCurrent machine.waits woken).wakeTimedProcesses
        (machine.clock 1)
  else woken

def switchTo (index : Nat) (next : Process) : RuntimeState :=
  { runtime with
    processes :=
      { runtime.processes.updateAt index fun process => { process with state := .running } with
        current := some next.pid }
    frame := if next.hasSavedFrame then next.savedFrame else .fromContext next.context
    switchLog := runtime.switchLog ++ [next.pid] }

def scheduleNextReadyInner
    (includeCurrent waitForDeadline : Bool) : Bool × RuntimeState :=
  let ready := runtime.readyForSwitch machine includeCurrent waitForDeadline
  match (ready.processes.nextReadyIndexRoundRobin includeCurrent).bind fun index =>
    ready.processes.processes[index]?.map fun next => (index, next) with
  | none => (false, ready)
  | some (index, next) => (true, ready.switchTo index next)

def scheduleNextReady : Bool × RuntimeState :=
  runtime.scheduleNextReadyInner machine true true

def scheduleNextReadyExcludingCurrent :
    Bool × RuntimeState :=
  runtime.scheduleNextReadyInner machine false true

def scheduleNextReadyNoWaitExcludingCurrent :
    Bool × RuntimeState :=
  runtime.scheduleNextReadyInner machine false false

def updateCurrent (runtime : RuntimeState) (change : Process → Process) : RuntimeState :=
  runtime.updateProcesses fun table => table.updateCurrent change

/-- Suspend the running process and switch; without another process to run it goes
on.  The answer is whether the kernel switched. -/
def suspendCurrent (frame : SyscallFrame)
    (state : ProcessState) : Bool × RuntimeState :=
  let (switched, after) :=
    (runtime.updateCurrent (Process.suspend frame state)).scheduleNextReady machine
  if switched then (true, after)
  else (false, after.updateCurrent fun process => { process with state := .running })

def blockCurrent (state : ProcessState) :
    Bool × RuntimeState :=
  if runtime.processes.currentProcess.isNone then (false, runtime)
  else runtime.suspendCurrent machine runtime.frame state

def blockCurrentOnEndpoint
    (endpoint : KernelObjectId) (capId destination maxLen : Nat) (timeoutTsc : Option Tsc) :
    Bool × RuntimeState :=
  runtime.blockCurrent machine (.blockedOnEndpoint endpoint capId destination maxLen timeoutTsc)

end RuntimeState

def readyServiceName (message : IpcMessage) : Option Bytes :=
  if message.bytes.length < readyEnvelopeLen then none
  else if readLe? 2 message.bytes 0 ≠ some protocolHealthV0 ∨
      readLe? 2 message.bytes 2 ≠ some messageReady then none
  else
    (readLe? 4 message.bytes 4).bind fun payloadLen =>
      if message.bytes.length - readyEnvelopeLen < payloadLen then none
      else some ((message.bytes.drop readyEnvelopeLen).take payloadLen)

namespace RuntimeState

variable (runtime : RuntimeState) (machine : Machine)

def recordReadyLifecycle (endpoint : KernelObjectId)
    (receiver : ProcessId) (message : IpcMessage) : RuntimeState :=
  let sender := runtime.processes.process message.sender
  let ready : Bool :=
    (runtime.objects.getEndpoint endpoint).any (fun object => object.name = "readiness") ∧
      receiver.raw = 1 ∧
      sender.any fun process => readyServiceName message = some (utf8 process.name)
  if ready then
    runtime.recordServiceLifecycle (sender.elim "" Process.name) .ready none
  else runtime

def copyToUser (pid : ProcessId)
    (destination : Nat) (bytes : Bytes) : Option RuntimeState :=
  if machine.writable pid destination bytes.length then
    some { runtime with userCopies := runtime.userCopies ++ [{ pid, destination, bytes }] }
  else none

def processHasLiveEndpointCap (process : Process)
    (endpoint : KernelObjectId) (capId : Nat) (requiredRight : Rights) : Bool :=
  (runtime.objects.getEndpoint endpoint).isSome ∧
    (List.finRange maxCaps).any fun slot =>
      (process.caps.caps slot).any fun cap =>
        cap.id = capId ∧ cap.object = endpoint ∧ runtime.CapLive cap ∧
          Rights.Has cap.rights requiredRight

def blockedReceiverIndex (endpoint : KernelObjectId) : Option Nat :=
  runtime.processes.processes.findIdx? fun process =>
    match process.state with
    | .blockedOnEndpoint waiting _ _ _ _ =>
      waiting = endpoint ∧
        (runtime.objects.getEndpoint endpoint).any fun object => object.hasMessageFor process.pid
    | _ => false

def dequeueAt (endpoint : KernelObjectId)
    (dequeue : MessageQueue → Option (IpcMessage × MessageQueue)) :
    Option (IpcMessage × RuntimeState) :=
  (runtime.objects.getEndpoint endpoint).bind fun object =>
    (dequeue object.queue).map fun (message, queue) =>
      (message, { runtime with objects := runtime.objects.setEndpointQueue endpoint queue })

def deliver (index : Nat)
    (endpoint : KernelObjectId) (waiter : Process) (destination maxLen : Nat)
    (message : IpcMessage) : RuntimeState :=
  let bytes := message.bytes.take maxLen
  let wake (status : Nat) (table : ProcessTable) := table.updateAt index (Process.wakeWith status)
  match runtime.copyToUser machine waiter.pid destination bytes with
  | some copied =>
    (copied.updateProcesses (wake bytes.length)).recordReadyLifecycle endpoint waiter.pid message
  | none => runtime.updateProcesses (wake statusBadBuffer)

/-- Wake the first process that waits at the endpoint for a message that is there.
Those whose authority is gone are sent away first. -/
def wakeReceivers (machine : Machine) (endpoint : KernelObjectId) :
    Nat → RuntimeState → RuntimeState
  | 0, runtime => runtime
  | rounds + 1, runtime =>
    match (runtime.blockedReceiverIndex endpoint).bind fun index =>
      runtime.processes.processes[index]?.map fun waiter => (index, waiter) with
    | none => runtime
    | some (index, waiter) =>
      match waiter.state with
      | .blockedOnEndpoint waiting capId destination maxLen _ =>
        if runtime.processHasLiveEndpointCap waiter waiting capId rightReceive then
          match runtime.dequeueAt endpoint fun queue => queue.dequeueFor waiter.pid with
          | none => runtime
          | some (message, after) =>
            after.deliver machine index endpoint waiter destination maxLen message
        else
          wakeReceivers machine endpoint rounds
            (runtime.updateProcesses fun table =>
              table.updateAt index (Process.wakeWith statusBadCapability))
      | _ => runtime

def wakeBlockedReceiver
    (endpoint : KernelObjectId) : RuntimeState :=
  let woken := runtime.wakeTimedProcesses (machine.clock 2)
  wakeReceivers machine endpoint (woken.processes.processes.length + 1) woken

def cancelReceiversWhere (status : Nat)
    (refused : Process → KernelObjectId → Nat → Bool) : RuntimeState :=
  runtime.updateProcesses fun table => table.updateAll fun process =>
    match process.state with
    | .blockedOnEndpoint endpoint capId _ _ _ =>
      if refused process endpoint capId then process.wakeWith status else process
    | _ => process

def cancelUnauthorizedBlockedReceivers (status : Nat) : RuntimeState :=
  runtime.cancelReceiversWhere status fun process endpoint capId =>
    !runtime.processHasLiveEndpointCap process endpoint capId rightReceive

def cancelBlockedReceiversForEndpointOwner (owner : ProcessId)
    (status : Nat) : RuntimeState :=
  runtime.cancelReceiversWhere status fun _ endpoint _ =>
    (runtime.objects.getEndpoint endpoint).all fun object => object.owner = owner

end RuntimeState

end VertexOS
