import VertexOS.VfsMountSyscalls

/-! # Waiting for the network and for interrupts -/

namespace VertexOS

open ByteStrings FailingCalls

namespace RuntimeState

def blockedNetworkReceiverIndex (runtime : RuntimeState) (port : KernelObjectId) : Option Nat :=
  runtime.processes.processes.findIdx? fun process =>
    match process.state with
    | .blockedOnNetworkPort waiting _ _ =>
      waiting = port ∧
        (runtime.objects.getNetworkPort port).any NetworkPortObject.hasPendingUdp
    | _ => false

def dequeueUdp (runtime : RuntimeState) (port : KernelObjectId) :
    Option (IpcMessage × RuntimeState) :=
  (runtime.objects.getNetworkPort port).bind fun object =>
    object.queue.dequeueFifo.map fun (message, queue) =>
      (message, { runtime with objects := runtime.objects.setPortQueue port queue })

def wakeBlockedNetworkReceiver (runtime : RuntimeState) (machine : Machine)
    (port : KernelObjectId) : RuntimeState :=
  match (runtime.blockedNetworkReceiverIndex port).bind fun index =>
    runtime.processes.processes[index]?.map fun waiter => (index, waiter) with
  | none => runtime
  | some (index, waiter) =>
    match waiter.state with
    | .blockedOnNetworkPort _ destination maxLen =>
      match runtime.dequeueUdp port with
      | none => runtime
      | some (message, taken) =>
        let bytes := message.bytes.take maxLen
        match taken.copyToUser machine waiter.pid destination bytes with
        | some copied => copied.updateProcesses fun table =>
          table.updateAt index (Process.wakeWith bytes.length)
        | none => taken.updateProcesses fun table =>
          table.updateAt index (Process.wakeWith statusBadBuffer)
    | _ => runtime

end RuntimeState

def networkSendUdp (machine : Machine) (capSlot source len : Nat) : KernelCall Unit := do
  require .messageTooLarge (len ≤ maxMessageBytes)
  let runtime ← get
  let port ← fromExcept (runtime.networkPortFromCap capSlot (rightBind ||| rightListen))
  let payload ← copyFromUser machine source len
  let sender ← fromOption .badCapability runtime.processes.currentProcess
  let object ← fromOption .badCapability (runtime.objects.getNetworkPort port.id)
  let queue ← fromExcept (object.queue.enqueue sender.pid payload)
  set { runtime with objects := runtime.objects.setPortQueue port.id queue }
  modify fun runtime => runtime.wakeBlockedNetworkReceiver machine port.id

def networkRecvUdp (machine : Machine) (capSlot destination maxLen : Nat) : KernelCall Unit := do
  let runtime ← get
  let port ← fromExcept (runtime.networkPortFromCap capSlot rightControl)
  requireWritable machine destination maxLen
  match runtime.dequeueUdp port.id with
  | some (message, after) =>
    let bytes := message.bytes.take maxLen
    set after
    copyOut machine destination bytes
    answer bytes.length
  | none =>
    let (blocked, after) :=
      runtime.blockCurrent machine (.blockedOnNetworkPort port.id destination maxLen)
    set after
    require .empty (blocked = true)

/-- Wait for an interrupt.  One that is pending counts, and a wait of no time does
not block. -/
def irqWait (machine : Machine) (capSlot timeoutMs : Nat) : KernelCall Unit := do
  let runtime ← get
  let line ← fromExcept (runtime.interruptLineFromCap capSlot rightListen)
  if line.pendingCount ≠ 0 then
    set { runtime with
      objects := runtime.objects.setLineCounts line.id (line.pendingCount - 1)
        (line.deliveredCount + 1) }
    answer statusOk
  else if timeoutMs = 0 then answer statusOk
  else
    require .empty runtime.processes.currentProcess.isSome
    let (switched, after) := runtime.suspendCurrent machine { runtime.frame with rax := statusOk }
      (.blockedOnInterrupt line.id (some (deadlineAfterMs machine timeoutMs)))
    set after
    require .empty (switched = true)

end VertexOS
