import VertexOS.CapabilitySyscalls

/-! # Messages, endpoints and namespaces -/

namespace VertexOS

open ByteStrings FailingCalls SlotTables

variable (machine : Machine)

def maxNamespacePathBytes : Nat := 128

def dynamicEndpointName : String := "dynamic-endpoint"

def send (capSlot source len : Nat) : KernelCall Unit := do
  require .messageTooLarge (len ≤ maxMessageBytes)
  let runtime ← get
  let endpoint ← fromExcept (runtime.endpointFromCap capSlot rightSend)
  let message ← copyFromUser machine source len
  let sender := (runtime.processes.currentProcess.map Process.pid).getD .empty
  enqueueAt endpoint sender message
  modify fun runtime => runtime.wakeBlockedReceiver machine endpoint
  modify fun runtime => runtime.wakeBlockedVfsStateReply machine endpoint
  modify fun runtime => runtime.wakeBlockedVertexFsSyncReply machine endpoint

def takeMessage (endpoint : KernelObjectId) (receiver : ProcessId)
    (destination maxLen : Nat) (message : IpcMessage) : KernelCall Unit := do
  let bytes := message.bytes.take maxLen
  let copied ← fromOption .invalidUserBuffer
    ((← get).copyToUser machine receiver destination bytes)
  set (copied.recordReadyLifecycle endpoint receiver message)
  answer bytes.length

def receiveWithTimeout (capSlot destination maxLen : Nat)
    (timeoutTsc : Option Tsc) : KernelCall Unit := do
  let runtime ← get
  let cap ← fromExcept (runtime.endpointCapFromSlot capSlot rightReceive)
  let receiver := (runtime.processes.currentProcess.map Process.pid).getD .empty
  require .invalidUserBuffer (machine.writable receiver destination maxLen = true)
  match runtime.dequeueAt cap.object fun queue => queue.dequeueFor receiver with
  | some (message, after) =>
    set after
    takeMessage machine cap.object receiver destination maxLen message
  | none =>
    let (blocked, after) := runtime.blockCurrentOnEndpoint machine cap.object cap.id destination
      maxLen timeoutTsc
    set after
    require .empty (blocked = true)

def receive (capSlot destination maxLen : Nat) : KernelCall Unit :=
  receiveWithTimeout machine capSlot destination maxLen none

def receiveTimeout (capSlot destination maxLen timeoutMs : Nat) :
    KernelCall Unit :=
  receiveWithTimeout machine capSlot destination maxLen (some (deadlineAfterMs machine timeoutMs))

def sleepMs (capSlot milliseconds : Nat) : KernelCall Unit := do
  let runtime ← get
  let _ ← fromExcept (runtime.timerFromCap capSlot rightControl)
  if milliseconds = 0 then answer statusOk
  else
    let _ ← fromOption .badCapability runtime.processes.currentProcess
    let (switched, after) := runtime.suspendCurrent machine { runtime.frame with rax := statusOk }
      (.sleeping (deadlineAfterMs machine milliseconds))
    set after
    require .empty (switched = true)

/-- Give the new endpoint to its maker, or take everything back. -/
def grantNewEndpoint (capSlot : Nat) (owner : ProcessId) (endpoint : KernelObjectId)
    (cap : Capability) : KernelCall Unit := do
  match ← attempt (grantCurrent .badCapability capSlot cap) with
  | .ok () =>
    modify fun runtime => runtime.updateCurrent fun process => { process with
      quota := { process.quota with usedEndpoints := process.quota.usedEndpoints + 1 } }
  | .error error =>
    modify fun runtime =>
      let rolled := runtime.rollbackLastCapability cap
      { rolled with objects := rolled.objects.removeOwnedEndpoint endpoint owner }
    throw error

def endpointCreate (controlSlot capSlot : Nat) : KernelCall Unit := do
  let runtime ← get
  let _ ← fromExcept (runtime.processControlFromCap controlSlot rightAllocate)
  let process ← fromOption .badCapability runtime.processes.currentProcess
  require .badCapability (process.quota.usedEndpoints < process.quota.maxEndpoints)
  require .badCapability (process.caps.canGrant capSlot = true)
  require .badCapability (runtime.ledger.canAllocateCapability = true)
  let (endpoint, objects) ← fromExcept
    ((runtime.objects.addEndpointOwned dynamicEndpointName process.pid).mapError
      fun _ => .badCapability)
  set { runtime with objects }
  match ← attempt (createCapability endpoint (rightSend ||| rightReceive) process.pid 0
      process.pid) with
  | .ok cap => grantNewEndpoint capSlot process.pid endpoint cap
  | .error error =>
    modify fun runtime =>
      { runtime with objects := runtime.objects.removeOwnedEndpoint endpoint process.pid }
    throw error

/-- The quota of a process after a delegation: one that did not start yet keeps it
for its restarts. -/
def Process.withEndpointQuota (maxEndpoints : Nat) (process : Process) : Process :=
  if process.state = .declared then
    { process with
      quota := { process.quota with maxEndpoints, usedEndpoints := 0 }
      initialQuota := { process.initialQuota with maxEndpoints, usedEndpoints := 0 } }
  else { process with quota := { process.quota with maxEndpoints } }

def quotaDelegate (controlSlot targetPid maxEndpoints : Nat) : KernelCall Unit := do
  let runtime ← get
  let _ ← fromExcept (runtime.processControlFromCap controlSlot rightDelegate)
  let caller ← fromOption .badCapability runtime.processes.currentProcess
  require .badCapability (maxEndpoints ≤ caller.quota.maxEndpoints)
  let _ ← fromOption .badCapability (runtime.processes.process ⟨targetPid⟩)
  modify fun runtime => runtime.updateProcesses fun table =>
    table.update ⟨targetPid⟩ (Process.withEndpointQuota maxEndpoints)

def namespaceResolve (capSlot path pathLen targetSlot : Nat) :
    KernelCall Unit := do
  require .messageTooLarge (pathLen ≤ maxNamespacePathBytes)
  let runtime ← get
  let space ← fromExcept (runtime.namespaceFromCap capSlot rightResolve)
  let path ← copyFromUser machine path pathLen
  let entry ← fromOption .badCapability (space.resolve path)
  let spaceCap ← fromExcept (runtime.lookupCapability capSlot rightResolve)
  let process ← fromOption .badCapability runtime.processes.currentProcess
  require .badCapability (process.caps.canGrant targetSlot = true)
  let cap ← createCapability entry.object entry.rights process.pid spaceCap.id process.pid
  grantCurrent .badCapability targetSlot cap

end VertexOS
