import VertexOS.DeviceSyscalls
import VertexOS.ProcessSyscalls

/-!
# Runs of the kernel

System calls and the entries from outside as steps of one kernel, and runs of them.
-/

namespace VertexOS

open ByteStrings ByteImages FailingCalls

def statusTooLarge : Nat := errorStatus 3
def statusEmpty : Nat := errorStatus 4
def statusVfsPermission : Nat := errorStatus 32
def statusVfsBadPath : Nat := errorStatus 33
def statusVfsNotFound : Nat := errorStatus 34
def statusVfsNotDirectory : Nat := errorStatus 35
def statusVfsNotFile : Nat := errorStatus 36
def statusVfsBusy : Nat := errorStatus 37
def statusVfsNoSpace : Nat := errorStatus 40
def statusVfsExists : Nat := errorStatus 41

def ipcErrorStatus : IpcError → Nat
  | .badCapability => statusBadCapability
  | .invalidUserBuffer => statusBadBuffer
  | .messageTooLarge => statusTooLarge
  | .empty => statusEmpty
  | .vfsPermission => statusVfsPermission
  | .vfsBadPath => statusVfsBadPath
  | .vfsNotFound => statusVfsNotFound
  | .vfsNotDirectory => statusVfsNotDirectory
  | .vfsNotFile => statusVfsNotFile
  | .vfsBusy => statusVfsBusy
  | .vfsBadHandle => statusVfsBadHandle
  | .vfsUnsupported => statusVfsUnsupported
  | .vfsNoSpace => statusVfsNoSpace
  | .vfsExists => statusVfsExists

/-- The system calls that change nothing the state keeps: they report, print, read secrets and
boot modules, reach devices and their mappings, or prepare a generation.  One that switches the
generation ends the run of this one, as does the last call of all, which turns the power off. -/
inductive OutsideCall where
  | bootRead | logWrite | objectRead | processAttempt | capInspect | secretRead | vfsPoll
  | runtimeInspect | ioRead | ioWrite | ioRead16 | ioWrite16 | ioRead32 | ioWrite32
  | virtioDeviceProbe | virtioDeviceReport | virtioRngRead | virtioNetTx | virtioNetRx | mmioMap
  | dmaMap | framebufferInfo | framebufferMap | verifyGeneration | stageGeneration
  | stageRollbackGeneration | markKnownGood | refusedActivation | refusedRollback
deriving DecidableEq

/-- The system calls of a kernel that stays in one generation.  A call of the last kind copies
some bytes out and answers with some number. -/
inductive Syscall where
  | ipcSend
  | ipcRecv
  | ipcRecvTimeout
  | sleepMs
  | capDerive
  | capDrop
  | capTransfer
  | capRevoke
  | capMove
  | capCopy
  | endpointCreate
  | quotaDelegate
  | namespaceResolve
  | processCreate
  | processStart
  | processWait
  | processKill
  | networkSendUdp
  | networkRecvUdp
  | irqWait
  | vfsOpen
  | vfsRead
  | vfsClose
  | vfsStat
  | vfsSeek
  | vfsPread
  | vfsWrite
  | vfsPwrite
  | vfsSync
  | vfsDup
  | vfsCreate
  | vfsUnlink
  | vfsDeriveRoot
  | vfsLock
  | vfsUnlock
  | vfsReaddir
  | vfsMount
  | vfsUnmount
  | vfsRename
  | vfsMkdir
  | vfsRmdir
  | vfsLink
  | vfsWatch
  | outside (call : OutsideCall) (copies : Bytes) (result : Nat)
deriving DecidableEq

def answering (call : KernelCall Nat) : KernelCall Unit := do
  answer (← call)

def succeeding (call : KernelCall Unit) : KernelCall Unit := do
  call
  answer statusOk

/-- What a system call does with its three arguments.  Calls that may block write
their answer themselves. -/
def syscallBody (machine : Machine) (number : Syscall) (arg0 arg1 arg2 : Nat) :
    KernelCall Unit :=
  match number with
  | .ipcSend => succeeding (send machine arg0 arg1 arg2)
  | .ipcRecv => receive machine arg0 arg1 arg2
  | .ipcRecvTimeout => receiveTimeout machine arg0 arg1 (packedLow arg2) (packedHigh arg2)
  | .sleepMs => sleepMs machine arg0 arg1
  | .capDerive => succeeding (capDerive arg0 arg1 (BitVec.ofNat 64 arg2))
  | .capDrop => succeeding (capDrop arg0)
  | .capTransfer => succeeding (capTransfer arg0 arg1 arg2)
  | .capRevoke => succeeding (capRevoke arg0)
  | .capMove => succeeding (capMove arg0 arg1)
  | .capCopy => succeeding (capCopy arg0 arg1 (BitVec.ofNat 64 arg2))
  | .endpointCreate => succeeding (endpointCreate arg0 arg1)
  | .quotaDelegate => succeeding (quotaDelegate arg0 arg1 arg2)
  | .namespaceResolve =>
    succeeding (namespaceResolve machine arg0 arg1 (packedLow arg2) (packedHigh arg2))
  | .processCreate => answering (createProcess machine arg0 arg1)
  | .processStart => succeeding (startProcess machine arg0 arg1)
  | .processWait => answering (processWait machine arg0 arg1)
  | .processKill => succeeding (killProcess machine arg0 arg1)
  | .networkSendUdp => succeeding (networkSendUdp machine arg0 arg1 arg2)
  | .networkRecvUdp => networkRecvUdp machine arg0 arg1 arg2
  | .irqWait => irqWait machine arg0 arg1
  | .vfsOpen => answering (vfsOpen machine arg0 arg1 arg2)
  | .vfsRead => vfsRead machine arg0 arg1 arg2
  | .vfsClose => succeeding (vfsClose arg0)
  | .vfsStat => vfsStat machine arg0 arg1 arg2
  | .vfsSeek => answering (vfsSeek arg0 arg1 arg2)
  | .vfsPread => vfsPread machine arg0 arg1 arg2
  | .vfsWrite => vfsWrite machine arg0 arg1 arg2
  | .vfsPwrite => vfsPwrite machine arg0 arg1 arg2
  | .vfsSync => vfsSync machine arg0
  | .vfsDup => answering (vfsDup arg0 (BitVec.ofNat 64 arg1))
  | .vfsCreate => succeeding (vfsCreate machine arg0 arg1 arg2)
  | .vfsUnlink => succeeding (vfsUnlink machine arg0 arg1 arg2)
  | .vfsDeriveRoot => succeeding (vfsDeriveRoot machine arg0 arg1 arg2)
  | .vfsLock => succeeding (vfsLock arg0 (BitVec.ofNat 64 arg1) arg2)
  | .vfsUnlock => succeeding (vfsUnlock arg0)
  | .vfsReaddir => answering (vfsReaddir machine arg0 arg1 arg2)
  | .vfsMount => succeeding (vfsMount machine arg0 arg1 arg2)
  | .vfsUnmount => succeeding (vfsUnmount machine arg0 arg1 arg2)
  | .vfsRename => succeeding (vfsRename machine arg0 arg1 arg2)
  | .vfsMkdir => succeeding (vfsMkdir machine arg0 arg1 arg2)
  | .vfsRmdir => succeeding (vfsRmdir machine arg0 arg1 arg2)
  | .vfsLink => succeeding (vfsLink machine arg0 arg1 arg2)
  | .vfsWatch => answering (vfsWatch machine arg0 arg1 arg2)
  | .outside _ copies result => do
    copyOut machine arg1 copies
    answer result

def syscallDispatch (machine : Machine) (number : Syscall) (arg0 arg1 arg2 : Nat) :
    KernelCall Unit := do
  match ← attempt (syscallBody machine number arg0 arg1 arg2) with
  | .ok () => pure ()
  | .error error => answer (ipcErrorStatus error)

inductive Action where
  | syscall (number : Syscall) (arg0 arg1 arg2 : BitVec 64)
  | exit (status : Nat)
  | yield
  | fault
  | timer
  | irq (line : Nat)
deriving DecidableEq

/-- What an entry is for, the registers the running process enters with, and what
the kernel finds outside. -/
structure Entry where
  action : Action
  frame : SyscallFrame
  machine : Machine

namespace RuntimeState

def perform (runtime : RuntimeState) (machine : Machine) : Action → ScheduleResult × RuntimeState
  | .syscall number arg0 arg1 arg2 =>
    (.proceed, (exec (syscallDispatch machine number arg0.toNat arg1.toNat arg2.toNat) runtime).2)
  | .exit status => runtime.exitCurrentProcess machine status
  | .yield => runtime.yieldCurrentProcess machine
  | .fault => runtime.faultCurrentProcess machine
  | .timer => runtime.preemptCurrentProcess machine
  | .irq line => (runtime.recordHardwareIrq line).preemptCurrentProcess machine

end RuntimeState

structure Kernel where
  runtime : RuntimeState
  halted : Bool

namespace Kernel

/-- One entry; a kernel that halted is not entered again. -/
def step (kernel : Kernel) (entry : Entry) : Kernel :=
  if kernel.halted then kernel
  else
    let (result, runtime) :=
      { kernel.runtime with frame := entry.frame }.perform entry.machine entry.action
    { runtime, halted := result matches .halt _ }

def run (kernel : Kernel) (entries : List Entry) : Kernel :=
  entries.foldl step kernel

end Kernel

end VertexOS
