import VertexOS.VfsSyscalls

/-! # The system calls on capabilities -/

namespace VertexOS

open FailingCalls

/-- The rights asked for are some, and none that the capability does not have. -/
def Rights.AttenuatedTo (rights mask : Rights) : Prop := mask ≠ 0 ∧ Within mask rights

instance (rights mask : Rights) : Decidable (Rights.AttenuatedTo rights mask) :=
  inferInstanceAs (Decidable (_ ∧ _))

/-- A capability made from one of the running process, in another of its slots.
The source has this body twice, for derive and for copy. -/
def capDeriveInto (parentSlot newSlot : Nat) (rightsMask : Rights) : KernelCall Unit := do
  let runtime ← get
  let parent ← fromExcept (runtime.lookupCapability parentSlot 0)
  require .badCapability (Rights.AttenuatedTo parent.rights rightsMask)
  let process ← fromOption .badCapability runtime.processes.currentProcess
  require .badCapability (process.caps.canGrant newSlot = true)
  let cap ← createCapability parent.object rightsMask process.pid parent.id process.pid
  grantCurrent .badCapability newSlot cap

def capDerive (parentSlot newSlot : Nat) (rightsMask : Rights) : KernelCall Unit :=
  capDeriveInto parentSlot newSlot rightsMask

def capCopy (sourceSlot targetSlot : Nat) (rightsMask : Rights) : KernelCall Unit :=
  capDeriveInto sourceSlot targetSlot rightsMask

def capDrop (slot : Nat) : KernelCall Unit := do
  let runtime ← get
  let process ← fromOption .badCapability runtime.processes.currentProcess
  let (dropped, caps) ← fromExcept (process.caps.clear slot)
  set (runtime.updateCurrent fun process => { process with caps })
  modify fun runtime => runtime.releaseUnreferencedDerivedVfsRoot dropped.object

def capRevoke (slot : Nat) : KernelCall Unit := do
  let cap ← fromExcept ((← get).lookupCapability slot 0)
  revokeCapId cap.id
  modify RuntimeState.releaseUnreferencedDerivedVfsRoots
  modify fun runtime => runtime.cancelUnauthorizedBlockedReceivers statusBadCapability

def capMove (sourceSlot targetSlot : Nat) : KernelCall Unit := do
  let runtime ← get
  let process ← fromOption .badCapability runtime.processes.currentProcess
  require .badCapability (process.caps.canGrant targetSlot = true)
  let (cap, cleared) ← fromExcept (process.caps.clear sourceSlot)
  set (runtime.updateCurrent fun process => { process with caps := cleared })
  grantCurrent .badCapability targetSlot cap

def grantByPid {ε : Type} (missing : ε) (refused : InitError → ε) (pid : ProcessId) (slot : Nat)
    (cap : Capability) (persistForRestart : Bool) : Call ε RuntimeState Unit := do
  let runtime ← get
  let process ← fromOption missing (runtime.processes.process pid)
  let caps ← fromExcept ((process.caps.grant slot cap).mapError refused)
  let initialCaps ← fromExcept
    (if persistForRestart then (process.initialCaps.grant slot cap).mapError refused
      else .ok process.initialCaps)
  set (runtime.updateProcesses fun table => table.update pid fun process =>
    { process with caps, initialCaps })

def capTransfer (controlSlot targetPid packedTransfer : Nat) : KernelCall Unit := do
  let runtime ← get
  let _ ← fromExcept (runtime.processControlFromCap controlSlot rightDelegate)
  let capSlot := packedTransfer % 2 ^ 16
  let targetSlot := packedTransfer / 2 ^ 16 % 2 ^ 16
  let rightsMask : Rights := BitVec.ofNat 64 (packedTransfer / 2 ^ 32)
  let cap ← fromExcept (runtime.lookupCapability capSlot 0)
  require .badCapability (Rights.AttenuatedTo cap.rights rightsMask)
  let caller ← fromOption .badCapability runtime.processes.currentProcess
  let target ← fromOption .badCapability (runtime.processes.process ⟨targetPid⟩)
  require .badCapability (target.caps.canGrant targetSlot = true)
  require .badCapability
    (target.state = .declared → target.initialCaps.canGrant targetSlot = true)
  let transferred ← createCapability cap.object rightsMask ⟨targetPid⟩ cap.id caller.pid
  grantByPid .badCapability (fun _ => .badCapability) ⟨targetPid⟩ targetSlot transferred
    (target.state = .declared)

end VertexOS
