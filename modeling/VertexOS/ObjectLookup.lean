import VertexOS.RuntimeState

/-!
# Looking capabilities up

A process names a capability by its slot.  The lookup refuses a capability that
is marked revoked, whose identifier is revoked, that has a revoked ancestor or
that comes from another generation.
-/

namespace VertexOS

open FailingCalls ParentForest

namespace RuntimeState

variable (runtime : RuntimeState) (capSlot : Nat) (requiredRight : Rights)

def findCapParentInSpace (space : CapabilitySpace) (capId : Nat) : Option Nat :=
  (List.finRange maxCaps).findSome? fun slot =>
    (space.caps slot).bind fun cap => if cap.id = capId then some cap.parentCapId else none

def findCapParent (capId : Nat) : Option Nat :=
  (runtime.ledger.capParentFromLineage capId).or <|
    runtime.processes.processes.findSome? fun process =>
      (findCapParentInSpace process.caps capId).or
        (findCapParentInSpace process.initialCaps capId)

/-- Climb the parents of a capability.  Where the steps run out the loop of the
kernel would not end, so that the lookup behind it never succeeds. -/
def capabilityHasRevokedAncestor (cap : Capability) : Bool :=
  (climb runtime.findCapParent runtime.ledger.capIdRevoked 0
    (runtime.ledger.capLineage.length + 1) cap.parentCapId).getD true

/-- The capability may be used: nothing in its chain is revoked, and it is of the
running generation. -/
def CapLive (cap : Capability) : Prop :=
  cap.revoked = false ∧ runtime.ledger.capIdRevoked cap.id = false ∧
    runtime.capabilityHasRevokedAncestor cap = false ∧ cap.generationId = runtime.generationId

instance (runtime : RuntimeState) (cap : Capability) : Decidable (runtime.CapLive cap) :=
  inferInstanceAs (Decidable (_ ∧ _))

def lookupCapability :
    Except IpcError Capability :=
  match runtime.processes.currentProcess.bind fun process => process.caps.lookup capSlot with
  | none => .error .badCapability
  | some cap =>
    if ¬runtime.CapLive cap then .error .badCapability
    else if requiredRight ≠ 0 ∧ ¬Rights.Has cap.rights requiredRight then .error .badCapability
    else .ok cap

def endpointCapFromSlot :
    Except IpcError Capability := do
  let cap ← runtime.lookupCapability capSlot requiredRight
  if (runtime.objects.getEndpoint cap.object).isSome then return cap
  else .error .badCapability

def endpointFromCap :
    Except IpcError KernelObjectId :=
  Capability.object <$> runtime.endpointCapFromSlot capSlot requiredRight

def objectFromCap {α : Type} (runtime : RuntimeState)
    (get : ObjectTable → KernelObjectId → Option α) (capSlot : Nat) (requiredRight : Rights) :
    Except IpcError α := do
  let cap ← runtime.lookupCapability capSlot requiredRight
  (get runtime.objects cap.object).elim (.error .badCapability) .ok

def namespaceFromCap :
    Except IpcError NamespaceObject :=
  runtime.objectFromCap ObjectTable.getNamespace capSlot requiredRight

def processControlFromCap :
    Except IpcError ProcessControlObject :=
  runtime.objectFromCap ObjectTable.getProcessControl capSlot requiredRight

def timerFromCap :
    Except IpcError DeviceObject :=
  runtime.objectFromCap ObjectTable.getTimer capSlot requiredRight

def networkPortFromCap :
    Except IpcError NetworkPortObject :=
  runtime.objectFromCap ObjectTable.getNetworkPort capSlot requiredRight

def interruptLineFromCap :
    Except IpcError InterruptLineObject :=
  runtime.objectFromCap ObjectTable.getInterruptLine capSlot requiredRight

def capSpaceReachesLiveObject (space : CapabilitySpace)
    (object : KernelObjectId) : Bool :=
  (List.finRange maxCaps).any fun slot =>
    (space.caps slot).any fun cap => cap.object = object ∧ runtime.CapLive cap

def objectReachableByCap (object : KernelObjectId) : Bool :=
  runtime.processes.processes.any fun process =>
    process.state ≠ .empty ∧
      ((process.state ≠ .exited ∧ runtime.capSpaceReachesLiveObject process.caps object) ∨
        runtime.capSpaceReachesLiveObject process.initialCaps object)

def releaseUnreferencedDerivedVfsRoot (object : KernelObjectId) :
    RuntimeState :=
  if runtime.objectReachableByCap object then runtime
  else { runtime with objects := runtime.objects.removeDerivedVfsRoot object }

def releaseUnreferencedDerivedVfsRoots : RuntimeState :=
  runtime.objects.derivedVfsRoots.foldl releaseUnreferencedDerivedVfsRoot runtime

end RuntimeState

end VertexOS
