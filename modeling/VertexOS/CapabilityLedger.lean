import VertexOS.FailingCalls
import VertexOS.ParentForest
import VertexOS.VfsPaths

/-!
# The ledger of capability identifiers

Every capability gets the next identifier and one entry in the lineage table,
which names the capability it came from.  A revocation adds one identifier to a
second table and then goes over the lineage until no child of a revoked parent is missing.
-/

namespace VertexOS

open FailingCalls ParentForest

def maxCapLineage : Nat := 1024

def maxRevokedCaps : Nat := maxCapLineage

/-- The capability `child` was made from `parent`; zero stands for no parent. -/
abbrev CapabilityLineage := Link Nat

structure CapabilityLedger where
  nextCapId : Nat
  revokedCaps : List Nat
  capLineage : List CapabilityLineage
  revoked_le : revokedCaps.length ≤ maxRevokedCaps
  lineage_le : capLineage.length ≤ maxCapLineage

namespace CapabilityLedger

variable (ledger : CapabilityLedger)

def empty : CapabilityLedger := ⟨1, [], [], by decide, by decide⟩

def canAllocateCapability : Bool :=
  ledger.nextCapId ≠ 0 ∧ ledger.nextCapId ≠ 2 ^ 64 - 1 ∧
    ledger.capLineage.length < maxCapLineage

def allocate (parentCapId : Nat) :
    Except IpcError (Nat × CapabilityLedger) :=
  if ledger.nextCapId = 0 ∨ ledger.nextCapId = 2 ^ 64 - 1 then .error .badCapability
  else if room : ledger.capLineage.length < maxCapLineage then
    .ok (ledger.nextCapId, { ledger with
      nextCapId := ledger.nextCapId + 1
      capLineage := ledger.capLineage ++ [⟨ledger.nextCapId, parentCapId⟩]
      lineage_le := by simpa using room })
  else .error .badCapability

def rollbackLastCapability (capId : Nat) : CapabilityLedger :=
  { ledger with
    nextCapId := if ledger.nextCapId = capId + 1 then capId else ledger.nextCapId
    capLineage :=
      if ledger.capLineage.getLast?.any fun entry => entry.child = capId then
        ledger.capLineage.dropLast
      else ledger.capLineage
    lineage_le := by
      have := ledger.lineage_le
      split <;> simp <;> omega }

def capParentFromLineage (capId : Nat) : Option Nat :=
  (ledger.capLineage.find? fun entry => entry.child = capId).map Link.parent

def capIdRevoked (capId : Nat) : Bool :=
  capId ∈ ledger.revokedCaps

/-- An identifier or one above it is revoked.  Where the steps run out the loop of
the kernel would not end, so that nothing behind it happens. -/
def capIdRevokedOrHasRevokedAncestor (capId : Nat) : Bool :=
  (climb ledger.capParentFromLineage ledger.capIdRevoked 0 (ledger.capLineage.length + 1)
    capId).getD true

end CapabilityLedger

def addRevokedCap (capId : Nat) : Call IpcError CapabilityLedger Bool := do
  let ledger ← get
  if capId = 0 ∨ ledger.capIdRevoked capId then return false
  else if room : ledger.revokedCaps.length < maxRevokedCaps then
    set { ledger with
      revokedCaps := ledger.revokedCaps ++ [capId]
      revoked_le := by simpa using room : CapabilityLedger }
    return true
  else throw .badCapability

/-- Revoke the child of a lineage entry if its parent is revoked. -/
def revokeChild (entry : CapabilityLineage) : Call IpcError CapabilityLedger Bool := do
  let ledger ← get
  if entry.parent ≠ 0 ∧ ledger.capIdRevoked entry.parent then addRevokedCap entry.child
  else return false

/-- One pass over the lineage: revoke the children of revoked parents. -/
def revokePass : List CapabilityLineage → Call IpcError CapabilityLedger Bool
  | [] => return false
  | entry :: rest => do
    let added ← revokeChild entry
    let changed ← revokePass rest
    return added || changed

/-- Passes over the lineage until one of them changes nothing. -/
def revokePasses : Nat → Call IpcError CapabilityLedger Unit
  | 0 => throw .badCapability
  | passes + 1 => do
    let changed ← revokePass (← get).capLineage
    if changed then revokePasses passes else return ()

def revokeDescendants (capId : Nat) : Call IpcError CapabilityLedger Unit := do
  require .badCapability (capId ≠ 0)
  let _ ← addRevokedCap capId
  revokePasses (maxRevokedCaps + 1)

end VertexOS
