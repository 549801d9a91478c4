import VertexOS.GenerationRuns
import Mathlib.Data.Multiset.UnionInter

/-!
# What a switch takes apart

The address spaces that a switch takes apart are listed when the new generation is staged.  Calls
between staging and activation may create and end processes, and the list does not follow them.
-/

namespace VertexOS

open ByteStrings FailingCalls

/-- Between staging and activating: any entry of the kernel, and the generation calls
that neither stage nor switch. -/
inductive Interlude where
  | entry (entry : Entry)
  | verify (machine : SwitchMachine) (capSlot generation len : Nat)
  | markKnownGood (machine : SwitchMachine) (capSlot generation len : Nat)

namespace GenerationState

variable (state : GenerationState)

def pass : Interlude → GenerationState
  | .entry entry => { state with runtime := ((⟨state.runtime, false⟩ : Kernel).step entry).runtime }
  | .verify machine capSlot generation len =>
    state.serve ⟨.verify, machine, capSlot, generation, len⟩
  | .markKnownGood machine capSlot generation len =>
    state.serve ⟨.markKnownGood, machine, capSlot, generation, len⟩

def liveSpaces : List Nat :=
  state.runtime.reapTargets.map RuntimeReapTarget.cr3

/-- The address spaces that come into use over the interludes, one by one. -/
def begun : GenerationState → List Interlude → Multiset Nat
  | _, [] => 0
  | state, first :: rest =>
    ((state.pass first).liveSpaces - state.liveSpaces : Multiset Nat) + begun (state.pass first) rest

/-- The address spaces that go out of use over the interludes, one by one. -/
def ended : GenerationState → List Interlude → Multiset Nat
  | _, [] => 0
  | state, first :: rest =>
    (state.liveSpaces - (state.pass first).liveSpaces : Multiset Nat) + ended (state.pass first) rest

variable {state : GenerationState}

end GenerationState

end VertexOS
