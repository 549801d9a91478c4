import VertexOS.DeadReplies

/-!
# Requests to the state service

The kernel turns reads and writes of state volumes, and reads of the service's own report, into
messages for the state service, which has a parser for each of the two kinds.  What the kernel
sends is read by the parser it is meant for and refused by the other.
-/

namespace VertexOS.StateService

open ByteStrings FailingCalls

section

variable {transactionId node description : Nat} (stale : Bytes)

end

section Kernel

variable (machine : Machine) (runtime : RuntimeState)

/-- A call leaves all queues as they are, or it sends the state service one request, which is
read in this way. -/
def Sends (reading : Bytes → Prop) (ended : Except IpcError Unit × RuntimeState) : Prop :=
  ended.2.objects = runtime.objects ∨
    ∃ requestEndpoint replyEndpoint transactionId request middle,
      runtime.installed.stateVfsRequestEndpoint = some requestEndpoint ∧
      middle.objects = runtime.objects ∧ reading request ∧
      ended = exec (sendVfsStateRequest machine requestEndpoint replyEndpoint transactionId
        request) middle

variable {machine runtime} in
theorem Sends.imp {reading other : Bytes → Prop} {ended : Except IpcError Unit × RuntimeState}
    (sends : Sends machine runtime reading ended) (weaker : ∀ request, reading request →
      other request) : Sends machine runtime other ended := by
  rcases sends with same | ⟨requestEndpoint, replyEndpoint, id, request, middle, at', same, reads, run⟩
  · exact .inl same
  · exact .inr ⟨requestEndpoint, replyEndpoint, id, request, middle, at', same, weaker _ reads, run⟩

variable (state : KernelObjectId) (node : VfsNode) (description : FileDescriptionId)
  (operation : VfsStateOperation) (offset destination maxLen writeLen source len : Nat)
  (updateOffset : Bool) {payload : Bytes}

variable {requestEndpoint replyEndpoint : KernelObjectId} {reading : Bytes → Prop}

end Kernel

end VertexOS.StateService
