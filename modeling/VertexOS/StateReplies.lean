import VertexOS.BypassingEntries

/-!
# Transactions with the state service

To begin one leaves every endpoint alone but the one that the request goes to.
-/

namespace VertexOS

open ByteStrings ByteImages FailingCalls SlotTables

/-- The step leaves the endpoint alone, whoever begins to wait. -/
def Passes (endpoint : KernelObjectId) (before after : RuntimeState) : Prop :=
  before.Apart endpoint → after.Apart endpoint ∧ before.objects.Leaves endpoint after.objects

variable {endpoint : KernelObjectId} {runtime : RuntimeState} {machine : Machine}

namespace Passes

instance : IsTrans RuntimeState (Passes endpoint) :=
  ⟨fun _ _ _ one two apart => by
    obtain ⟨between, left⟩ := one apart
    obtain ⟨after, leaves⟩ := two between
    exact ⟨after, trans_of _ left leaves⟩⟩

instance : Std.Refl (Passes endpoint) := ⟨fun _ apart => ⟨apart, refl_of _ _⟩⟩

theorem of_bypasses {before after : RuntimeState} (bypasses : Bypasses endpoint before after) :
    Passes endpoint before after :=
  fun apart => ⟨(bypasses apart).apart apart, (bypasses apart).objects⟩

theorem of_always {ε α : Type} {call : Call ε RuntimeState α}
    (bypasses : Always (Bypasses endpoint) call) : Always (Passes endpoint) call :=
  ⟨fun runtime => of_bypasses (bypasses.evolves runtime)⟩

theorem suspend (frame : SyscallFrame) {state : ProcessState}
    (noSync : ¬state.SyncsThrough endpoint) :
    Passes endpoint runtime (runtime.updateCurrent (Process.suspend frame state)) := by
  intro apart
  have related : ProcessTable.Pointwise (fun process now : Process => now.pid = process.pid ∧
      (now.state.SyncsThrough endpoint → process.state.SyncsThrough endpoint)) runtime.processes
      (runtime.processes.updateCurrent (Process.suspend frame state)) := by
    have : Std.Refl fun process now : Process => now.pid = process.pid ∧
        (now.state.SyncsThrough endpoint → process.state.SyncsThrough endpoint) :=
      ⟨fun _ => ⟨rfl, id⟩⟩
    exact ProcessTable.pointwise_updateCurrent fun _ _ => ⟨rfl, (absurd · noSync)⟩
  have known : ∀ process ∈ (runtime.processes.updateCurrent (Process.suspend frame state)).processes,
      ∃ old ∈ runtime.processes.processes, process.pid = old.pid ∧
        (process.state.SyncsThrough endpoint → old.state.SyncsThrough endpoint) := by
    intro process member
    obtain ⟨place, inside, rfl⟩ := List.getElem_of_mem member
    have old : place < runtime.processes.processes.length := related.processes.length_eq ▸ inside
    exact ⟨_, List.getElem_mem old, related.processes.get old inside⟩
  refine ⟨⟨⟨related.nextId ▸ apart.numbered.1, fun process member => ?_⟩, apart.stateRequests,
    apart.deviceRequests, fun process member syncs => ?_⟩, refl_of _ _⟩
  · obtain ⟨old, oldMember, samePid, _⟩ := known process member
    exact samePid ▸ apart.numbered.2 old oldMember
  · obtain ⟨old, oldMember, _, only⟩ := known process member
    exact apart.syncs old oldMember (only syncs)

end Passes

section Beginning

variable {requestEndpoint : KernelObjectId}

theorem bypasses_sendVfsStateRequest (elsewhere : requestEndpoint ≠ endpoint)
    (replyEndpoint : KernelObjectId) (transactionId : Nat) (request : Bytes) :
    Always (Bypasses endpoint)
      (sendVfsStateRequest machine requestEndpoint replyEndpoint transactionId request) := by
  have restores (runtime : RuntimeState) :
      Bypasses endpoint runtime (runtime.restoreCurrentVfsStateWaiter replyEndpoint) := by
    refine .updateCurrent fun process => ?_
    split
    · split
      · exact .of_idle rfl id id
      · exact refl_of _ process
    · exact refl_of _ process
  refine .get_bind fun _ => .fromOption_bind fun _ _ =>
    .bind ((Always.attempt (bypasses_enqueueAt elsewhere ..)).evolves _) fun outcome middle _ => ?_
  cases outcome with
  | error => exact .modify_bind (restores _) (.throw _)
  | ok =>
    refine .modify_bind (middle.bypasses_wakeBlockedReceiver machine elsewhere) <|
      .get_bind <| .set_bind (RuntimeState.bypasses_scheduleNextReadyInner _ machine true true) <|
      .ite (fun _ => .pure _) fun _ => .modify_bind ?_ (.throw _)
    exact (restores _).trans (RuntimeState.bypasses_updateQueue _ elsewhere _)

theorem passes_nextVfsStateTransaction : Always (Passes endpoint) nextVfsStateTransaction :=
  .get_bind fun _ => .require_bind fun _ =>
    .set_bind (fun apart => ⟨⟨apart.numbered, apart.stateRequests, apart.deviceRequests,
      apart.syncs⟩, refl_of _ _⟩) (.pure _)

theorem passes_suspendAndSend (elsewhere : requestEndpoint ≠ endpoint)
    (replyEndpoint : KernelObjectId) (node : VfsNodeId) (description : FileDescriptionId)
    (operation : VfsStateOperation) (transactionId offset destination maxLen writeLen : Nat)
    (updateOffset : Bool) (request : Bytes) :
    Always (Passes endpoint) (do
      modify fun runtime => runtime.updateCurrent (Process.suspend runtime.frame
        (.blockedOnVfsState replyEndpoint node description operation transactionId offset
          destination maxLen writeLen updateOffset))
      sendVfsStateRequest machine requestEndpoint replyEndpoint transactionId request) :=
  .bind (.modify fun runtime => Passes.suspend runtime.frame id) fun _ =>
    Passes.of_always (bypasses_sendVfsStateRequest elsewhere ..)

variable (machine)

theorem passes_startVfsStateTransaction (state : KernelObjectId)
    (node : VfsNode) (description : FileDescriptionId) (operation : VfsStateOperation)
    (offset destination maxLen writeLen : Nat) (updateOffset : Bool) (payload : Bytes) :
    Always (Passes endpoint) (startVfsStateTransaction machine state node description operation
      offset destination maxLen writeLen updateOffset payload) := by
  refine ⟨fun runtime apart => ?_⟩
  refine (.get_bind <| .fromOption_bind fun _ _ => .fromOption_bind fun requestEndpoint installed =>
    .fromOption_bind fun _ _ => .require_bind fun _ =>
    .bind (passes_nextVfsStateTransaction.evolves _) fun _ middle _ =>
    .get_bind <| .require_bind fun _ => ?_ : Evolves (Passes endpoint) _ runtime) apart
  have elsewhere : requestEndpoint ≠ endpoint := fun same => apart.stateRequests (same ▸ installed)
  exact (passes_suspendAndSend elsewhere ..).evolves middle

theorem passes_startVfsServiceReadTransaction (node : VfsNode)
    (description : FileDescriptionId) (offset destination maxLen : Nat) (updateOffset : Bool) :
    Always (Passes endpoint) (startVfsServiceReadTransaction machine node description offset
      destination maxLen updateOffset) := by
  refine ⟨fun runtime apart => ?_⟩
  refine (.get_bind <| .fromOption_bind fun requestEndpoint installed => .fromOption_bind fun _ _ =>
    .bind (passes_nextVfsStateTransaction.evolves _) fun _ middle _ =>
    .get_bind <| .require_bind fun _ => ?_ : Evolves (Passes endpoint) _ runtime) apart
  have elsewhere : requestEndpoint ≠ endpoint := fun same => apart.stateRequests (same ▸ installed)
  exact (passes_suspendAndSend elsewhere ..).evolves middle

theorem passes_vfsStateValueRead (state : KernelObjectId)
    (node : VfsNode) (description : FileDescriptionId) (offset destination maxLen : Nat)
    (updateOffset : Bool) :
    Always (Passes endpoint) (vfsStateValueRead machine state node description offset destination
      maxLen updateOffset) :=
  .ite (Passes.of_always (bypasses_answer _)) <|
    .bind (Passes.of_always (bypasses_of_eq (always_eq_requireWritable ..))) fun _ =>
      passes_startVfsStateTransaction ..

theorem passes_vfsRead (handle destination maxLen : Nat) :
    Always (Passes endpoint) (vfsRead machine handle destination maxLen) := by
  refine .get_bind fun _ => .fromExcept_bind ?_
  rintro ⟨description, node⟩ _
  refine .require_bind fun _ => ?_
  dsimp only
  split
  · exact (Passes.of_always (bypasses_readPipe ..)).evolves _
  · exact (passes_vfsStateValueRead ..).evolves _
  · exact (passes_startVfsServiceReadTransaction ..).evolves _
  · exact (Passes.of_always (.bind (bypasses_vfsReadNode ..) fun _ =>
      .bind (bypasses_setOffset ..) fun _ => bypasses_answer _)).evolves _

theorem passes_vfsPread (handle destination packedLenOffset : Nat) :
    Always (Passes endpoint) (vfsPread machine handle destination packedLenOffset) := by
  refine .get_bind fun _ => .fromExcept_bind ?_
  rintro ⟨description, node⟩ _
  refine .require_bind fun _ => ?_
  dsimp only
  split
  · exact (passes_vfsStateValueRead ..).evolves _
  · exact (passes_startVfsServiceReadTransaction ..).evolves _
  · exact (Passes.of_always (.bind (bypasses_vfsReadNode ..) fun _ => bypasses_answer _)).evolves _

theorem passes_vfsStat (handle destination maxLen : Nat) :
    Always (Passes endpoint) (vfsStat machine handle destination maxLen) := by
  refine .bind (.require ..) fun _ => .get_bind fun _ => .fromExcept_bind ?_
  rintro ⟨description, node⟩ _
  dsimp only
  split
  · exact .reading_bind (always_eq_requireWritable ..) fun _ _ =>
      (passes_startVfsStateTransaction ..).evolves _
  · exact .fromExcept_bind fun _ _ => (Passes.of_always (.bind
      (bypasses_copyOut ..) fun _ => bypasses_answer _)).evolves _

theorem passes_vfsStateWrites (state : KernelObjectId) (node : VfsNode)
    (description : FileDescriptionId) (offset source len : Nat) (updateOffset : Bool) :
    Always (Passes endpoint) (vfsStateValueWrite machine state node description offset source len
      updateOffset) ∧
    Always (Passes endpoint) (vfsStateControlWrite machine state node description offset source len
      updateOffset) := by
  have reads : Always (Passes endpoint) (copyFromUser machine source len) :=
    Passes.of_always (bypasses_of_eq (always_eq_copyFromUser ..))
  constructor
  · exact .bind (.require ..) fun _ => .bind (.require ..) fun _ => .bind reads fun _ =>
      passes_startVfsStateTransaction ..
  · exact .bind (.require ..) fun _ => .bind reads fun _ => .bind (.require ..) fun _ =>
      passes_startVfsStateTransaction ..

theorem passes_vfsWrite (handle source len : Nat) :
    Always (Passes endpoint) (vfsWrite machine handle source len) := by
  refine .get_bind fun _ => .fromExcept_bind ?_
  rintro ⟨description, node⟩ _
  dsimp only
  split
  · exact .require_bind fun _ => .require_bind fun _ => (passes_vfsStateWrites ..).2.evolves _
  · exact .require_bind fun _ => .require_bind fun _ => (passes_vfsStateWrites ..).1.evolves _
  · refine .require_bind fun _ => .require_bind fun _ =>
      .reading_bind (always_eq_copyFromUser ..) fun _ _ => ?_
    split
    on_goal 1 => refine .get_bind <| .fromExcept_bind fun _ _ => ?_
    all_goals exact Always.evolves (Passes.of_always <| .bind (bypasses_vfsWriteNode ..) fun _ =>
      .get_bind fun _ => .require_bind fun _ => .modify_bind (.updateVfs _)
        ((bypasses_answer _).evolves _)) _

theorem passes_vfsPwrite (handle source packedLenOffset : Nat) :
    Always (Passes endpoint) (vfsPwrite machine handle source packedLenOffset) := by
  refine .get_bind fun _ => .fromExcept_bind ?_
  rintro ⟨description, node⟩ _
  dsimp only
  split
  · exact .require_bind fun _ => (passes_vfsStateWrites ..).2.evolves _
  · exact .require_bind fun _ => (passes_vfsStateWrites ..).1.evolves _
  · exact .require_bind fun _ => .require_bind fun _ =>
      .reading_bind (always_eq_copyFromUser ..) fun _ _ =>
      (Passes.of_always (.bind (bypasses_vfsWriteNode ..) fun _ =>
        bypasses_answer _)).evolves _

end Beginning

def Syscall.Exchanges : Syscall → Prop
  | .ipcSend => True
  | .ipcRecv => True
  | .ipcRecvTimeout => True
  | _ => False

section

theorem passes_answering {call : KernelCall Nat} (inner : Always (Bypasses endpoint) call) :
    Always (Passes endpoint) (answering call) :=
  Passes.of_always (.bind inner fun _ => bypasses_answer _)

theorem passes_succeeding {call : KernelCall Unit}
    (inner : Always (Bypasses endpoint) call) : Always (Passes endpoint) (succeeding call) :=
  Passes.of_always (.bind inner fun _ => bypasses_answer _)

theorem passes_syscallBody {number : Syscall} (noExchange : ¬number.Exchanges)
    (arg0 arg1 arg2 : Nat) :
    Always (Passes endpoint) (syscallBody machine number arg0 arg1 arg2) := by
  cases number with
  | ipcSend | ipcRecv | ipcRecvTimeout => exact absurd trivial noExchange
  | sleepMs => exact Passes.of_always (bypasses_sleepMs ..)
  | capDerive => exact passes_succeeding (bypasses_capDeriveInto ..)
  | capDrop => exact passes_succeeding (bypasses_capDrop _)
  | capTransfer => exact passes_succeeding (bypasses_capTransfer ..)
  | capRevoke => exact passes_succeeding (bypasses_capRevoke _)
  | capMove => exact passes_succeeding (bypasses_capMove ..)
  | capCopy => exact passes_succeeding (bypasses_capDeriveInto ..)
  | endpointCreate => exact passes_succeeding (bypasses_endpointCreate ..)
  | quotaDelegate => exact passes_succeeding (bypasses_quotaDelegate ..)
  | namespaceResolve => exact passes_succeeding (bypasses_namespaceResolve ..)
  | processCreate => exact passes_answering (bypasses_createProcess ..)
  | processStart => exact passes_succeeding (bypasses_startProcess ..)
  | processWait => exact passes_answering (bypasses_processWait ..)
  | processKill => exact passes_succeeding (bypasses_killProcess ..)
  | networkSendUdp => exact passes_succeeding (bypasses_networkSendUdp ..)
  | networkRecvUdp => exact Passes.of_always (bypasses_networkRecvUdp ..)
  | irqWait => exact Passes.of_always (bypasses_irqWait ..)
  | vfsOpen => exact passes_answering (bypasses_vfsOpen ..)
  | vfsRead => exact passes_vfsRead ..
  | vfsClose => exact passes_succeeding (bypasses_vfsClose _)
  | vfsStat => exact passes_vfsStat ..
  | vfsSeek => exact passes_answering (bypasses_vfsSeek ..)
  | vfsPread => exact passes_vfsPread ..
  | vfsWrite => exact passes_vfsWrite ..
  | vfsPwrite => exact passes_vfsPwrite ..
  | vfsSync => exact Passes.of_always (bypasses_vfsSync ..)
  | vfsDup => exact passes_answering (bypasses_vfsDup ..)
  | vfsCreate => exact passes_succeeding (bypasses_vfsCreate ..)
  | vfsUnlink => exact passes_succeeding (bypasses_vfsUnlink ..)
  | vfsDeriveRoot => exact passes_succeeding (bypasses_vfsDeriveRoot ..)
  | vfsLock => exact passes_succeeding (bypasses_vfsLock ..)
  | vfsUnlock => exact passes_succeeding (bypasses_vfsUnlock _)
  | vfsReaddir => exact passes_answering (bypasses_vfsReaddir ..)
  | vfsMount => exact passes_succeeding (bypasses_vfsMount ..)
  | vfsUnmount => exact passes_succeeding (bypasses_vfsUnmount ..)
  | vfsRename => exact passes_succeeding (bypasses_vfsRename ..)
  | vfsMkdir => exact passes_succeeding (bypasses_vfsMkdir ..)
  | vfsRmdir => exact passes_succeeding (bypasses_vfsRmdir ..)
  | vfsLink => exact passes_succeeding (bypasses_vfsLink ..)
  | vfsWatch => exact passes_answering (bypasses_vfsWatch ..)
  | outside =>
    exact Passes.of_always (.bind (bypasses_copyOut ..) fun _ => bypasses_answer _)

theorem evolves_dispatch {R : RuntimeState → RuntimeState → Prop} [IsTrans RuntimeState R]
    [Std.Refl R] {number : Syscall} {arg0 arg1 arg2 : Nat} {runtime : RuntimeState}
    (answers : ∀ value, Always R (answer value))
    (body : Evolves R (syscallBody machine number arg0 arg1 arg2) runtime) :
    Evolves R (syscallDispatch machine number arg0 arg1 arg2) runtime := by
  refine .bind (.attempt body) fun outcome after _ => ?_
  cases outcome with
  | ok => exact .pure _
  | error => exact (answers _).evolves after

end

end VertexOS
