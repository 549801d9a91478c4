import VertexOS.FileEffects
import VertexOS.KernelRuns
import VertexOS.ObjectFrames

/-!
# What leaves an endpoint of the boot alone

A step bypasses an endpoint of the boot if its queue stays as it is, no process begins a
transaction with the state service, and the counter of transactions stands.  Nearly
every step of the kernel does.
-/

namespace VertexOS

open ByteStrings FailingCalls SlotTables

variable (machine : Machine) {endpoint : KernelObjectId}

theorem always_eq_copyFromUser (source len : Nat) : Always Eq (copyFromUser machine source len) :=
  .fromOption ..

theorem always_eq_requireWritable (destination len : Nat) :
    Always Eq (requireWritable machine destination len) :=
  .get_bind fun _ => (Always.require ..).evolves _

theorem always_eq_openDirectory (handle : Nat) : Always Eq (openDirectory handle) :=
  .get_bind fun _ => .fromExcept_bind fun _ _ => .require_bind fun _ => .require_bind fun _ => .pure _

theorem always_eq_rootCapability (capSlot : Nat) : Always Eq (rootCapability capSlot) :=
  .get_bind fun _ => (Always.fromExcept _).evolves _

theorem always_eq_twoPathRequest (request requestLen : Nat) :
    Always Eq (twoPathRequest machine request requestLen) :=
  .bind (.require ..) fun _ => .bind (always_eq_copyFromUser ..) fun _ => .bind (.require ..) fun _ =>
    .bind (.require ..) fun _ => .pure _

theorem always_eq_requireOneMount (oldPath newParentPath : Bytes) :
    Always Eq (requireOneMount oldPath newParentPath) :=
  .get_bind fun _ => .fromOption_bind fun _ _ => .fromOption_bind fun _ _ =>
    (Always.require ..).evolves _

theorem always_eq_fileNodeAt (path : Bytes) : Always Eq (fileNodeAt path) :=
  .get_bind fun _ => .fromOption_bind fun _ _ => .require_bind fun _ => .pure _

namespace ProcessState

def InTransaction : ProcessState → Prop
  | .blockedOnVfsState .. => True
  | _ => False

def SyncsThrough (endpoint : KernelObjectId) : ProcessState → Prop
  | .blockedOnVertexFsSync requestEndpoint _ _ _ _ _ _ _ => requestEndpoint = endpoint
  | _ => False

end ProcessState

/-- The process begins no transaction and no sync through the endpoint. -/
structure Process.Eased (endpoint : KernelObjectId) (process after : Process) : Prop where
  pid : after.pid = process.pid
  waits : after.state.InTransaction → after.state = process.state
  syncs : after.state.SyncsThrough endpoint → process.state.SyncsThrough endpoint

namespace Process.Eased

variable {process after : Process}

instance : Std.Refl (Process.Eased endpoint) := ⟨fun _ => ⟨rfl, fun _ => rfl, id⟩⟩

theorem of_state (pid : after.pid = process.pid) (state : after.state = process.state) :
    Process.Eased endpoint process after :=
  ⟨pid, fun _ => state, fun syncs => state ▸ syncs⟩

theorem of_idle (pid : after.pid = process.pid) (noTransaction : ¬after.state.InTransaction)
    (noSync : ¬after.state.SyncsThrough endpoint) : Process.Eased endpoint process after :=
  ⟨pid, (absurd · noTransaction), (absurd · noSync)⟩

theorem wakeWith (status : Nat) (process : Process) :
    Process.Eased endpoint process (process.wakeWith status) :=
  of_idle rfl id id

theorem wakeTimed (now : Tsc) (process : Process) :
    Process.Eased endpoint process (process.wakeTimed now) := by
  unfold Process.wakeTimed
  cases process.timedOut now with
  | none => exact refl_of _ process
  | some status => exact wakeWith status process

end Process.Eased

namespace ProcessTable

/-- Every process has a number, and so will the next one. -/
def Numbered (table : ProcessTable) : Prop :=
  0 < table.nextId ∧ ∀ process ∈ table.processes, process.pid ≠ .empty

/-- No process begins a transaction or a sync through the endpoint. -/
structure Eases (endpoint : KernelObjectId) (table after : ProcessTable) : Prop where
  numbered : table.Numbered → after.Numbered
  known : ∀ process ∈ after.processes,
    (∃ old ∈ table.processes, old.Eased endpoint process) ∨
      ¬process.state.InTransaction ∧ ¬process.state.SyncsThrough endpoint

variable {table after : ProcessTable}

theorem Eases.of_pointwise (pointwise : Pointwise (Process.Eased endpoint) table after) :
    Eases endpoint table after := by
  have known : ∀ process ∈ after.processes,
      ∃ old ∈ table.processes, old.Eased endpoint process := by
    intro process member
    obtain ⟨place, inside, rfl⟩ := List.getElem_of_mem member
    have old : place < table.processes.length := pointwise.processes.length_eq ▸ inside
    exact ⟨_, List.getElem_mem old, pointwise.processes.get old inside⟩
  refine ⟨fun ⟨counted, numbered⟩ => ⟨pointwise.nextId ▸ counted, fun process member => ?_⟩,
    fun process member => .inl (known process member)⟩
  obtain ⟨old, oldMember, eased⟩ := known process member
  exact eased.pid ▸ numbered old oldMember

theorem eases_switchTo (index : Nat) (next : ProcessId) :
    Eases endpoint table { table.updateAt index fun process =>
    { process with state := .running } with current := some next } := by
  have eases : Eases endpoint table
      (table.updateAt index fun process => { process with state := .running }) :=
    .of_pointwise (pointwise_updateAt fun _ _ => .of_idle rfl id id)
  exact ⟨eases.numbered, eases.known⟩

variable {pid : ProcessId}

theorem eases_addProcess {name : String} {context : ProcessContext} {imageBase imageLength : Nat}
    {caps : CapabilitySpace} {mountRoot : VfsPath}
    (added : table.addProcess name context imageBase imageLength .declared caps mountRoot =
      .ok (pid, after)) : Eases endpoint table after := by
  unfold addProcess at added
  split at added
  · cases added
  · cases added
    refine ⟨fun ⟨counted, numbered⟩ => ⟨Nat.succ_pos _, fun process member => ?_⟩,
      fun process member => ?_⟩
    · rcases List.mem_append.mp member with old | new
      · exact numbered process old
      · obtain rfl := List.mem_singleton.mp new
        exact fun isEmpty => absurd (congrArg ProcessId.raw isEmpty) counted.ne'
    · rcases List.mem_append.mp member with old | new
      · exact .inl ⟨process, old, refl_of _ process⟩
      · obtain rfl := List.mem_singleton.mp new
        exact .inr ⟨id, id⟩

theorem Eases.of_sublist {nextId : Nat} {processes : List Process}
    (counted : table.Numbered → 0 < nextId) (sublist : processes.Sublist table.processes) :
    Eases endpoint table { table with processes, nextId } :=
  ⟨fun numbered => ⟨counted numbered, fun process member => numbered.2 process (sublist.mem member)⟩,
    fun process member => .inl ⟨process, sublist.mem member, refl_of _ process⟩⟩

theorem eases_removeProcess (removed : table.removeProcess pid = .ok after) :
    Eases endpoint table after := by
  unfold removeProcess at removed
  split at removed
  · cases removed
  · split at removed
    · cases removed
    · cases removed
      exact .of_sublist And.left List.eraseP_sublist

theorem eases_removeLastProcess (removed : table.removeLastProcess pid = .ok after) :
    Eases endpoint table after := by
  unfold removeLastProcess at removed
  split at removed
  · cases removed
  · rename_i process isLast
    split at removed
    · rename_i isPid
      cases removed
      refine .of_sublist (fun numbered => ?_) (List.dropLast_sublist _)
      have someone := numbered.2 process (List.mem_of_getLast? isLast)
      have positive : 0 < pid.raw :=
        Nat.pos_of_ne_zero fun zero => someone (isPid.trans (ProcessId.ext zero))
      split
      · exact positive
      · exact numbered.1
    · cases removed

end ProcessTable

/-- The endpoint takes no requests of the kernel. -/
structure RuntimeState.Apart (runtime : RuntimeState) (endpoint : KernelObjectId) : Prop where
  numbered : runtime.processes.Numbered
  stateRequests : runtime.installed.stateVfsRequestEndpoint ≠ some endpoint
  deviceRequests : runtime.installed.vertexfsDeviceRequestEndpoint ≠ some endpoint
  syncs : ∀ process ∈ runtime.processes.processes, ¬process.state.SyncsThrough endpoint

/-- What is left of a state by a step that bypasses an endpoint. -/
structure Bypassed (endpoint : KernelObjectId) (before after : RuntimeState) : Prop where
  installed : after.installed = before.installed
  transactionId : after.nextVfsStateTransactionId = before.nextVfsStateTransactionId
  processes : before.processes.Eases endpoint after.processes
  objects : before.objects.Leaves endpoint after.objects

/-- The step leaves the queue of the endpoint and the transactions of the state
service alone, as long as the kernel sends no requests there. -/
def Bypasses (endpoint : KernelObjectId) (before after : RuntimeState) : Prop :=
  before.Apart endpoint → Bypassed endpoint before after

variable {before middle after : RuntimeState}

namespace Bypassed

theorem apart (bypassed : Bypassed endpoint before after) (apart : before.Apart endpoint) :
    after.Apart endpoint := by
  refine ⟨bypassed.processes.numbered apart.numbered, bypassed.installed ▸ apart.stateRequests,
    bypassed.installed ▸ apart.deviceRequests, fun process member syncs => ?_⟩
  rcases bypassed.processes.known process member with ⟨old, oldMember, eased⟩ | ⟨_, noSync⟩
  · exact apart.syncs old oldMember (eased.syncs syncs)
  · exact noSync syncs

theorem trans (one : Bypassed endpoint before middle) (two : Bypassed endpoint middle after) :
    Bypassed endpoint before after where
  installed := two.installed.trans one.installed
  transactionId := two.transactionId.trans one.transactionId
  processes :=
    { numbered := two.processes.numbered ∘ one.processes.numbered
      known := fun process member => by
        rcases two.processes.known process member with ⟨between, betweenMember, eased⟩ | idle
        · rcases one.processes.known between betweenMember with ⟨old, oldMember, easedOld⟩ |
            ⟨noTransaction, noSync⟩
          · refine .inl ⟨old, oldMember, eased.pid.trans easedOld.pid, fun waits => ?_,
              easedOld.syncs ∘ eased.syncs⟩
            have same := eased.waits waits
            exact same.trans (easedOld.waits (same ▸ waits))
          · exact .inr ⟨fun waits => noTransaction (eased.waits waits ▸ waits),
              noSync ∘ eased.syncs⟩
        · exact .inr idle }
  objects := trans_of _ one.objects two.objects

end Bypassed

namespace Bypasses

protected theorem refl (runtime : RuntimeState) : Bypasses endpoint runtime runtime :=
  fun _ => ⟨rfl, rfl, .of_pointwise (.refl _), refl_of _ _⟩

protected theorem trans (one : Bypasses endpoint before middle)
    (two : Bypasses endpoint middle after) : Bypasses endpoint before after :=
  fun apart => (one apart).trans (two ((one apart).apart apart))

instance : IsTrans RuntimeState (Bypasses endpoint) := ⟨fun _ _ _ => .trans⟩

instance : Std.Refl (Bypasses endpoint) := ⟨.refl⟩

variable {runtime : RuntimeState}

theorem of_same (installed : after.installed = before.installed)
    (transactionId : after.nextVfsStateTransactionId = before.nextVfsStateTransactionId)
    (processes : after.processes = before.processes) (objects : after.objects = before.objects) :
    Bypasses endpoint before after :=
  fun _ => ⟨installed, transactionId, processes ▸ .of_pointwise (.refl _), objects ▸ refl_of _ _⟩

theorem of_objects {objects : ObjectTable} (leaves : runtime.objects.Leaves endpoint objects) :
    Bypasses endpoint runtime { runtime with objects } :=
  fun _ => ⟨rfl, rfl, .of_pointwise (.refl _), leaves⟩

theorem of_processes {processes : ProcessTable}
    (eases : runtime.processes.Eases endpoint processes) :
    Bypasses endpoint runtime { runtime with processes } :=
  fun _ => ⟨rfl, rfl, eases, refl_of _ _⟩

theorem of_pointwise {processes : ProcessTable}
    (pointwise : ProcessTable.Pointwise (Process.Eased endpoint) runtime.processes processes) :
    Bypasses endpoint runtime { runtime with processes } :=
  of_processes (.of_pointwise pointwise)

section

variable {change : Process → Process}
  (eased : ∀ process, Process.Eased endpoint process (change process))

include eased

theorem updateCurrent : Bypasses endpoint runtime (runtime.updateCurrent change) :=
  of_pointwise (ProcessTable.pointwise_updateCurrent fun process _ => eased process)

theorem updateAt (index : Nat) :
    Bypasses endpoint runtime (runtime.updateProcesses fun table => table.updateAt index change) :=
  of_pointwise (ProcessTable.pointwise_updateAt fun process _ => eased process)

theorem updateAll :
    Bypasses endpoint runtime (runtime.updateProcesses fun table => table.updateAll change) :=
  of_pointwise (ProcessTable.pointwise_updateAll eased)

theorem updateProcess (pid : ProcessId) :
    Bypasses endpoint runtime (runtime.updateProcess pid change) :=
  of_pointwise (ProcessTable.pointwise_update fun process _ => eased process)

end

theorem updateVfs (change : VfsState → VfsState) :
    Bypasses endpoint runtime (runtime.updateVfs change) :=
  of_same rfl rfl rfl rfl

theorem wakeAt (index status : Nat) :
    Bypasses endpoint runtime
      (runtime.updateProcesses fun table => table.updateAt index (Process.wakeWith status)) :=
  updateAt (.wakeWith status) index

theorem resume :
    Bypasses endpoint runtime
      (runtime.updateCurrent fun process => { process with state := .running }) :=
  updateCurrent fun _ => .of_idle rfl id id

end Bypasses

namespace RuntimeState

section

variable {R : RuntimeState → RuntimeState → Prop} [Std.Refl R] [IsTrans RuntimeState R]
  (wakes : ∀ (runtime : RuntimeState) now, R runtime (runtime.wakeTimedProcesses now))
  (interrupts : ∀ (runtime : RuntimeState) line, R runtime (runtime.recordHardwareIrq line))
  (runtime : RuntimeState)
include wakes interrupts

theorem related_waitUntilDeadline (deadline : Tsc) (includeCurrent : Bool)
    (rounds : List WaitRound) :
    R runtime (waitUntilDeadline deadline includeCurrent rounds runtime) := by
  have takes (runtime : RuntimeState) (round : WaitRound) :
      R runtime (runtime.takeInterrupt round) := by
    unfold takeInterrupt
    cases round.line with
    | none => exact wakes runtime _
    | some line => exact trans_of R (interrupts runtime line) (wakes _ _)
  induction rounds generalizing runtime with
  | nil => exact refl_of R runtime
  | cons round rest ih =>
    unfold waitUntilDeadline
    split
    · exact refl_of R runtime
    · split
      · exact wakes runtime _
      · exact trans_of R (trans_of R (wakes runtime _) (takes _ round)) (ih _)

theorem related_scheduleNextReadyInner
    (switches : ∀ (runtime : RuntimeState) index next, R runtime (runtime.switchTo index next))
    (machine : Machine) (includeCurrent waitForDeadline : Bool) :
    R runtime (runtime.scheduleNextReadyInner machine includeCurrent waitForDeadline).2 := by
  have ready : R runtime (runtime.readyForSwitch machine includeCurrent waitForDeadline) := by
    unfold readyForSwitch
    dsimp only
    split
    · split
      · exact wakes runtime _
      · exact trans_of R (wakes runtime _) (trans_of R
          (related_waitUntilDeadline wakes interrupts _ _ _ _) (wakes _ _))
    · exact wakes runtime _
  unfold scheduleNextReadyInner
  dsimp only
  split
  · exact ready
  · exact trans_of R ready (switches _ _ _)

end

variable (runtime : RuntimeState) (machine : Machine)
  (includeCurrent waitForDeadline : Bool)

theorem bypasses_wakeTimedProcesses (now : Tsc) :
    Bypasses endpoint runtime (runtime.wakeTimedProcesses now) :=
  .updateAll (.wakeTimed now)

theorem bypasses_recordHardwareIrq (irqLine : Nat) :
    Bypasses endpoint runtime (runtime.recordHardwareIrq irqLine) := by
  unfold recordHardwareIrq
  split
  · exact .refl runtime
  rename_i line _
  split
  · rename_i index _
    exact (Bypasses.wakeAt index statusOk).trans
      (.of_objects (ObjectTable.leaves_setLineCounts _ _ _))
  · exact .of_objects (ObjectTable.leaves_setLineCounts _ _ _)

theorem bypasses_switchTo (index : Nat) (next : Process) :
    Bypasses endpoint runtime (runtime.switchTo index next) :=
  fun _ => ⟨rfl, rfl, ProcessTable.eases_switchTo index next.pid, refl_of _ _⟩

theorem bypasses_scheduleNextReadyInner :
    Bypasses endpoint runtime
      (runtime.scheduleNextReadyInner machine includeCurrent waitForDeadline).2 :=
  related_scheduleNextReadyInner bypasses_wakeTimedProcesses bypasses_recordHardwareIrq
    runtime bypasses_switchTo machine includeCurrent waitForDeadline

theorem bypasses_suspendCurrent (frame : SyscallFrame) {state : ProcessState}
    (noTransaction : ¬state.InTransaction) (noSync : ¬state.SyncsThrough endpoint) :
    Bypasses endpoint runtime (runtime.suspendCurrent machine frame state).2 := by
  have suspended : Bypasses endpoint runtime
      (runtime.updateCurrent (Process.suspend frame state)) :=
    .updateCurrent fun _ => .of_idle rfl noTransaction noSync
  have scheduled : Bypasses endpoint runtime
      ((runtime.updateCurrent (Process.suspend frame state)).scheduleNextReady machine).2 :=
    suspended.trans (bypasses_scheduleNextReadyInner _ machine true true)
  unfold suspendCurrent
  dsimp only
  split
  · exact scheduled
  · exact scheduled.trans .resume

theorem bypasses_blockCurrent {state : ProcessState} (noTransaction : ¬state.InTransaction)
    (noSync : ¬state.SyncsThrough endpoint) :
    Bypasses endpoint runtime (runtime.blockCurrent machine state).2 := by
  unfold blockCurrent
  split
  · exact .refl runtime
  · exact runtime.bypasses_suspendCurrent machine _ noTransaction noSync

theorem bypasses_recordReadyLifecycle (other : KernelObjectId) (receiver : ProcessId)
    (message : IpcMessage) :
    Bypasses endpoint runtime (runtime.recordReadyLifecycle other receiver message) := by
  unfold recordReadyLifecycle
  dsimp only
  split
  · exact .of_same rfl rfl rfl rfl
  · exact .refl runtime

variable {runtime} in
theorem bypasses_copyToUser {machine : Machine} {pid : ProcessId} {destination : Nat}
    {bytes : Bytes} {after : RuntimeState}
    (copies : runtime.copyToUser machine pid destination bytes = some after) :
    Bypasses endpoint runtime after := by
  unfold copyToUser at copies
  split at copies
  · cases copies
    exact .of_same rfl rfl rfl rfl
  · cases copies

section

variable {other : KernelObjectId} (apart : other ≠ endpoint)

include apart

theorem bypasses_setEndpointQueue (queue : MessageQueue) :
    Bypasses endpoint runtime
      { runtime with objects := runtime.objects.setEndpointQueue other queue } :=
  .of_objects (ObjectTable.leaves_setEndpointQueue apart queue)

theorem bypasses_updateQueue (change : MessageQueue → MessageQueue) :
    Bypasses endpoint runtime (runtime.updateQueue other change) := by
  unfold updateQueue
  split
  · exact .refl runtime
  · exact runtime.bypasses_setEndpointQueue apart _

variable {runtime} in
theorem bypasses_dequeueAt {dequeue : MessageQueue → Option (IpcMessage × MessageQueue)}
    {message : IpcMessage} {after : RuntimeState}
    (taken : runtime.dequeueAt other dequeue = some (message, after)) :
    Bypasses endpoint runtime after := by
  obtain ⟨object, _, taken⟩ := Option.bind_eq_some_iff.mp taken
  obtain ⟨⟨_, queue⟩, _, same⟩ := Option.map_eq_some_iff.mp taken
  cases same
  exact runtime.bypasses_setEndpointQueue apart queue

end

theorem bypasses_deliver (index : Nat) (other : KernelObjectId) (waiter : Process)
    (destination maxLen : Nat) (message : IpcMessage) :
    Bypasses endpoint runtime
      (runtime.deliver machine index other waiter destination maxLen message) := by
  unfold deliver
  dsimp only
  split
  · rename_i copies
    exact ((bypasses_copyToUser copies).trans (Bypasses.wakeAt _ _)).trans
      (bypasses_recordReadyLifecycle _ _ _ _)
  · exact .wakeAt _ _

theorem bypasses_wakeReceivers {other : KernelObjectId} (apart : other ≠ endpoint) (rounds : Nat) :
    Bypasses endpoint runtime (wakeReceivers machine other rounds runtime) := by
  induction rounds generalizing runtime with
  | zero => exact .refl runtime
  | succ rounds ih =>
    unfold wakeReceivers
    split
    · exact .refl runtime
    split
    · split
      · split
        · exact .refl runtime
        · rename_i taken
          exact (bypasses_dequeueAt apart taken).trans (bypasses_deliver _ _ _ _ _ _ _ _)
      · exact (Bypasses.wakeAt _ _).trans (ih _)
    · exact .refl runtime

theorem bypasses_wakeBlockedReceiver {other : KernelObjectId} (apart : other ≠ endpoint) :
    Bypasses endpoint runtime (runtime.wakeBlockedReceiver machine other) :=
  (runtime.bypasses_wakeTimedProcesses _).trans (bypasses_wakeReceivers _ machine apart _)

theorem bypasses_cancelReceiversWhere (status : Nat)
    (refused : Process → KernelObjectId → Nat → Bool) :
    Bypasses endpoint runtime (runtime.cancelReceiversWhere status refused) := by
  refine .updateAll fun process => ?_
  split
  · split
    · exact .wakeWith status process
    · exact refl_of _ process
  · exact refl_of _ process

end RuntimeState

end VertexOS
