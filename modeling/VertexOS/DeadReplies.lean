import VertexOS.StateReplies

/-!
# Replies that nobody waits for

The state service answers at an endpoint of the boot whose queue has four slots.  A
reply is taken out by the process that waits for it.  When that process was killed the
reply stays: four such replies fill the queue, and the service can answer nobody.
-/

namespace VertexOS

open ByteStrings ByteImages FailingCalls SlotTables

namespace RuntimeState

section

/-- A step that copies bytes out and moves an open file. -/
structure Serves (before after : RuntimeState) : Prop where
  same : after = { before with vfs := after.vfs, userCopies := after.userCopies }
  vfs : before.vfs.Stirs after.vfs

instance : IsTrans RuntimeState Serves :=
  ⟨fun _ _ _ one two => ⟨by rw [two.same, one.same], trans_of _ one.vfs two.vfs⟩⟩

instance : Std.Refl Serves := ⟨fun _ => ⟨rfl, refl_of _ _⟩⟩

variable {runtime after : RuntimeState}

theorem serves_copyToUser {machine : Machine} {pid : ProcessId} {destination : Nat} {bytes : Bytes}
    (copies : runtime.copyToUser machine pid destination bytes = some after) :
    Serves runtime after := by
  unfold copyToUser at copies
  split at copies
  · cases copies
    exact ⟨rfl, refl_of _ _⟩
  · cases copies

theorem serves_advanceOffset {description : FileDescriptionId} {updateOffset : Bool}
    {offset count : Nat}
    (advanced : runtime.advanceOffset description updateOffset offset count = .ok after) :
    Serves runtime after := by
  unfold advanceOffset at advanced
  split at advanced
  · cases advanced
    exact refl_of Serves runtime
  · split at advanced
    · cases advanced
    · split at advanced
      · cases advanced
      · cases advanced
        exact ⟨rfl, VfsState.stirs_updateDescription _ fun _ => rfl⟩

variable (runtime)

theorem serves_wakeBlockedVfsStateRead (machine : Machine) (pid : ProcessId)
    (destination maxLen offset : Nat) (description : FileDescriptionId) (updateOffset : Bool)
    (message : IpcMessage) :
    Serves runtime (runtime.wakeBlockedVfsStateRead machine pid destination maxLen offset
      description updateOffset message).2 := by
  unfold wakeBlockedVfsStateRead
  dsimp only
  split
  · exact refl_of Serves runtime
  split
  · exact refl_of Serves runtime
  rename_i copied copies
  have served := serves_copyToUser copies
  split
  · exact served
  · exact trans_of Serves served (serves_advanceOffset ‹_›)

theorem serves_wakeBlockedVfsStateStat (machine : Machine) (pid : ProcessId)
    (destination maxLen : Nat) (description : FileDescriptionId) (node : VfsNodeId)
    (message : IpcMessage) :
    Serves runtime (runtime.wakeBlockedVfsStateStat machine pid destination maxLen description node
      message).2 := by
  unfold wakeBlockedVfsStateStat
  split
  · exact refl_of Serves runtime
  split
  · dsimp only
    split
    · exact refl_of Serves runtime
    · exact serves_copyToUser ‹_›
  · exact refl_of Serves runtime

theorem serves_wakeBlockedVfsStateWrite (offset : Nat) (description : FileDescriptionId)
    (updateOffset : Bool) (writeLen : Nat) (message : IpcMessage) :
    Serves runtime (runtime.wakeBlockedVfsStateWrite offset description updateOffset writeLen
      message).2 := by
  unfold wakeBlockedVfsStateWrite
  split
  · exact refl_of Serves runtime
  · split
    · exact refl_of Serves runtime
    · exact serves_advanceOffset ‹_›

end

end RuntimeState

namespace MessageQueue

variable {queue rest : MessageQueue} {wanted : IpcMessage → Bool} {message : IpcMessage}

theorem of_dequeueWhere (taken : queue.dequeueWhere wanted = some (message, rest)) :
    message ∈ queue.messages ∧ wanted message = true ∧
      rest.messages.length + 1 = queue.messages.length := by
  obtain ⟨found, isFound, same⟩ := Option.map_eq_some_iff.mp taken
  cases same
  have member : message ∈ queue.messages := List.mem_of_find?_eq_some isFound
  have accepted : wanted message = true := List.find?_some isFound
  refine ⟨member, accepted, ?_⟩
  have shorter := List.length_eraseP_of_mem member accepted
  have := List.length_pos_of_mem member
  simp only
  omega

theorem dequeueWhere_isSome (there : queue.messages.any wanted = true) :
    (queue.dequeueWhere wanted).isSome = true := by
  simpa [dequeueWhere] using there

end MessageQueue

/-- At most so many messages stand at the endpoint, which the boot made and where the
kernel sends nothing. -/
structure RuntimeState.Backlog (runtime : RuntimeState) (endpoint : KernelObjectId)
    (count : Nat) : Prop where
  apart : runtime.Apart endpoint
  standing : ∃ object, runtime.objects.getEndpoint endpoint = some object ∧
    object.owner = .empty ∧ object.queue.messages.length ≤ count

variable {endpoint : KernelObjectId} {count : Nat}

namespace RuntimeState

variable {runtime after : RuntimeState}

section

variable (backlog : runtime.Backlog endpoint count)
include backlog

theorem Backlog.mono {more : Nat} (le : count ≤ more) : runtime.Backlog endpoint more := by
  obtain ⟨apart, object, found, boot, few⟩ := backlog
  exact ⟨apart, object, found, boot, few.trans le⟩

theorem Backlog.of_passes (passes : Passes endpoint runtime after) :
    after.Backlog endpoint count := by
  obtain ⟨apart, object, found, boot, few⟩ := backlog
  obtain ⟨stays, leaves⟩ := passes apart
  exact ⟨stays, object, leaves object found boot, boot, few⟩

theorem Backlog.of_bypasses (bypasses : Bypasses endpoint runtime after) :
    after.Backlog endpoint count :=
  backlog.of_passes (.of_bypasses bypasses)

theorem Backlog.setEndpointQueue {queue : MessageQueue} {more : Nat}
    (few : queue.messages.length ≤ more) :
    Backlog { runtime with objects := runtime.objects.setEndpointQueue endpoint queue } endpoint
      more := by
  obtain ⟨⟨numbered, stateRequests, deviceRequests, syncs⟩, object, found, boot, _⟩ := backlog
  exact ⟨⟨numbered, stateRequests, deviceRequests, syncs⟩, { object with queue },
    ObjectTable.getEndpoint_setEndpointQueue found queue, boot, few⟩

end

theorem Backlog.dequeueAt {wanted : IpcMessage → Bool} {message : IpcMessage}
    (backlog : runtime.Backlog endpoint (count + 1))
    (taken : runtime.dequeueAt endpoint (fun queue => queue.dequeueWhere wanted) =
      some (message, after)) : after.Backlog endpoint count := by
  obtain ⟨object, found, taken⟩ := Option.bind_eq_some_iff.mp taken
  obtain ⟨⟨_, queue⟩, dequeued, same⟩ := Option.map_eq_some_iff.mp taken
  cases same
  obtain ⟨_, _, shorter⟩ := MessageQueue.of_dequeueWhere dequeued
  obtain ⟨_, other, isOther, _, few⟩ := id backlog
  obtain rfl : object = other := Option.some.inj (found.symm.trans isOther)
  exact backlog.setEndpointQueue (by omega)

end RuntimeState

/-- The step keeps the bound on the messages that stand at the endpoint. -/
def Drains (endpoint : KernelObjectId) (count : Nat) (before after : RuntimeState) : Prop :=
  before.Backlog endpoint count → after.Backlog endpoint count

namespace Drains

variable {before after : RuntimeState}

instance : IsTrans RuntimeState (Drains endpoint count) := ⟨fun _ _ _ one two => two ∘ one⟩

instance : Std.Refl (Drains endpoint count) := ⟨fun _ => id⟩

theorem of_passes (passes : Passes endpoint before after) : Drains endpoint count before after :=
  fun backlog => backlog.of_passes passes

theorem of_bypasses (bypasses : Bypasses endpoint before after) : Drains endpoint count before after :=
  of_passes (.of_bypasses bypasses)

theorem of_always {ε α : Type} {call : Call ε RuntimeState α}
    (passes : Always (Passes endpoint) call) : Always (Drains endpoint count) call :=
  ⟨fun runtime => of_passes (passes.evolves runtime)⟩

theorem dequeueAt {wanted : IpcMessage → Bool} {message : IpcMessage}
    (taken : before.dequeueAt endpoint (fun queue => queue.dequeueWhere wanted) =
      some (message, after)) : Drains endpoint count before after :=
  fun backlog => (backlog.mono (Nat.le_succ _)).dequeueAt taken

end Drains

namespace ProcessState

/-- The process waits at the endpoint for the reply to this transaction. -/
def AwaitsReply (endpoint : KernelObjectId) (transactionId : Nat) : ProcessState → Prop
  | .blockedOnVfsState replyEndpoint _ _ _ id _ _ _ _ _ =>
    replyEndpoint = endpoint ∧ id = transactionId
  | _ => False

theorem AwaitsReply.inTransaction {endpoint : KernelObjectId} {transactionId : Nat}
    {state : ProcessState} (awaits : state.AwaitsReply endpoint transactionId) :
    state.InTransaction := by
  cases state <;> first | exact awaits.elim | trivial

end ProcessState

/-- The message is a reply that some process waits for at the endpoint. -/
def RuntimeState.Expects (runtime : RuntimeState) (endpoint : KernelObjectId)
    (message : IpcMessage) : Prop :=
  ∃ waiter ∈ runtime.processes.processes, ∃ transactionId,
    waiter.state.AwaitsReply endpoint transactionId ∧
      MessageQueue.repliesTo waiter.pid transactionId message = true

instance (runtime : RuntimeState) (endpoint : KernelObjectId) (message : IpcMessage) :
    Decidable (runtime.Expects endpoint message) :=
  decidable_of_iff (∃ waiter ∈ runtime.processes.processes,
    (match waiter.state with
    | .blockedOnVfsState replyEndpoint _ _ _ id _ _ _ _ _ =>
      decide (replyEndpoint = endpoint) && MessageQueue.repliesTo waiter.pid id message
    | _ => false) = true) (by
      refine exists_congr fun waiter => and_congr_right fun _ => ?_
      cases waiter.state <;> simp [ProcessState.AwaitsReply, and_assoc])

/-- Who is in a transaction stays in it. -/
structure Process.Persists (process after : Process) : Prop where
  pid : after.pid = process.pid
  waits : process.state.InTransaction → after.state = process.state

instance : Std.Refl Process.Persists := ⟨fun _ => ⟨rfl, fun _ => rfl⟩⟩

instance : IsTrans Process Process.Persists :=
  ⟨fun _ _ _ one two => ⟨two.pid.trans one.pid, fun waits =>
    (two.waits ((one.waits waits).symm ▸ waits)).trans (one.waits waits)⟩⟩

/-- No message was taken and nobody was woken from a transaction. -/
structure Unanswered (before after : RuntimeState) : Prop where
  objects : after.objects = before.objects
  processes : before.processes.Pointwise Process.Persists after.processes

namespace Unanswered

variable {before after runtime : RuntimeState}

instance : IsTrans RuntimeState Unanswered :=
  ⟨fun _ _ _ one two => ⟨two.objects.trans one.objects, one.processes.trans two.processes⟩⟩

instance : Std.Refl Unanswered := ⟨fun _ => ⟨rfl, .refl _⟩⟩

theorem expects {message : IpcMessage} (unanswered : Unanswered before after)
    (expects : before.Expects endpoint message) : after.Expects endpoint message := by
  obtain ⟨waiter, member, transactionId, awaits, replies⟩ := expects
  obtain ⟨index, inside, rfl⟩ := List.getElem_of_mem member
  have stillInside : index < after.processes.processes.length :=
    unanswered.processes.processes.length_eq ▸ inside
  obtain ⟨pid, waits⟩ := unanswered.processes.processes.get inside stillInside
  refine ⟨_, List.getElem_mem stillInside, transactionId, ?_, ?_⟩
  · exact (waits awaits.inTransaction).symm ▸ awaits
  · exact pid.symm ▸ replies

theorem wakeAt {index : Nat} {waiter : Process}
    (here : runtime.processes.processes[index]? = some waiter)
    (idle : ¬waiter.state.InTransaction) (status : Nat) :
    Unanswered runtime
      (runtime.updateProcesses fun table => table.updateAt index (Process.wakeWith status)) := by
  refine ⟨rfl, ProcessTable.pointwise_updateAt fun process isHere => ⟨rfl, fun waits => ?_⟩⟩
  obtain rfl : waiter = process := Option.some.inj (here.symm.trans isHere)
  exact absurd waits idle

theorem wakeTimedProcesses (now : Tsc) : Unanswered runtime (runtime.wakeTimedProcesses now) := by
  refine ⟨rfl, ProcessTable.pointwise_updateAll fun process => ?_⟩
  unfold Process.wakeTimed
  cases timedOut : process.timedOut now with
  | none => exact refl_of _ process
  | some status =>
    refine ⟨rfl, fun waits => ?_⟩
    unfold Process.timedOut at timedOut
    split at timedOut <;> simp_all [ProcessState.InTransaction]

end Unanswered

namespace RuntimeState

variable (runtime : RuntimeState) (machine : Machine)

theorem wakeReceivers_cases (endpoint : KernelObjectId) (rounds : Nat) :
    (∀ count, runtime.Backlog endpoint (count + 1) →
      (wakeReceivers machine endpoint rounds runtime).Backlog endpoint count) ∨
    Unanswered runtime (wakeReceivers machine endpoint rounds runtime) ∧
      Bypasses endpoint runtime (wakeReceivers machine endpoint rounds runtime) := by
  have same : Unanswered runtime runtime ∧ Bypasses endpoint runtime runtime :=
    ⟨refl_of _ _, refl_of (Bypasses endpoint) runtime⟩
  induction rounds generalizing runtime with
  | zero => exact .inr same
  | succ rounds ih =>
    unfold wakeReceivers
    split
    · exact .inr same
    rename_i index waiter found
    obtain ⟨here, _⟩ := found_of_findIdx found
    split
    · rename_i blocked
      have idle : ¬waiter.state.InTransaction := by simp [blocked, ProcessState.InTransaction]
      split
      · split
        · exact .inr same
        · rename_i taken
          exact .inl fun count backlog =>
            (backlog.dequeueAt taken).of_bypasses (bypasses_deliver _ _ _ _ _ _ _ _)
      · -- a process without authority is sent away and the loop goes on
        have sent := Unanswered.wakeAt here idle statusBadCapability
        have bypasses : Bypasses endpoint runtime (runtime.updateProcesses fun table =>
            table.updateAt index (Process.wakeWith statusBadCapability)) := .wakeAt _ _
        rcases ih (runtime.updateProcesses fun table =>
            table.updateAt index (Process.wakeWith statusBadCapability))
            ⟨refl_of _ _, refl_of (Bypasses endpoint) _⟩ with received | ⟨rest, restBypasses⟩
        · exact .inl fun count backlog => received count (backlog.of_bypasses bypasses)
        · exact .inr ⟨trans_of _ sent rest, bypasses.trans restBypasses⟩
    · exact .inr same

theorem wakeBlockedReceiver_cases (endpoint : KernelObjectId) :
    (∀ count, runtime.Backlog endpoint (count + 1) →
      (runtime.wakeBlockedReceiver machine endpoint).Backlog endpoint count) ∨
    Unanswered runtime (runtime.wakeBlockedReceiver machine endpoint) ∧
      Bypasses endpoint runtime (runtime.wakeBlockedReceiver machine endpoint) := by
  have woken : Bypasses endpoint runtime (runtime.wakeTimedProcesses (machine.clock 2)) :=
    runtime.bypasses_wakeTimedProcesses _
  rcases (runtime.wakeTimedProcesses (machine.clock 2)).wakeReceivers_cases machine endpoint
      ((runtime.wakeTimedProcesses (machine.clock 2)).processes.processes.length + 1) with
    received | ⟨rest, bypasses⟩
  · exact .inl fun count backlog => received count (backlog.of_bypasses woken)
  · exact .inr ⟨trans_of _ (.wakeTimedProcesses _) rest, woken.trans bypasses⟩

theorem drains_wakeBlockedReceiver :
    Drains endpoint count runtime (runtime.wakeBlockedReceiver machine endpoint) := by
  rcases runtime.wakeBlockedReceiver_cases machine endpoint with received | ⟨_, bypasses⟩
  · exact fun backlog => received count (backlog.mono (Nat.le_succ _))
  · exact .of_bypasses bypasses

theorem wakeBlockedVfsStateReply_cases (endpoint : KernelObjectId) :
    runtime.blockedVfsStateWaiterIndex endpoint = none ∧
      runtime.wakeBlockedVfsStateReply machine endpoint = runtime ∨
    ∃ index waiter transactionId message taken served status,
      runtime.processes.processes[index]? = some waiter ∧
      waiter.state.AwaitsReply endpoint transactionId ∧
      runtime.dequeueAt endpoint (fun queue =>
        queue.dequeueTransactionReplyFor waiter.pid transactionId) = some (message, taken) ∧
      Serves taken served ∧
      runtime.wakeBlockedVfsStateReply machine endpoint =
        served.updateProcesses fun table => table.updateAt index (Process.wakeWith status) := by
  cases isFirst : runtime.blockedVfsStateWaiterIndex endpoint with
  | none => exact .inl ⟨rfl, by simp [wakeBlockedVfsStateReply, isFirst]⟩
  | some index =>
  right
  obtain ⟨inside, accepted, _⟩ := List.findIdx?_eq_some_iff_getElem.mp isFirst
  have here := List.getElem?_eq_getElem inside
  generalize runtime.processes.processes[index] = waiter at accepted here
  cases blocked : waiter.state with
  | blockedOnVfsState replyEndpoint node description operation transactionId offset
      destination maxLen writeLen updateOffset =>
      simp only [blocked, decide_eq_true_eq, Option.any_eq_true] at accepted
      obtain ⟨rfl, object, found, hasReply⟩ := accepted
      obtain ⟨⟨message, queue⟩, dequeued⟩ := Option.isSome_iff_exists.mp
        (MessageQueue.dequeueWhere_isSome hasReply)
      have taken : runtime.dequeueAt replyEndpoint (fun queue =>
          queue.dequeueTransactionReplyFor waiter.pid transactionId) = some (message,
            { runtime with objects := runtime.objects.setEndpointQueue replyEndpoint queue }) :=
        by simp [dequeueAt, found, MessageQueue.dequeueTransactionReplyFor, dequeued]
      refine ⟨index, waiter, transactionId, message,
        { runtime with objects := runtime.objects.setEndpointQueue replyEndpoint queue }, ?_⟩
      simp only [wakeBlockedVfsStateReply, isFirst, here, Option.bind_some, Option.map_some,
        blocked, taken]
      cases operation with
      | read | serviceRead =>
        exact ⟨_, _, trivial, ⟨rfl, rfl⟩, trivial, serves_wakeBlockedVfsStateRead .., rfl⟩
      | stat => exact ⟨_, _, trivial, ⟨rfl, rfl⟩, trivial, serves_wakeBlockedVfsStateStat .., rfl⟩
      | write | control =>
        exact ⟨_, _, trivial, ⟨rfl, rfl⟩, trivial, serves_wakeBlockedVfsStateWrite .., rfl⟩
  | _ => simp [blocked] at accepted

theorem Serves.bypasses {taken served : RuntimeState} (serves : Serves taken served) :
    Bypasses endpoint taken served := by
  rw [serves.same]
  exact .of_same rfl rfl rfl rfl

def Holds (runtime : RuntimeState) (endpoint : KernelObjectId) (message : IpcMessage) : Prop :=
  ∃ object, runtime.objects.getEndpoint endpoint = some object ∧ message ∈ object.queue.messages

variable {runtime} {message : IpcMessage} in
theorem blockedVfsStateWaiterIndex_ne_none (holds : runtime.Holds endpoint message)
    (expects : runtime.Expects endpoint message) :
    runtime.blockedVfsStateWaiterIndex endpoint ≠ none := by
  obtain ⟨object, found, stands⟩ := holds
  obtain ⟨waiter, member, transactionId, awaits, replies⟩ := expects
  intro nobody
  have unwanted := List.findIdx?_eq_none_iff.mp nobody waiter member
  have hasReply : object.queue.hasTransactionReplyFor waiter.pid transactionId = true :=
    List.any_eq_true.mpr ⟨message, stands, replies⟩
  cases blocked : waiter.state with
  | blockedOnVfsState =>
    rw [blocked] at awaits
    obtain ⟨rfl, rfl⟩ := awaits
    simp [blocked, found, hasReply] at unwanted
  | _ =>
    rw [blocked] at awaits
    exact awaits

variable {runtime} {message : IpcMessage} in
/-- The wake of a waiting process takes a message out, if one is there for somebody. -/
theorem Backlog.wakeBlockedVfsStateReply (backlog : runtime.Backlog endpoint (count + 1))
    (holds : runtime.Holds endpoint message) (expects : runtime.Expects endpoint message) :
    (runtime.wakeBlockedVfsStateReply machine endpoint).Backlog endpoint count := by
  rcases runtime.wakeBlockedVfsStateReply_cases machine endpoint with ⟨nobody, _⟩ |
    ⟨index, waiter, transactionId, _, taken, served, status, _, _, isTaken, serves, wakes⟩
  · exact absurd nobody (blockedVfsStateWaiterIndex_ne_none holds expects)
  · rw [wakes]
    exact ((backlog.dequeueAt isTaken).of_bypasses serves.bypasses).of_bypasses
      (.wakeAt index status)

theorem drains_wakeBlockedVfsStateReply :
    Drains endpoint count runtime (runtime.wakeBlockedVfsStateReply machine endpoint) := by
  rcases runtime.wakeBlockedVfsStateReply_cases machine endpoint with ⟨_, unchanged⟩ |
    ⟨index, waiter, transactionId, _, taken, served, status, _, _, isTaken, serves, wakes⟩
  · rw [unchanged]
    exact refl_of (Drains endpoint count) runtime
  · rw [wakes]
    exact trans_of (Drains endpoint count) (Drains.dequeueAt isTaken)
      (.of_bypasses (serves.bypasses.trans (.wakeAt index status)))

theorem bypasses_wakeBlockedVfsStateReply {other : KernelObjectId} (apart : other ≠ endpoint) :
    Bypasses endpoint runtime (runtime.wakeBlockedVfsStateReply machine other) := by
  rcases runtime.wakeBlockedVfsStateReply_cases machine other with ⟨_, unchanged⟩ |
    ⟨index, waiter, transactionId, _, taken, served, status, _, _, isTaken, serves, wakes⟩
  · rw [unchanged]
    exact .refl runtime
  · rw [wakes]
    exact (bypasses_dequeueAt apart isTaken).trans (serves.bypasses.trans (.wakeAt index status))

theorem drains_wakeBlockedVertexFsSyncReply :
    Drains endpoint count runtime (runtime.wakeBlockedVertexFsSyncReply machine endpoint) := by
  intro backlog
  unfold wakeBlockedVertexFsSyncReply
  split
  · exact backlog
  rename_i index waiter found
  obtain ⟨here, _⟩ := found_of_findIdx found
  split
  · rename_i requestEndpoint _ _ _ _ _ _ _ blocked
    have elsewhere : requestEndpoint ≠ endpoint := fun same =>
      backlog.apart.syncs waiter (List.mem_of_getElem? here) (by rw [blocked]; exact same)
    split
    · exact backlog
    rename_i taken
    have dequeued := Drains.dequeueAt taken backlog
    split
    · exact dequeued.of_bypasses (bypasses_continueVertexFsSync _ machine index elsewhere _ _ _ _)
    · exact dequeued.of_bypasses (bypasses_failVertexFsSync _ _ _ _)
  · exact backlog

end RuntimeState

section Exchange

variable {runtime : RuntimeState} {machine : Machine}

def RuntimeState.wakeAfterSend (runtime : RuntimeState) (machine : Machine)
    (endpoint : KernelObjectId) : RuntimeState :=
  ((runtime.wakeBlockedReceiver machine endpoint).wakeBlockedVfsStateReply machine
    endpoint).wakeBlockedVertexFsSyncReply machine endpoint

theorem RuntimeState.drains_wakeAfterSend (runtime : RuntimeState) (machine : Machine) :
    Drains endpoint count runtime (runtime.wakeAfterSend machine endpoint) :=
  trans_of (Drains endpoint count) (trans_of (Drains endpoint count)
    (runtime.drains_wakeBlockedReceiver machine) (drains_wakeBlockedVfsStateReply _ machine))
    (drains_wakeBlockedVertexFsSyncReply _ machine)

theorem RuntimeState.Backlog.wakeAfterSend {message : IpcMessage}
    (machine : Machine) (backlog : runtime.Backlog endpoint (count + 1))
    (holds : runtime.Holds endpoint message) (expects : runtime.Expects endpoint message) :
    (runtime.wakeAfterSend machine endpoint).Backlog endpoint count := by
  refine drains_wakeBlockedVertexFsSyncReply _ machine ?_
  rcases runtime.wakeBlockedReceiver_cases machine endpoint with received | ⟨stays, bypasses⟩
  · exact drains_wakeBlockedVfsStateReply _ machine (received count backlog)
  · have stillHolds : (runtime.wakeBlockedReceiver machine endpoint).Holds endpoint message := by
      obtain ⟨object, found, stands⟩ := holds
      exact ⟨object, by rw [stays.objects, found], stands⟩
    exact (backlog.of_bypasses bypasses).wakeBlockedVfsStateReply machine stillHolds
      (stays.expects expects)

theorem bypasses_send_elsewhere {other : KernelObjectId} (apart : other ≠ endpoint)
    (sender : ProcessId) (bytes : Bytes) :
    Always (Bypasses endpoint) (do
      enqueueAt other sender bytes
      modify fun runtime => runtime.wakeBlockedReceiver machine other
      modify fun runtime => runtime.wakeBlockedVfsStateReply machine other
      modify fun runtime => runtime.wakeBlockedVertexFsSyncReply machine other) :=
  .bind (bypasses_enqueueAt apart ..) fun _ =>
    .bind (.modify fun runtime => runtime.bypasses_wakeBlockedReceiver machine apart)
      fun _ => .bind
        (.modify fun runtime => runtime.bypasses_wakeBlockedVfsStateReply machine apart)
        fun _ => .modify fun runtime => bypasses_wakeBlockedVertexFsSyncReply runtime machine apart

theorem always_drains_takeMessage (other : KernelObjectId) (receiver : ProcessId)
    (destination maxLen : Nat) (message : IpcMessage) :
    Always (Drains endpoint count) (takeMessage machine other receiver destination maxLen message) := by
  refine .get_bind fun runtime => .fromOption_bind fun copied copies =>
    .set_bind (.of_bypasses ((RuntimeState.bypasses_copyToUser copies).trans
      (RuntimeState.bypasses_recordReadyLifecycle _ _ _ _))) ?_
  exact (Drains.of_always (Passes.of_always (bypasses_answer _))).evolves _

theorem always_drains_receiveWithTimeout (capSlot destination maxLen : Nat)
    (timeoutTsc : Option Tsc) :
    Always (Drains endpoint count) (receiveWithTimeout machine capSlot destination maxLen timeoutTsc) := by
  refine .get_bind fun runtime => .fromExcept_bind fun cap _ => .require_bind fun _ => ?_
  split
  · rename_i message after taken
    have drains : Drains endpoint count runtime after := by
      by_cases here : cap.object = endpoint
      · rw [here] at taken
        exact .dequeueAt taken
      · exact .of_bypasses (RuntimeState.bypasses_dequeueAt here taken)
    exact .set_bind drains ((always_drains_takeMessage ..).evolves _)
  · refine .set_bind (.of_bypasses (runtime.bypasses_blockCurrent machine id id)) ?_
    exact (Always.require ..).evolves _

/-- The call puts this message into the queue of the endpoint, if there is room. -/
structure SendsTo (runtime : RuntimeState) (machine : Machine) (endpoint : KernelObjectId)
    (message : IpcMessage) (capSlot source len : Nat) : Prop where
  short : len ≤ maxMessageBytes
  named : runtime.endpointFromCap capSlot rightSend = .ok endpoint
  bytes : machine.readUser source len = some message.bytes
  sender : message.sender = (runtime.processes.currentProcess.map Process.pid).getD .empty

variable {message : IpcMessage} {capSlot source len : Nat}

theorem sendsTo_withFrame (frame : SyscallFrame) :
    SendsTo { runtime with frame } machine endpoint message capSlot source len ↔
      SendsTo runtime machine endpoint message capSlot source len :=
  ⟨fun ⟨short, named, bytes, sender⟩ => ⟨short, named, bytes, sender⟩,
    fun ⟨short, named, bytes, sender⟩ => ⟨short, named, bytes, sender⟩⟩

theorem exec_send (sends : SendsTo runtime machine endpoint message capSlot source len)
    (backlog : runtime.Backlog endpoint count) (room : count < messageQueueCapacity) :
    ∃ queued : RuntimeState, queued.Backlog endpoint (count + 1) ∧ queued.Holds endpoint message ∧
      queued.processes = runtime.processes ∧
      exec (send machine capSlot source len) runtime =
        (.ok (), queued.wakeAfterSend machine endpoint) := by
  obtain ⟨short, named, bytes, sender⟩ := sends
  obtain ⟨_, object, found, boot, few⟩ := id backlog
  have fits : object.queue.messages.length < messageQueueCapacity := few.trans_lt room
  obtain ⟨queue, enqueued, isQueue⟩ : ∃ queue,
      object.queue.enqueue message.sender message.bytes = .ok queue ∧
        queue.messages = object.queue.messages ++ [message] :=
    ⟨⟨object.queue.messages ++ [message], by simpa using fits⟩, by
      simp [MessageQueue.enqueue, fits], rfl⟩
  have longer : queue.messages.length ≤ count + 1 := by
    simpa [isQueue] using few
  refine ⟨{ runtime with objects := runtime.objects.setEndpointQueue endpoint queue },
    backlog.setEndpointQueue longer,
    ⟨_, ObjectTable.getEndpoint_setEndpointQueue found queue, by simp [isQueue]⟩, rfl, ?_⟩
  have puts : exec (enqueueAt endpoint message.sender message.bytes) runtime = (.ok (),
      { runtime with objects := runtime.objects.setEndpointQueue endpoint queue }) :=
    (exec_get_bind _).trans <| exec_fromOption_bind_ok.mpr ⟨object, found,
      exec_fromExcept_bind_ok.mpr ⟨queue, enqueued, exec_set ..⟩⟩
  refine exec_require_bind_ok.mpr ⟨short, (exec_get_bind _).trans <|
    exec_fromExcept_bind_ok.mpr ⟨endpoint, named, exec_fromOption_bind_ok.mpr
      ⟨message.bytes, bytes, exec_bind_ok.mpr ⟨(), _, sender ▸ puts, ?_⟩⟩⟩⟩
  rw [exec_modify_bind, exec_modify_bind, exec_modify]
  rfl

theorem exec_send_expected (sends : SendsTo runtime machine endpoint message capSlot source len)
    (backlog : runtime.Backlog endpoint count) (room : count < messageQueueCapacity)
    (expects : runtime.Expects endpoint message) :
    ∃ after : RuntimeState, after.Backlog endpoint count ∧
      exec (send machine capSlot source len) runtime = (.ok (), after) := by
  obtain ⟨queued, more, holds, same, ran⟩ := exec_send sends backlog room
  have stillExpects : queued.Expects endpoint message := by
    unfold RuntimeState.Expects
    rw [same]
    exact expects
  exact ⟨_, more.wakeAfterSend machine holds stillExpects, ran⟩

def RuntimeState.standing (runtime : RuntimeState) (endpoint : KernelObjectId) : Nat :=
  (runtime.objects.getEndpoint endpoint).elim 0 fun object => object.queue.messages.length

theorem RuntimeState.Backlog.exact (backlog : runtime.Backlog endpoint count) :
    runtime.Backlog endpoint (runtime.standing endpoint) := by
  obtain ⟨apart, object, found, boot, _⟩ := backlog
  exact ⟨apart, object, found, boot, by simp [RuntimeState.standing, found]⟩

theorem evolves_bypasses_send
    (elsewhere : ∀ message, ¬SendsTo runtime machine endpoint message capSlot source len) :
    Evolves (Bypasses endpoint) (send machine capSlot source len) runtime := by
  refine .require_bind fun short => .get_bind <| .fromExcept_bind
    fun other named => .fromOption_bind fun bytes reads => ?_
  have apart : other ≠ endpoint := by
    rintro rfl
    exact elsewhere ⟨_, bytes⟩ ⟨short, named, reads, rfl⟩
  exact (bypasses_send_elsewhere apart ..).evolves runtime

theorem evolves_drains_send
    (due : ∀ message, SendsTo runtime machine endpoint message capSlot source len →
      runtime.Expects endpoint message ∨ runtime.standing endpoint ≤ 2) :
    Evolves (Drains endpoint 3) (send machine capSlot source len) runtime := by
  by_cases reaches : ∃ message, SendsTo runtime machine endpoint message capSlot source len
  · obtain ⟨message, sends⟩ := reaches
    intro backlog
    rcases due message sends with expects | few
    · obtain ⟨after, bounded, ran⟩ := exec_send_expected sends backlog (by decide) expects
      rwa [ran]
    · have two : runtime.Backlog endpoint 2 := backlog.exact.mono few
      obtain ⟨queued, three, _, _, ran⟩ := exec_send sends two (by decide)
      rw [ran]
      exact queued.drains_wakeAfterSend machine three
  · have elsewhere := evolves_bypasses_send (not_exists.mp reaches)
    exact Drains.of_bypasses elsewhere

end Exchange

namespace Kernel

/-- The error with which the kernel refuses the system call of an entry. -/
def refusal (kernel : Kernel) (entry : Entry) : Option IpcError :=
  match entry.action with
  | .syscall number arg0 arg1 arg2 =>
    match (exec (syscallBody entry.machine number arg0.toNat arg1.toNat arg2.toNat)
      { kernel.runtime with frame := entry.frame }).1 with
    | .ok () => none
    | .error error => some error
  | _ => none

def Sends (kernel : Kernel) (entry : Entry) (endpoint : KernelObjectId) (message : IpcMessage) :
    Prop :=
  ∃ capSlot source len, entry.action = .syscall .ipcSend capSlot source len ∧
    SendsTo kernel.runtime entry.machine endpoint message capSlot.toNat source.toNat len.toNat

/-- What the entry sends to the endpoint is a reply that somebody waits for, or it
leaves a slot of the queue free. -/
def Due (kernel : Kernel) (endpoint : KernelObjectId) (entry : Entry) : Prop :=
  ∀ message, kernel.Sends entry endpoint message →
    kernel.runtime.Expects endpoint message ∨ kernel.runtime.standing endpoint ≤ 2

def DueAlong (endpoint : KernelObjectId) : Kernel → List Entry → Prop
  | _, [] => True
  | kernel, entry :: rest => kernel.Due endpoint entry ∧ DueAlong endpoint (kernel.step entry) rest

variable {kernel : Kernel} {entry : Entry}

theorem backlog_step_of_send (backlog : kernel.runtime.Backlog endpoint count)
    (sends : ∀ capSlot source len, entry.action = .syscall .ipcSend capSlot source len →
      Evolves (Drains endpoint count) (send entry.machine capSlot.toNat source.toNat len.toNat)
        { kernel.runtime with frame := entry.frame }) :
    (kernel.step entry).runtime.Backlog endpoint count := by
  cases halted : kernel.halted with
  | true => simpa [step, halted] using backlog
  | false =>
  have entered : RuntimeState.Backlog { kernel.runtime with frame := entry.frame } endpoint count :=
    backlog.of_bypasses (.of_same rfl rfl rfl rfl)
  have answers (value : Nat) : Always (Drains endpoint count) (answer value) :=
    Drains.of_always (Passes.of_always (bypasses_answer value))
  simp only [step, halted, Bool.false_eq_true, if_false]
  cases action : entry.action with
  | syscall number arg0 arg1 arg2 =>
    have body : Evolves (Drains endpoint count)
        (syscallBody entry.machine number arg0.toNat arg1.toNat arg2.toNat)
        { kernel.runtime with frame := entry.frame } := by
      by_cases exchanges : number.Exchanges
      · cases number with
        | ipcSend =>
          exact .bind (sends _ _ _ action) fun _ after _ => (answers _).evolves after
        | ipcRecv | ipcRecvTimeout => exact (always_drains_receiveWithTimeout ..).evolves _
        | _ => exact exchanges.elim
      · exact (Drains.of_always (passes_syscallBody exchanges ..)).evolves _
    exact evolves_dispatch answers body entered
  | exit status => exact entered.of_bypasses (bypasses_exitCurrentProcess _ _ _)
  | yield => exact entered.of_bypasses (bypasses_yieldCurrentProcess _ _)
  | fault => exact entered.of_bypasses (bypasses_faultCurrentProcess _ _)
  | timer => exact entered.of_bypasses (bypasses_preemptCurrentProcess _ _)
  | irq line =>
    exact (entered.of_bypasses (RuntimeState.bypasses_recordHardwareIrq _ line)).of_bypasses
      (bypasses_preemptCurrentProcess _ _)

theorem backlog_step (backlog : kernel.runtime.Backlog endpoint 3)
    (due : kernel.Due endpoint entry) : (kernel.step entry).runtime.Backlog endpoint 3 :=
  backlog_step_of_send backlog fun _ _ _ action => evolves_drains_send fun message sends =>
    due message ⟨_, _, _, action, (sendsTo_withFrame _).mp sends⟩

theorem backlog_run {entries : List Entry} (backlog : kernel.runtime.Backlog endpoint 3)
    (due : kernel.DueAlong endpoint entries) : (kernel.run entries).runtime.Backlog endpoint 3 := by
  induction entries generalizing kernel with
  | nil => exact backlog
  | cons entry rest ih => exact ih (backlog_step backlog due.1) due.2

/-- As long as every message that reaches the endpoint is due, the reply to a process
that waits for it is never refused. -/
theorem refusal_of_expected (kernel : Kernel) (endpoint : KernelObjectId) (entries : List Entry)
    (entry : Entry) (message : IpcMessage) (backlog : kernel.runtime.Backlog endpoint 3)
    (due : kernel.DueAlong endpoint entries)
    (sends : (kernel.run entries).Sends entry endpoint message)
    (expects : (kernel.run entries).runtime.Expects endpoint message) :
    (kernel.run entries).refusal entry = none := by
  have entered : RuntimeState.Backlog { (kernel.run entries).runtime with frame := entry.frame }
      endpoint 3 := (backlog_run backlog due).of_bypasses (.of_same rfl rfl rfl rfl)
  obtain ⟨capSlot, source, len, action, sends⟩ := sends
  obtain ⟨after, _, ran⟩ := exec_send_expected ((sendsTo_withFrame entry.frame).mpr sends) entered
    (by decide) expects
  have succeeds : (exec (succeeding (send entry.machine capSlot.toNat source.toNat len.toNat))
      { (kernel.run entries).runtime with frame := entry.frame }).1 = .ok () := by
    unfold succeeding
    rw [exec_bind, ran]
    rfl
  simp [refusal, action, syscallBody, succeeds]

theorem dueAlong_of_standing {entries : List Entry} (few : ∀ count < entries.length,
      (kernel.run (entries.take count)).runtime.standing endpoint ≤ 2) :
    kernel.DueAlong endpoint entries := by
  induction entries generalizing kernel with
  | nil => trivial
  | cons entry rest ih =>
    refine ⟨fun _ _ => .inr (few 0 (Nat.succ_pos _)), ih fun count inside => ?_⟩
    exact few (count + 1) (Nat.succ_lt_succ inside)

end Kernel

def answeringMachine (transactionId : Nat) : Machine := .holding (leBytes 8 transactionId)

def heldCapability (id object : Nat) (rights : Rights) (owner : Nat) : Capability where
  id := id
  object := ⟨object⟩
  rights := rights
  ownerProcess := ⟨owner⟩
  parentCapId := 0
  generationId := ""
  delegatedBy := ⟨owner⟩
  revoked := false

/-- The first process may kill, the second is the state service, and the others have
the value of the volume open. -/
def stateClients : ProcessTable where
  processes :=
    { Process.new ⟨1⟩ "init" ⟨1, 0, 0⟩ 0 0 .running .new ⟨utf8 "/", rootPath_le⟩ with
      caps := ⟨fun slot => if slot.val = 0 then some (heldCapability 1 4 rightKill 1) else none⟩ } ::
    { Process.new ⟨2⟩ vertexStateProcessName ⟨2, 0, 0⟩ 0 0 .ready .new ⟨utf8 "/", rootPath_le⟩ with
      caps := ⟨fun slot =>
        if slot.val = 6 then some (heldCapability 2 3 rightSend 2)
        else if slot.val = 7 then some (heldCapability 3 2 rightReceive 2)
        else none⟩ } ::
    [2, 3, 4, 5, 6].map fun index =>
      { Process.new ⟨index + 1⟩ "client" ⟨index + 1, 0, 0⟩ 0 0 .ready .new
          ⟨utf8 "/", rootPath_le⟩ with
        fileHandles := fun slot =>
          if slot.val = 0 then ⟨1, some ⟨Nat.succPNat index⟩⟩ else ⟨0, none⟩ }
  current := some ⟨1⟩
  nextId := 8

def stateVolumeOne : StateVolumeObject where
  id := ⟨1⟩
  name := "v"
  name_field := ⟨by decide, by decide⟩
  owner := ""
  schemaVersion := ""
  storageClass := ""
  migrationPolicy := ""
  retentionPolicy := ""
  sharingPolicy := ""

/-- The volume, the two endpoints of its service and the control of processes. -/
def stateObjects : ObjectTable where
  objects := [some (.stateVolume stateVolumeOne),
    some (.ipcEndpoint (.new ⟨2⟩ stateVfsRequestEndpointName .empty)),
    some (.ipcEndpoint (.new ⟨3⟩ stateVfsReplyEndpointName .empty)),
    some (.processControl ⟨⟨4⟩, "process-control"⟩)]
  nextId := 5
  length_le := by decide
  id_lt := by simp [KernelObject.id, IpcEndpoint.new, stateVolumeOne]

def stateNode : VfsNode where
  id := ⟨Nat.succPNat 0⟩
  name := ⟨utf8 "value", by decide⟩
  parent := none
  kind := .regularFile
  backing := .stateVolumeValue ⟨1⟩
  mountSource := ""
  metadataVersion := 1

def stateKernel : Kernel where
  runtime :=
    { RuntimeState.new with
      objects := stateObjects
      processes := stateClients
      installed := { InstalledObjects.empty with
        stateVfsRequestEndpoint := some ⟨2⟩
        stateVfsReplyEndpoint := some ⟨3⟩ }
      vfs := { VfsState.empty with
        nodes := [some stateNode]
        nextNodeId := Nat.succPNat 1
        descriptions := [2, 3, 4, 5, 6].map fun index => some
          { id := ⟨Nat.succPNat index⟩
            node := stateNode.id
            rights := rightRead
            flags := vfsOpenRead
            offset := 0
            refCount := 1
            owner := ⟨index + 1⟩
            authorityCapId := 0
            watchCursor := 0 }
        nextFileDescriptionId := Nat.succPNat 7 } }
  halted := false

def quietEntry (action : Action) : Entry := ⟨action, .empty, answeringMachine 0⟩

def replyEntry (transactionId : Nat) : Entry :=
  ⟨.syscall .ipcSend 6 0 8, .empty, answeringMachine transactionId⟩

/-- The service waits for requests, and five processes read the value. -/
def fiveReads : List Entry :=
  [quietEntry .yield, quietEntry (.syscall .ipcRecv 7 0 64)] ++
    List.replicate 5 (quietEntry (.syscall .vfsRead 257 0 8))

/-- Four of the readers are killed; the service takes their requests and answers them. -/
def deadReplies : List Entry :=
  [3, 4, 5, 6].map (fun pid => quietEntry (.syscall .processKill 0 pid 0)) ++
    quietEntry .yield :: [1, 2, 3, 4].flatMap fun transactionId =>
      [replyEntry transactionId, quietEntry (.syscall .ipcRecv 7 0 64)]

theorem backlog_stateKernel : stateKernel.runtime.Backlog ⟨3⟩ 0 := by
  refine ⟨⟨⟨by decide, by decide⟩, by decide, by decide, ?_⟩,
    .new ⟨3⟩ stateVfsReplyEndpointName .empty, rfl, rfl, by decide⟩
  simp [stateKernel, stateClients, Process.new, ProcessState.SyncsThrough]

/-- The queue is full of replies to killed processes, and the reply to the one that
still waits is refused. -/
theorem dead_replies_refuse_reply : stateKernel.runtime.Backlog ⟨3⟩ 0 ∧
    (stateKernel.run (fiveReads ++ deadReplies)).Sends (replyEntry 5) ⟨3⟩ ⟨⟨2⟩, leBytes 8 5⟩ ∧
    (stateKernel.run (fiveReads ++ deadReplies)).runtime.Expects ⟨3⟩ ⟨⟨2⟩, leBytes 8 5⟩ ∧
    (stateKernel.run (fiveReads ++ deadReplies)).refusal (replyEntry 5) =
      some .messageTooLarge := by
  refine ⟨backlog_stateKernel, ⟨6, 0, 8, rfl, ?_⟩, by decide +kernel, by decide +kernel⟩
  exact ⟨by decide, by decide +kernel, by decide +kernel, by decide +kernel⟩

/-- One of the readers is killed; the service takes its request and answers it. -/
def oneDeadReply : List Entry :=
  [quietEntry (.syscall .processKill 0 3 0), quietEntry .yield, replyEntry 1,
    quietEntry (.syscall .ipcRecv 7 0 64)]

/-- The reply to the killed process stands in the queue, and the next one is taken. -/
theorem refusal_of_expected_oneDead :
    (stateKernel.run (fiveReads ++ oneDeadReply)).runtime.standing ⟨3⟩ = 1 ∧
      (stateKernel.run (fiveReads ++ oneDeadReply)).refusal (replyEntry 2) = none := by
  refine ⟨by decide +kernel, Kernel.refusal_of_expected stateKernel ⟨3⟩ _ _ ⟨⟨2⟩, leBytes 8 2⟩
    (backlog_stateKernel.mono (by decide)) (Kernel.dueAlong_of_standing (by decide +kernel))
    ⟨6, 0, 8, rfl, ?_⟩ (by decide +kernel)⟩
  exact ⟨by decide, by decide +kernel, by decide +kernel, by decide +kernel⟩

end VertexOS
