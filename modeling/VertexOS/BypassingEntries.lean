import VertexOS.BootSteps
import VertexOS.BypassingCalls

/-!
# Processes that begin and end beside an endpoint of the boot

Creation, start and end of a process leave the queue as it is.
-/

namespace VertexOS

open ByteStrings FailingCalls SlotTables RuntimeState

variable {endpoint : KernelObjectId} {runtime : RuntimeState} {machine : Machine}

theorem always_eq_loadProcessContext (imageBase imageLength : Nat) :
    Always Eq (loadProcessContext machine imageBase imageLength) :=
  .bind (.require ..) fun _ => .fromOption ..

theorem always_fromBoot {α : Type} {R : RuntimeState → RuntimeState → Prop} [IsTrans RuntimeState R]
    [Std.Refl R] {call : BootCall α} (inner : Always R call) : Always R (fromBoot call) := by
  refine .bind (.attempt inner) fun outcome => ?_
  cases outcome with
  | error => exact .throw _
  | ok value => exact .pure value

theorem eased_ended (status : Nat) (process : Process) :
    Process.Eased endpoint process (process.ended status) :=
  .of_idle rfl id id

theorem eased_clearFileHandles (process : Process) :
    Process.Eased endpoint process process.clearFileHandles :=
  .of_state rfl rfl

theorem eased_reloaded (context : ProcessContext) (process : Process) :
    Process.Eased endpoint process (process.reloaded context) :=
  .of_state rfl rfl

theorem eased_withContext (context : ProcessContext) (reaped : Bool) (process : Process) :
    Process.Eased endpoint process (process.withContext context reaped) :=
  .of_state rfl rfl

theorem eased_started (process : Process) : Process.Eased endpoint process process.started :=
  .of_idle rfl id id

theorem bypasses_releaseProcessFiles (runtime : RuntimeState) (pid : ProcessId) :
    Bypasses endpoint runtime (runtime.releaseProcessFiles pid) :=
  .updateVfs _

theorem evolves_bypasses_reapProcessContext {pid : ProcessId} (someone : pid ≠ .empty) :
    Evolves (Bypasses endpoint) (reapProcessContext machine pid) runtime := by
  refine .modify_bind (bypasses_cancelReceiversWhere _ _ _) <|
    .modify_bind (.of_objects (ObjectTable.leaves_removeOwnedEndpoints someone)) <|
    .get_bind <| .fromOption_bind fun process _ =>
    .modify_bind ((Bypasses.updateProcess eased_clearFileHandles pid).trans
      (bypasses_releaseProcessFiles _ pid)) <|
    .modify_bind ((bypasses_removeOwnedBindMounts _ pid true).trans
      (bypasses_removeOwnedBindMounts _ pid false)) <|
    .modify_bind (bypasses_releaseUnreferencedDerivedVfsRoots _) ?_
  exact .ite (fun _ => .require_bind fun _ =>
    .modify (.updateProcess (eased_withContext _ _) pid)) fun _ => .pure _

theorem RuntimeState.Apart.someone (apart : runtime.Apart endpoint) {pid : ProcessId}
    {process : Process} (found : runtime.processes.process pid = some process) : pid ≠ .empty :=
  ProcessTable.pid_of_process found ▸ apart.numbered.2 process (ProcessTable.mem_of_process found)

theorem bypasses_killProcess (machine : Machine) (capSlot pid : Nat) :
    Always (Bypasses endpoint) (killProcess machine capSlot pid) := by
  refine ⟨fun runtime => evolves_of_apart fun apart => ?_⟩
  refine .get_bind <| .fromExcept_bind fun _ _ => .require_bind fun _ =>
    .fromOption_bind fun process found => .require_bind fun _ =>
    .modify_bind ((Bypasses.updateProcess (eased_ended _) ⟨pid⟩).trans
      (bypasses_releaseProcessFiles _ ⟨pid⟩)) <|
    .modify_bind (bypasses_cancelReceiversWhere _ _ _) <|
    .modify_bind (bypasses_releaseUnreferencedDerivedVfsRoots _) <|
    .modify_bind (bypasses_abortTransactionsOf _ process.name) ?_
  exact evolves_bypasses_reapProcessContext (apart.someone found)

theorem bypasses_processWait (machine : Machine) (capSlot pid : Nat) :
    Always (Bypasses endpoint) (processWait machine capSlot pid) := by
  refine .bind (.modify fun runtime => runtime.bypasses_wakeTimedProcesses _)
    fun _ => ⟨fun runtime => evolves_of_apart fun apart => ?_⟩
  exact .get_bind <| .fromExcept_bind fun _ _ => .fromOption_bind fun process found => .ite
      (fun _ => .bind (evolves_bypasses_reapProcessContext (apart.someone found))
        fun _ _ _ => .pure _) fun _ => .pure _

section

variable (machine : Machine)

theorem bypasses_grantRootCapability (object : KernelObjectId) (rights : Rights)
    (owner : ProcessId) (slot : Nat) :
    Always (Bypasses endpoint) (grantRootCapability object rights owner slot) := by
  refine .get_bind fun runtime => .fromExcept_bind ?_
  rintro ⟨cap, middle⟩ made
  exact .set_bind (bypasses_newCapability (mapError_ok.mp made))
    ((bypasses_grantByPid ..).evolves _)

theorem bypasses_installDeclaredMount (pid : ProcessId) (mountRoot : VfsPath)
    (mount : BootProcessMountConfig) :
    Always (Bypasses endpoint) (installDeclaredMount pid mountRoot mount) := by
  refine .bind (.fromExcept _) fun destination =>
    .bind (.fromExcept _) fun _ => ⟨fun runtime => .fromExcept_bind ?_⟩
  rintro ⟨parentPath, _⟩ _
  refine .get_bind <| .fromOption_bind fun _ _ => .require_bind fun _ => .fromOption_bind fun _ _ =>
    .require_bind fun _ => .fromOption_bind fun _ _ => .fromExcept_bind fun _ _ =>
    .get_bind <| .fromExcept_bind ?_
  rintro ⟨_, after⟩ added
  exact .set (bypasses_addVfsMount added)

theorem bypasses_installDeclaredProcessMounts (process : BootProcessConfig)
    (pid : ProcessId) (mountRoot : VfsPath) :
    Always (Bypasses endpoint) (installDeclaredProcessMounts process pid mountRoot) :=
  .inTurn (bypasses_installDeclaredMount pid mountRoot) _

theorem bypasses_recycleExitedProcessTemplate (index : Nat) :
    Always (Bypasses endpoint) (recycleExitedProcessTemplate machine index) := by
  refine ⟨fun runtime => evolves_of_apart fun apart => ?_⟩
  refine .get_bind <| .fromOption_bind fun _ _ => .require_bind fun _ => ?_
  split
  · exact .pure _
  refine .fromOption_bind fun process found => .require_bind fun _ =>
    .bind (evolves_bypasses_reapProcessContext (apart.someone found)) fun _ reaped _ =>
    .get_bind <| .fromExcept_bind fun processes removed => .set ?_
  exact fun _ => ⟨rfl, rfl, ProcessTable.eases_removeProcess (mapError_ok.mp removed), refl_of _ _⟩

theorem bypasses_removeIncomplete (runtime : RuntimeState) (pid : ProcessId) :
    Bypasses endpoint runtime (removeIncomplete pid runtime) := by
  refine (bypasses_removeOwnedBindMounts runtime pid false).trans ?_
  unfold removeIncomplete updateProcesses removeOwnedDeclaredBindMounts
  generalize runtime.removeOwnedBindMounts pid false = middle
  dsimp only
  cases removed : middle.processes.removeLastProcess pid with
  | error => exact .refl middle
  | ok processes => exact .of_processes (ProcessTable.eases_removeLastProcess removed)

theorem bypasses_createProcess (capSlot index : Nat) :
    Always (Bypasses endpoint) (createProcess machine capSlot index) := by
  refine .get_bind fun _ => .fromExcept_bind fun _ _ =>
    (bypasses_recycleExitedProcessTemplate ..).evolves_bind fun _ middle =>
    .get_bind <| .fromOption_bind fun config _ => .require_bind fun _ =>
    .fromOption_bind fun process _ => .require_bind fun _ => .fromExcept_bind fun _ _ =>
    .reading_bind (always_eq_loadProcessContext ..) fun _ _ => .fromExcept_bind fun mountRoot _ =>
    .fromExcept_bind ?_
  rintro ⟨pid, processes⟩ added
  refine .set_bind (.of_processes (ProcessTable.eases_addProcess (mapError_ok.mp added))) <|
    .bind (.bind ((Always.attempt (.bind
      (bypasses_installDeclaredProcessMounts ..) fun _ =>
        always_grantConfigCapsToProcess bypasses_grantRootCapability ..)).evolves _)
      fun outcome after _ => ?_) fun _ _ _ =>
    .modify_bind (.of_same rfl rfl rfl rfl) (.pure _)
  cases outcome with
  | ok => exact .pure _
  | error => exact .modify_bind (bypasses_removeIncomplete after pid) (.throw _)

theorem bypasses_startProcess (capSlot pid : Nat) :
    Always (Bypasses endpoint) (startProcess machine capSlot pid) := by
  refine ⟨fun runtime => evolves_of_apart fun apart => ?_⟩
  refine .get_bind <| .fromExcept_bind fun _ _ => .fromOption_bind fun process found =>
    .require_bind fun _ => ?_
  have someone : process.pid ≠ .empty :=
    apart.numbered.2 process (ProcessTable.mem_of_process found)
  have reloads : Evolves (Bypasses endpoint) (reloadExited machine process) runtime :=
    .bind (evolves_bypasses_reapProcessContext someone) fun _ _ _ =>
      .reading_bind (always_eq_loadProcessContext ..) fun _ _ =>
      .get_bind <| .fromOption_bind fun _ _ => .bind ((always_fromBoot
        (bypasses_installDeclaredProcessMounts ..)).evolves _) fun _ _ _ =>
      .modify (.updateProcess (eased_reloaded _) _)
  -- what follows the start is the same for a first start and a restart
  have finishes (restarts : Bool) : Always (Bypasses endpoint) (show KernelCall Unit from do
      modify releaseUnreferencedDerivedVfsRoots
      modify fun runtime => runtime.recordServiceLifecycle process.name
        (if restarts then .restarting else .starting) none) :=
    .bind (.modify bypasses_releaseUnreferencedDerivedVfsRoots)
      fun _ => .modify fun _ => .of_same rfl rfl rfl rfl
  by_cases exited : process.state = .exited
  · simp only [exited, decide_true, if_true]
    exact .bind reloads fun _ _ _ => .get_bind <| .fromOption_bind fun _ _ =>
      .modify_bind (.updateProcess eased_started _) <|
      .modify_bind (bypasses_releaseProcessFiles _ _) ((finishes true).evolves _)
  · simp only [exited, decide_false]
    exact .get_bind <| .fromOption_bind fun _ _ =>
      .modify_bind (.updateProcess eased_started _) ((finishes false).evolves _)

end

section

variable (runtime : RuntimeState) (machine : Machine)

theorem bypasses_recordServiceLifecycle (service : String) (state : ServiceLifecycleState)
    (status : Option Nat) :
    Bypasses endpoint runtime (runtime.recordServiceLifecycle service state status) :=
  .of_same rfl rfl rfl rfl

theorem bypasses_endCurrent (process : Process) (status : Nat) (lifecycle : ServiceLifecycleState) :
    Bypasses endpoint runtime (runtime.endCurrent process status lifecycle) := by
  have released : Bypasses endpoint runtime
      (((runtime.updateCurrent (Process.ended status)).releaseProcessFiles
        process.pid).cancelBlockedReceiversForEndpointOwner process.pid
          statusBadCapability).releaseUnreferencedDerivedVfsRoots :=
    (((Bypasses.updateCurrent (eased_ended status)).trans (bypasses_releaseProcessFiles _ _)).trans
      (bypasses_cancelReceiversWhere _ _ _)).trans
      (bypasses_releaseUnreferencedDerivedVfsRoots _)
  refine trans_of (Bypasses endpoint) ?_ (bypasses_abortTransactionsOf _ _)
  split
  · exact released
  · exact released.trans (bypasses_recordServiceLifecycle _ _ _ _)

theorem bypasses_leaveEnded {pid : ProcessId} (someone : pid ≠ .empty) :
    Bypasses endpoint runtime (runtime.leaveEnded machine pid).2 := by
  have scheduled : Bypasses endpoint runtime (runtime.scheduleNextReady machine).2 :=
    runtime.bypasses_scheduleNextReadyInner machine true true
  unfold leaveEnded
  dsimp only
  split
  · exact scheduled.trans (evolves_bypasses_reapProcessContext someone)
  · exact scheduled

theorem bypasses_exitCurrentProcess (status : Nat) :
    Bypasses endpoint runtime (runtime.exitCurrentProcess machine status).2 := by
  unfold exitCurrentProcess
  split
  · have released : Bypasses endpoint runtime runtime.releaseUnreferencedDerivedVfsRoots :=
      bypasses_releaseUnreferencedDerivedVfsRoots runtime
    dsimp only
    split
    · exact released
    · exact released.trans (bypasses_scheduleNextReadyInner _ machine true true)
  · rename_i process isCurrent
    have ended : Bypasses endpoint runtime
        (runtime.endCurrent process status (exitLifecycle status)) :=
      bypasses_endCurrent runtime process status (exitLifecycle status)
    dsimp only
    split
    · exact ended
    · intro apart
      have someone := apart.numbered.2 process (ProcessTable.mem_of_currentProcess isCurrent)
      exact ended.trans (bypasses_leaveEnded _ machine someone) apart

theorem bypasses_faultCurrentProcess :
    Bypasses endpoint runtime (runtime.faultCurrentProcess machine).2 := by
  unfold faultCurrentProcess
  split
  · exact .refl runtime
  rename_i process isCurrent
  have ended : Bypasses endpoint runtime
      (runtime.endCurrent process statusProcessFault .failed) :=
    bypasses_endCurrent runtime process statusProcessFault .failed
  dsimp only
  split
  · exact ended
  · intro apart
    have someone := apart.numbered.2 process (ProcessTable.mem_of_currentProcess isCurrent)
    exact ended.trans (bypasses_leaveEnded _ machine someone) apart

theorem bypasses_giveWay (waitForDeadline : Bool) :
    Bypasses endpoint runtime
      ((runtime.updateCurrent (Process.suspend runtime.frame .ready)).scheduleNextReadyInner
        machine false waitForDeadline).2 := by
  have suspended : Bypasses endpoint runtime
      (runtime.updateCurrent (Process.suspend runtime.frame .ready)) :=
    .updateCurrent fun _ => .of_idle rfl id id
  exact suspended.trans (bypasses_scheduleNextReadyInner _ machine false waitForDeadline)

theorem bypasses_yieldCurrentProcess :
    Bypasses endpoint runtime (runtime.yieldCurrentProcess machine).2 := by
  have given : Bypasses endpoint runtime ((runtime.updateCurrent
      (Process.suspend runtime.frame .ready)).scheduleNextReadyExcludingCurrent machine).2 :=
    bypasses_giveWay runtime machine true
  unfold yieldCurrentProcess
  split
  · exact .refl runtime
  dsimp only
  split
  · exact given
  · exact given.trans .resume

theorem bypasses_preemptCurrentProcess :
    Bypasses endpoint runtime (runtime.preemptCurrentProcess machine).2 := by
  have woken : Bypasses endpoint runtime (runtime.wakeTimedFromInterrupt machine) :=
    runtime.bypasses_wakeTimedProcesses _
  unfold preemptCurrentProcess
  generalize runtime.wakeTimedFromInterrupt machine = middle at woken
  have given : Bypasses endpoint middle ((middle.updateCurrent
      (Process.suspend middle.frame .ready)).scheduleNextReadyNoWaitExcludingCurrent machine).2 :=
    bypasses_giveWay middle machine false
  dsimp only
  split
  · exact woken
  split
  · exact woken
  split
  · exact woken
  · split
    · exact woken.trans given
    · exact woken.trans (given.trans .resume)

end

end VertexOS
