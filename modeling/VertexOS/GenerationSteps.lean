import VertexOS.BootSteps
import VertexOS.Generations

/-!
# What a switch of generations can do

What each call can do to the staged and the running generation, said once for all runs.
-/

namespace VertexOS

open ByteStrings FailingCalls

def KeepsGeneration (before after : RuntimeState) : Prop :=
  after.generationId = before.generationId ∧ after.activeConfig = before.activeConfig

instance : IsTrans RuntimeState KeepsGeneration :=
  ⟨fun _ _ _ one two => ⟨two.1.trans one.1, two.2.trans one.2⟩⟩

instance : Std.Refl KeepsGeneration := ⟨fun _ => ⟨rfl, rfl⟩⟩

theorem keepsGeneration_newCapability {runtime after : RuntimeState} {object : KernelObjectId}
    {rights : Rights} {owner delegatedBy : ProcessId} {parentCapId : Nat} {cap : Capability}
    (made : runtime.newCapability object rights owner parentCapId delegatedBy =
      .ok (cap, after)) : KeepsGeneration runtime after := by
  obtain ⟨_, _, _, _, same⟩ := newCapability_ok made
  rw [same]
  exact ⟨rfl, rfl⟩

theorem bootSteps_keepsGeneration : BootSteps KeepsGeneration where
  vfs _ _ := ⟨rfl, rfl⟩
  mount added := by
    unfold RuntimeState.addVfsMount at added
    split at added
    · cases added
    · obtain ⟨⟨_, _⟩, _, result⟩ := outcome_bind_ok.mp added
      cases result
      exact ⟨rfl, rfl⟩
  objects _ := ⟨rfl, rfl⟩
  installed _ _ := ⟨rfl, rfl⟩
  process _ := ⟨rfl, rfl⟩
  starts _ _ _ := ⟨rfl, rfl⟩
  grants object rights owner slot := by
    refine .get_bind fun runtime => .fromExcept_bind ?_
    rintro ⟨cap, middle⟩ made
    have first := keepsGeneration_newCapability (mapError_ok.mp made)
    exact .set_bind first <| .get_bind <| .fromOption_bind fun _ _ => .fromExcept_bind fun _ _ =>
      .fromExcept_bind fun _ _ => ⟨rfl, rfl⟩

theorem keepsGeneration_build (environment : BootEnvironment) (config : BootRuntimeConfig)
    (files : VertexFsBootFiles) (initialIndex : Nat) (initialProcess : BootProcessConfig)
    (runtime : RuntimeState) :
    KeepsGeneration runtime
      (exec (buildBootConfigRuntime environment config files initialIndex initialProcess)
        runtime).2 :=
  (bootSteps_keepsGeneration.always_buildBootConfigRuntime ..).evolves runtime

def Restages (before after : GenerationState) : Prop :=
  after = { before with staging := after.staging }

instance : IsTrans GenerationState Restages :=
  ⟨fun first second third (one : _ = _) (two : _ = _) => show _ = _ by rw [two, one]⟩

instance : Std.Refl Restages := ⟨fun _ => rfl⟩

section

variable {machine : SwitchMachine} {state after : GenerationState}

theorem restages_stageBootConfigRuntime (machine : SwitchMachine) (config : BootRuntimeConfig) :
    Always Restages (stageBootConfigRuntime machine config) :=
  .bind (.fromExcept _) fun _ => .bind (.fromExcept _) fun _ => .bind (.fromOption ..) fun _ =>
    .bind (.require ..) fun _ => .bind (.fromOption ..) fun _ => .bind .get fun _ =>
    .bind (.fromExcept _) fun _ => .bind (.modify fun _ => rfl) fun _ => .bind ⟨fun _ => rfl⟩ fun _ =>
    .pure _

theorem stageBootConfigRuntime_ok {config : BootRuntimeConfig} {build : StagingBuild}
    (staged : exec (stageBootConfigRuntime machine config) state = (.ok build, after)) :
    build.oldContexts = state.runtime.reapTargets ∧
      after.staging.generationId = config.generationId ∧
      after.staging.activeConfig = some config := by
  obtain ⟨_, _, staged⟩ := exec_fromExcept_bind_ok.mp staged
  obtain ⟨index, _, staged⟩ := exec_fromExcept_bind_ok.mp staged
  obtain ⟨process, _, staged⟩ := exec_fromOption_bind_ok.mp staged
  obtain ⟨_, staged⟩ := exec_require_bind_ok.mp staged
  obtain ⟨context, _, staged⟩ := exec_fromOption_bind_ok.mp staged
  rw [exec_get_bind] at staged
  obtain ⟨files, _, staged⟩ := exec_fromExcept_bind_ok.mp staged
  rw [exec_modify_bind] at staged
  obtain ⟨_, middle, built, staged⟩ := exec_bind_ok.mp staged
  obtain ⟨rfl, rfl⟩ := exec_pure_ok.mp staged
  rw [exec_onPart] at built
  obtain ⟨_, rfl⟩ := Prod.mk.inj built
  exact ⟨rfl, keepsGeneration_build ..⟩

end

/-- A switch from the running generation began, and nothing is selected yet. -/
structure BootManagerState.Prepared (before after : BootManagerState) (running : String) :
    Prop where
  selected : after.selectedGeneration = before.selectedGeneration
  knownGood : after.knownGoodGeneration = before.knownGoodGeneration
  previous : after.previousGeneration = running

/-- What is known of a generation that was staged next to the running one. -/
structure StagedFrom (before : GenerationState) (requested : Bytes) (rollback : Bool)
    (staged : StagedGeneration) (staging : RuntimeState) : Prop where
  name : utf8 staged.generationId = requested
  kind : staged.rollback = rollback
  previousGeneration : staged.previousGeneration = before.runtime.generationId
  previousConfig : staged.previousConfig = before.runtime.activeConfig
  oldContexts : staged.build.oldContexts = before.runtime.reapTargets
  generationId : staging.generationId = staged.config.generationId
  activeConfig : staging.activeConfig = some staged.config
  source :
    if rollback then before.rollbackRuntime = some ⟨staged.generationId, staged.config⟩
    else ⟨staged.generationId, staged.config⟩ ∈ before.generationRuntimes ∧
      before.failedGeneration ≠ some staged.generationId

/-- A call that stages a generation is refused before it changes anything, finds it
running already, gives the switch up, or stages it. -/
inductive StageEnd (before : GenerationState) (read : Option Bytes) (rollback : Bool) :
    Except IpcError Unit × GenerationState → Prop
  | refused (error : IpcError) : StageEnd before read rollback (.error error, before)
  | already {requested : Bytes} (isRead : read = some requested) (forward : rollback = false)
      (running : utf8 before.runtime.generationId = requested) :
      StageEnd before read rollback (.ok (), before)
  | aborted {bootManager : BootManagerState} {staging : RuntimeState}
      {reaped : List RuntimeReapTarget}
      (prepared : before.bootManager.Prepared bootManager before.runtime.generationId) :
      StageEnd before read rollback (.error .badCapability,
        { before with bootManager, staging, reaped, stagedGeneration := none })
  | staged {requested : Bytes} {staged : StagedGeneration} {bootManager : BootManagerState}
      {staging : RuntimeState} {reaped : List RuntimeReapTarget} (isRead : read = some requested)
      (prepared : before.bootManager.Prepared bootManager before.runtime.generationId)
      (isStaged : StagedFrom before requested rollback staged staging) :
      StageEnd before read rollback (.ok (),
        { before with bootManager, staging, reaped, stagedGeneration := some staged })

/-- The staged generation takes over, after an activation or after a rollback. -/
def GenerationState.commit (state : GenerationState) (machine : Machine) (rollback : Bool)
    (staged : StagedGeneration) : GenerationState :=
  if rollback then state.commitRollback machine staged else state.commitActivation machine staged

section

variable (state : GenerationState) (machine : Machine) (rollback : Bool) (staged : StagedGeneration)

theorem GenerationState.commit_eq : state.commit machine rollback staged =
    { (state.setRollbackToPrevious staged) with
      runtime := state.staging
      stagedGeneration := none
      failedGeneration :=
        if rollback ∧ staged.previousConfig.isSome then some staged.previousGeneration
        else state.failedGeneration
      bootManager :=
        let started := state.bootManager.startBoot staged.config.generationId
        if rollback then
          started.markFailedAndFallback staged.previousGeneration staged.generationId
        else started.installSelected staged.previousGeneration staged.generationId
      failures :=
        if rollback ∧ staged.previousConfig.isSome then staged.previousGeneration :: state.failures
        else state.failures
      reaped := state.reaped ++ reapRuntimeContexts machine staged.build.oldContexts } := by
  unfold commit
  cases rollback <;> cases known : staged.previousConfig <;>
    simp [commitRollback, commitActivation, recordFailedPrevious, setRollbackToPrevious, known,
      commitStagedBootConfigRuntime, setFailedGeneration]

end

/-- A call that switches generations finds it running already, fails where staging left
it, or enters the generation that was staged. -/
inductive SwitchEnd (before : GenerationState) (machine : Machine) (read : Option Bytes)
    (rollback : Bool) : Except IpcError SwitchResult × GenerationState → Prop
  | returned {requested : Bytes} (isRead : read = some requested) (forward : rollback = false)
      (running : utf8 before.runtime.generationId = requested) :
      SwitchEnd before machine read rollback (.ok .returned, before)
  | failed {outcome : Except IpcError Unit} {after : GenerationState} (error : IpcError)
      (staging : StageEnd before read rollback (outcome, after)) :
      SwitchEnd before machine read rollback (.error error, after)
  | entered {requested : Bytes} {staged : StagedGeneration} {middle : GenerationState}
      (context : ProcessContext) (isRead : read = some requested)
      (staging : middle = before ∨
        before.stagedFor requested rollback = none ∧ StageEnd before read rollback (.ok (), middle))
      (isStaged : middle.stagedFor requested rollback = some staged) :
      SwitchEnd before machine read rollback
        (.ok (.entered context), middle.commit machine rollback staged)

section Calls

variable {machine : SwitchMachine} {before : GenerationState} {capSlot generation len : Nat}
  {read : Option Bytes} {rollback : Bool} {requested : Bytes}

theorem always_eq_readGenerationRequest (machine : Machine) (capSlot generation len : Nat) :
    Always Eq (readGenerationRequest machine capSlot generation len) :=
  .bind (.require ..) fun _ => .bind .get fun _ => .bind (.fromExcept _) fun _ => .fromOption ..

theorem ends_readGenerationRequest_bind {α : Type} {P : Except IpcError α × GenerationState → Prop}
    {next : Bytes → GenerationCall α} (refused : ∀ error, P (.error error, before))
    (rest : ∀ requested, machine.readUser generation len = some requested →
      Ends P (next requested) before) :
    Ends P (readGenerationRequest machine.toMachine capSlot generation len >>= next) before := by
  have same := (always_eq_readGenerationRequest machine.toMachine capSlot generation len).evolves
    before
  refine .bind ?_ ?_
  · intro error after failed
    rw [Evolves, failed] at same
    obtain rfl : before = after := same
    exact refused error
  · intro requested after isRead
    rw [Evolves, isRead] at same
    obtain rfl : before = after := same
    obtain ⟨_, isRead⟩ := exec_require_bind_ok.mp isRead
    rw [exec_get_bind] at isRead
    obtain ⟨_, _, isRead⟩ := exec_fromExcept_bind_ok.mp isRead
    rw [exec_fromOption] at isRead
    cases found : machine.readUser generation len with
    | none => simp [found] at isRead
    | some name =>
      obtain rfl : name = requested := by simpa [found] using isRead
      exact rest name found

theorem stageEnd_abortSwitch {state : GenerationState}
    {change : BootManagerState → BootManagerState} (stateIs : state = { before with
      bootManager := state.bootManager, staging := state.staging, reaped := state.reaped
      stagedGeneration := none }) (prepared : before.bootManager.Prepared (change state.bootManager)
      before.runtime.generationId) :
    Ends (StageEnd before read rollback) (abortSwitch change) state := by
  have ended : exec (abortSwitch change) state = (.error .badCapability, { before with
        bootManager := change state.bootManager, staging := state.staging
        reaped := state.reaped, stagedGeneration := none }) := by
    rw [stateIs]
    rfl
  rw [Ends, ended]
  exact .aborted prepared

theorem stageEnd_stageTarget {target : GenerationRuntime} {buildFailure : String}
    {state : GenerationState} (isRead : read = some requested)
    (name : utf8 target.generationId = requested)
    (source : if rollback then before.rollbackRuntime = some target
      else target ∈ before.generationRuntimes ∧
        before.failedGeneration ≠ some target.generationId) (stateIs : state = { before with
      bootManager := state.bootManager, reaped := state.reaped, stagedGeneration := none })
    (prepared : before.bootManager.Prepared state.bootManager before.runtime.generationId) :
    Ends (StageEnd before read rollback) (stageTarget machine target rollback buildFailure)
      state := by
  have running : state.runtime = before.runtime := by rw [stateIs]
  refine .get_bind ?_
  dsimp only
  split
  · exact stageEnd_abortSwitch (by rw [stateIs])
      ⟨prepared.selected, prepared.knownGood, prepared.previous⟩
  · refine .attempt_bind ?_
    have restaged : Restages state _ :=
      (restages_stageBootConfigRuntime machine target.config).evolves state
    rcases outcome : exec (stageBootConfigRuntime machine target.config) state with
      ⟨error | build, after⟩
    · rw [outcome] at restaged
      have restaged : after = { state with staging := after.staging } := restaged
      refine stageEnd_abortSwitch ?_ ?_
      · rw [restaged, stateIs]
      · rw [restaged]
        exact ⟨prepared.selected, prepared.knownGood, prepared.previous⟩
    · rw [outcome] at restaged
      have restaged : after = { state with staging := after.staging } := restaged
      obtain ⟨oldContexts, generationId, activeConfig⟩ := stageBootConfigRuntime_ok outcome
      change StageEnd before read rollback (.ok (), { after with
        stagedGeneration := some
          { generationId := target.generationId
            config := target.config
            previousGeneration := state.runtime.generationId
            previousConfig := state.runtime.activeConfig
            build, rollback } })
      rw [running] at oldContexts ⊢
      rw [restaged, stateIs]
      exact .staged isRead prepared
        ⟨name, rfl, rfl, rfl, oldContexts, generationId, activeConfig, source⟩

theorem stageEnd_prepareSwitch_bind {target : String} {next : PUnit → GenerationCall Unit}
    (rest : ∀ state : GenerationState, state = { before with
        bootManager := state.bootManager, reaped := state.reaped, stagedGeneration := none } →
      before.bootManager.Prepared state.bootManager before.runtime.generationId →
        Ends (StageEnd before read rollback) (next ⟨⟩) state) :
    Ends (StageEnd before read rollback) (prepareSwitch machine.toMachine target >>= next)
      before := by
  refine .modify_bind (rest _ ?_ ?_)
  · unfold GenerationState.discardUncommittedStagedGeneration
    split
    · rename_i nothing
      rw [Option.isNone_iff_eq_none] at nothing
      simp only [GenerationState.updateBootManager, ← nothing]
    · rfl
  · unfold GenerationState.discardUncommittedStagedGeneration
    split <;> exact ⟨rfl, rfl, rfl⟩

theorem GenerationRuntime.of_find {table : List GenerationRuntime} {target : GenerationRuntime}
    (found : find table requested = some target) :
    target ∈ table ∧ utf8 target.generationId = requested :=
  ⟨List.mem_of_find?_eq_some found, by simpa using List.find?_some found⟩

theorem stageEnd_stageGeneration :
    Ends (StageEnd before (machine.readUser generation len) false)
      (stageGeneration machine capSlot generation len) before := by
  refine ends_readGenerationRequest_bind .refused fun requested isRead => .get_bind <|
    .fromOption_bind (fun _ => .refused _) fun target found =>
    .require_bind (fun _ => .refused _) fun notFailed => .ite ?_ ?_
  all_goals obtain ⟨member, name⟩ := GenerationRuntime.of_find found
  · intro running
    exact .pure (.already isRead rfl (by rw [running, name]))
  · intro _
    refine stageEnd_prepareSwitch_bind fun state stateIs prepared => ?_
    split
    · exact stageEnd_stageTarget isRead name ⟨member, notFailed⟩ stateIs prepared
    · exact stageEnd_abortSwitch (by rw [stateIs])
        ⟨prepared.selected, prepared.knownGood, prepared.previous⟩

theorem stageEnd_stageRollbackGeneration :
    Ends (StageEnd before (machine.readUser generation len) true)
      (stageRollbackGeneration machine capSlot generation len) before :=
  ends_readGenerationRequest_bind .refused fun _ isRead => .get_bind <|
    .fromOption_bind (fun _ => .refused _) fun _ isSource =>
    .require_bind (fun _ => .refused _) fun name =>
    stageEnd_prepareSwitch_bind fun _ stateIs prepared =>
      stageEnd_stageTarget isRead name isSource stateIs prepared

theorem switchEnd_commit {middle : GenerationState}
    {call : StagedGeneration → GenerationCall SwitchResult} (isRead : read = some requested)
    (staging : middle = before ∨
      before.stagedFor requested rollback = none ∧ StageEnd before read rollback (.ok (), middle))
    (commits : ∀ staged state, exec (call staged) state =
      (.ok (.entered staged.build.initialContext),
        state.commit machine.toMachine rollback staged)) :
    Ends (SwitchEnd before machine.toMachine read rollback)
      (fromOption .badCapability (middle.stagedFor requested rollback) >>= call) middle := by
  refine .fromOption_bind ?_ ?_
  · intro _
    rcases staging with rfl | ⟨-, staging⟩
    · exact .failed _ (.refused .badCapability)
    · exact .failed _ staging
  · intro staged isStaged
    rw [Ends, commits]
    exact .entered _ isRead staging isStaged

theorem switchEnd_staging {stage : GenerationCall Unit} {commit : GenerationCall SwitchResult}
    {call : StagedGeneration → GenerationCall SwitchResult} (isRead : read = some requested)
    (stages : Ends (StageEnd before read rollback) stage before) (commitIs : commit = do
      call (← fromOption .badCapability ((← get).stagedFor requested rollback)))
    (commits : ∀ staged state, exec (call staged) state =
      (.ok (.entered staged.build.initialContext),
        state.commit machine.toMachine rollback staged)) :
    Ends (SwitchEnd before machine.toMachine read rollback)
      (if (before.stagedFor requested rollback).isNone then stage >>= fun _ => commit else commit)
      before := by
  subst commitIs
  refine .ite ?_ ?_
  · intro nothing
    refine .bind ?_ ?_
    · intro error after failed
      rw [Ends, failed] at stages
      exact .failed error stages
    · intro _ after isStaged
      rw [Ends, isStaged] at stages
      exact .get_bind (switchEnd_commit isRead
        (.inr ⟨Option.isNone_iff_eq_none.mp nothing, stages⟩) commits)
  · intro _
    exact .get_bind (switchEnd_commit isRead (.inl rfl) commits)

theorem switchEnd_activateGeneration :
    Ends (SwitchEnd before machine.toMachine (machine.readUser generation len) false)
      (activateGeneration machine capSlot generation len) before := by
  refine ends_readGenerationRequest_bind (fun error => .failed error (.refused error))
    fun requested isRead => .get_bind <| .ite ?_ ?_
  · intro running
    exact .pure (.returned isRead rfl running)
  · intro _
    exact .get_bind (switchEnd_staging isRead stageEnd_stageGeneration rfl fun _ _ => rfl)

theorem switchEnd_rollbackGeneration :
    Ends (SwitchEnd before machine.toMachine (machine.readUser generation len) true)
      (rollbackGeneration machine capSlot generation len) before :=
  ends_readGenerationRequest_bind (fun error => .failed error (.refused error))
    fun _ isRead => .get_bind
      (switchEnd_staging isRead stageEnd_stageRollbackGeneration rfl fun _ _ => rfl)

section

variable (isRead : ∀ read, machine.readUser generation len = some read → read = requested)
include isRead

theorem ends_activateGeneration_running (running : utf8 before.runtime.generationId = requested) :
    Ends (fun ended => ended.2 = before) (activateGeneration machine capSlot generation len)
      before := by
  refine ends_readGenerationRequest_bind (fun _ => rfl) fun read found => .get_bind <|
    .ite (fun _ => rfl) fun other => ?_
  exact absurd (running.trans (isRead read found).symm) other

/-- How the switch to a generation that is staged ends: it is refused, or it is made. -/
def SwitchesTo (before : GenerationState) (machine : Machine) (rollback : Bool)
    (staged : StagedGeneration) (ended : Except IpcError SwitchResult × GenerationState) : Prop :=
  (∃ error, ended = (.error error, before)) ∨
    ∃ context, ended = (.ok (.entered context), before.commit machine rollback staged)

theorem ends_activateGeneration_staged {staged : StagedGeneration}
    (other : utf8 before.runtime.generationId ≠ requested)
    (isStaged : before.stagedFor requested false = some staged) :
    Ends (SwitchesTo before machine.toMachine false staged)
      (activateGeneration machine capSlot generation len) before := by
  refine ends_readGenerationRequest_bind (fun error => .inl ⟨error, rfl⟩) fun read found =>
    .get_bind <| .ite ?_ fun _ => .get_bind ?_
  all_goals obtain rfl := isRead read found
  · exact fun running => absurd running other
  · rw [isStaged, if_neg (by simp)]
    refine .get_bind ?_
    rw [isStaged]
    exact .inr ⟨_, rfl⟩

theorem ends_rollbackGeneration_staged {staged : StagedGeneration}
    (isStaged : before.stagedFor requested true = some staged) :
    Ends (SwitchesTo before machine.toMachine true staged)
      (rollbackGeneration machine capSlot generation len) before := by
  refine ends_readGenerationRequest_bind (fun error => .inl ⟨error, rfl⟩) fun read found =>
    .get_bind ?_
  obtain rfl := isRead read found
  rw [isStaged, if_neg (by simp)]
  refine .get_bind ?_
  rw [isStaged]
  exact .inr ⟨_, rfl⟩

theorem ends_stageRollbackGeneration_other
    (other : ∀ target, before.rollbackRuntime = some target → utf8 target.generationId ≠
      requested) :
    Ends (fun ended => ∃ error, ended = (.error error, before))
      (stageRollbackGeneration machine capSlot generation len) before := by
  refine ends_readGenerationRequest_bind (fun error => ⟨error, rfl⟩) fun read found =>
    .get_bind <| .fromOption_bind (fun _ => ⟨_, rfl⟩) fun target isTarget =>
    .require_bind (fun _ => ⟨_, rfl⟩) fun name => ?_
  exact absurd (name.trans (isRead read found)) (other target isTarget)

end

/-- A verification changes nothing, and accepts only a registered generation that is not
the one that failed last. -/
theorem ends_verifyGeneration :
    Ends (fun ended => ended.2 = before ∧ (ended.1 = .ok () →
        ∃ target ∈ before.generationRuntimes,
          machine.readUser generation len = some (utf8 target.generationId) ∧
            before.failedGeneration ≠ some target.generationId))
      (verifyGeneration machine capSlot generation len) before := by
  refine ends_readGenerationRequest_bind (fun _ => ⟨rfl, nofun⟩) fun requested isRead =>
    .get_bind <| .fromOption_bind (fun _ => ⟨rfl, nofun⟩) fun target found =>
    .require_bind (fun _ => ⟨rfl, nofun⟩) fun notFailed => ?_
  obtain ⟨member, name⟩ := GenerationRuntime.of_find found
  exact ⟨rfl, fun _ => ⟨target, member, isRead.trans (congrArg some name.symm), notFailed⟩⟩

theorem ends_markKnownGoodGeneration :
    Ends (fun ended => (∃ error, ended = (.error error, before)) ∨
        (machine.readUser generation len = some (utf8 before.runtime.generationId) ∧
          ended = (.ok (), before.updateBootManager fun manager =>
            manager.markKnownGood before.runtime.generationId)))
      (markKnownGoodGeneration machine capSlot generation len) before := by
  refine ends_readGenerationRequest_bind (fun error => .inl ⟨error, rfl⟩) fun requested isRead =>
    .get_bind <| .fromOption_bind (fun _ => .inl ⟨_, rfl⟩) fun target found =>
    .require_bind (fun _ => .inl ⟨_, rfl⟩) fun isRunning =>
    .fromExcept_bind (fun error _ => .inl ⟨error, rfl⟩) fun _ _ => .inr ?_
  obtain ⟨-, name⟩ := GenerationRuntime.of_find found
  rw [← isRunning]
  exact ⟨isRead.trans (congrArg some name.symm), rfl⟩

end Calls

end VertexOS
