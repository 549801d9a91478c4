import VertexOS.GenerationSteps
import VertexOS.VertexFsCreate

/-!
# Runs of generation calls

The calls that stage, switch and roll back generations follow each other in any
order.  A generation that a rollback left is recorded as failed, but the record has
room for one name and a rollback does not look at it.
-/

namespace VertexOS

open ByteStrings FailingCalls

inductive SwitchCall where
  | verify
  | stage
  | activate
  | stageRollback
  | rollback
  | markKnownGood
deriving DecidableEq

/-- A call with its arguments and with what it finds outside the kernel. -/
structure SwitchRequest where
  call : SwitchCall
  machine : SwitchMachine
  capSlot : Nat
  generation : Nat
  len : Nat

namespace SwitchRequest

def name (request : SwitchRequest) : Option Bytes :=
  request.machine.readUser request.generation request.len

def body (request : SwitchRequest) : GenerationCall SwitchResult :=
  let { call, machine, capSlot, generation, len } := request
  match call with
  | .verify => do
    verifyGeneration machine capSlot generation len
    return .returned
  | .stage => do
    stageGeneration machine capSlot generation len
    return .returned
  | .activate => activateGeneration machine capSlot generation len
  | .stageRollback => do
    stageRollbackGeneration machine capSlot generation len
    return .returned
  | .rollback => rollbackGeneration machine capSlot generation len
  | .markKnownGood => do
    markKnownGoodGeneration machine capSlot generation len
    return .returned

end SwitchRequest

namespace GenerationState

variable (state : GenerationState)

def serve (request : SwitchRequest) : GenerationState :=
  (exec request.body state).2

def run (requests : List SwitchRequest) : GenerationState :=
  requests.foldl serve state

def Enters (request : SwitchRequest) (generationId : String) : Prop :=
  (∃ context, (exec request.body state).1 = .ok (.entered context)) ∧
    (state.serve request).runtime.generationId = generationId

/-- No request of the run enters a generation that was recorded as failed before it. -/
def FailedStayFailed (requests : List SwitchRequest) : Prop :=
  ∀ before request after, requests = before ++ request :: after →
    ∀ failed ∈ (state.run before).failures, ¬(state.run before).Enters request failed

/-- The names in the tables are those of the configurations they stand for, and a
generation that waits for its activation is not the one that failed last. -/
structure Consistent (state : GenerationState) : Prop where
  registered : ∀ runtime ∈ state.generationRuntimes,
    runtime.config.generationId = runtime.generationId
  rollback : ∀ runtime, state.rollbackRuntime = some runtime →
    runtime.config.generationId = runtime.generationId
  running : ∀ config, state.runtime.activeConfig = some config →
    config.generationId = state.runtime.generationId
  staged : ∀ staged, state.stagedGeneration = some staged →
    staged.config.generationId = staged.generationId ∧
      state.staging.generationId = staged.generationId ∧
      state.staging.activeConfig = some staged.config ∧
      (∀ config, staged.previousConfig = some config →
        config.generationId = staged.previousGeneration) ∧
      (staged.rollback = false → state.failedGeneration ≠ some staged.generationId)

end GenerationState

section

variable {before after middle : GenerationState} {read : Option Bytes} {rollback : Bool}
  {staged : StagedGeneration} {outcome : Except IpcError Unit}

theorem StagedFrom.consistent {requested : Bytes} {staging : RuntimeState}
    (isStaged : StagedFrom before requested rollback staged staging)
    (consistent : before.Consistent) :
    staged.config.generationId = staged.generationId ∧ staging.generationId = staged.generationId ∧
      staging.activeConfig = some staged.config ∧
      (∀ config, staged.previousConfig = some config →
        config.generationId = staged.previousGeneration) ∧
      (staged.rollback = false → before.failedGeneration ≠ some staged.generationId) := by
  have source := isStaged.source
  have named : staged.config.generationId = staged.generationId := by
    split at source
    · exact consistent.rollback _ source
    · exact consistent.registered _ source.1
  refine ⟨named, isStaged.generationId.trans named, isStaged.activeConfig, ?_, ?_⟩
  · rw [isStaged.previousConfig, isStaged.previousGeneration]
    exact consistent.running
  · intro forward
    rw [← isStaged.kind, if_neg (by simp [forward])] at source
    exact source.2

theorem StageEnd.consistent (staging : StageEnd before read rollback (outcome, after))
    (consistent : before.Consistent) : after.Consistent := by
  cases staging with
  | refused | already => exact consistent
  | aborted =>
    refine ⟨consistent.registered, consistent.rollback, consistent.running, ?_⟩
    intro staged isStaged
    cases isStaged
  | staged isRead prepared isStaged =>
    refine ⟨consistent.registered, consistent.rollback, consistent.running, ?_⟩
    rintro staged ⟨⟩
    exact isStaged.consistent consistent

theorem StageEnd.failedGeneration (staging : StageEnd before read rollback (outcome, after)) :
    after.failedGeneration = before.failedGeneration := by
  cases staging <;> rfl

theorem GenerationState.of_stagedFor {requested : Bytes}
    (isStaged : middle.stagedFor requested rollback = some staged) :
    middle.stagedGeneration = some staged ∧ staged.rollback = rollback ∧
      utf8 staged.generationId = requested := by
  obtain ⟨found, kept⟩ := Option.filter_eq_some_iff.mp isStaged
  simp only [decide_eq_true_eq] at kept
  exact ⟨found, kept⟩

theorem GenerationState.Consistent.commit (consistent : middle.Consistent) (machine : Machine)
    (isStaged : middle.stagedGeneration = some staged) :
    (middle.commit machine rollback staged).Consistent ∧
      (middle.commit machine rollback staged).runtime.generationId = staged.generationId := by
  obtain ⟨named, stagingNamed, active, previousNamed, -⟩ := consistent.staged staged isStaged
  have rolls : ∀ runtime, (middle.setRollbackToPrevious staged).rollbackRuntime = some runtime →
      runtime.config.generationId = runtime.generationId := by
    unfold GenerationState.setRollbackToPrevious
    split
    · exact consistent.rollback
    · rename_i config isConfig
      rintro runtime ⟨⟩
      exact previousNamed config isConfig
  have registered : (middle.setRollbackToPrevious staged).generationRuntimes =
      middle.generationRuntimes := by
    unfold GenerationState.setRollbackToPrevious
    split <;> rfl
  rw [GenerationState.commit_eq]
  refine ⟨⟨?_, rolls, ?_, ?_⟩, stagingNamed⟩
  · rw [registered]
    exact consistent.registered
  · intro config isConfig
    obtain rfl : staged.config = config := by simpa [active] using isConfig
    exact named.trans stagingNamed.symm
  · rintro _ ⟨⟩

theorem SwitchEnd.consistent {machine : Machine} {outcome : Except IpcError SwitchResult}
    (ended : SwitchEnd before machine read rollback (outcome, after))
    (consistent : before.Consistent) : after.Consistent := by
  cases ended with
  | returned => exact consistent
  | failed _ staging => exact staging.consistent consistent
  | entered _ _ staging isStaged =>
    obtain ⟨found, -⟩ := GenerationState.of_stagedFor isStaged
    rcases staging with rfl | ⟨-, staging⟩
    · exact (consistent.commit machine found).1
    · exact ((staging.consistent consistent).commit machine found).1

theorem SwitchEnd.entered_asked {machine : Machine} {context : ProcessContext}
    {result : Except IpcError SwitchResult × GenerationState}
    (ended : SwitchEnd before machine read rollback result)
    (entered : result.1 = .ok (.entered context)) (consistent : before.Consistent) :
    read = some (utf8 result.2.runtime.generationId) ∧
      (rollback = false → before.failedGeneration ≠ some result.2.runtime.generationId) := by
  cases ended with
  | returned | failed => cases entered
  | entered _ isRead staging isStaged =>
  rename_i staged middle _
  obtain ⟨found, kind, name⟩ := GenerationState.of_stagedFor isStaged
  obtain ⟨middleConsistent, failed⟩ :
      middle.Consistent ∧ middle.failedGeneration = before.failedGeneration := by
    rcases staging with rfl | ⟨-, staging⟩
    · exact ⟨consistent, rfl⟩
    · exact ⟨staging.consistent consistent, staging.failedGeneration⟩
  rw [(middleConsistent.commit machine found).2]
  refine ⟨by rw [isRead, name], ?_⟩
  intro forward
  rw [← failed]
  exact (middleConsistent.staged staged found).2.2.2.2 (kind.trans forward)

end

namespace GenerationState

variable {state : GenerationState} {request : SwitchRequest}

theorem Consistent.withBootManager (consistent : state.Consistent) (manager : BootManagerState) :
    { state with bootManager := manager }.Consistent :=
  ⟨consistent.registered, consistent.rollback, consistent.running, consistent.staged⟩

theorem Consistent.serve (consistent : state.Consistent) (request : SwitchRequest) :
    (state.serve request).Consistent := by
  obtain ⟨call, machine, capSlot, generation, len⟩ := request
  cases call with
  | activate => exact SwitchEnd.consistent switchEnd_activateGeneration consistent
  | rollback => exact SwitchEnd.consistent switchEnd_rollbackGeneration consistent
  | stage =>
    simp only [GenerationState.serve, SwitchRequest.body, exec_bind_pure]
    exact StageEnd.consistent stageEnd_stageGeneration consistent
  | stageRollback =>
    simp only [GenerationState.serve, SwitchRequest.body, exec_bind_pure]
    exact StageEnd.consistent stageEnd_stageRollbackGeneration consistent
  | verify =>
    simp only [GenerationState.serve, SwitchRequest.body, exec_bind_pure]
    have same : (exec (verifyGeneration machine capSlot generation len) state).2 = state :=
      ends_verifyGeneration.1
    rw [same]
    exact consistent
  | markKnownGood =>
    simp only [GenerationState.serve, SwitchRequest.body, exec_bind_pure]
    have ended : Ends _ (markKnownGoodGeneration machine capSlot generation len) state :=
      ends_markKnownGoodGeneration
    rcases ended with ⟨error, ended⟩ | ⟨-, ended⟩
    · rw [ended]
      exact consistent
    · rw [ended]
      exact consistent.withBootManager _

theorem Consistent.run (consistent : state.Consistent) (requests : List SwitchRequest) :
    (state.run requests).Consistent := by
  induction requests generalizing state with
  | nil => exact consistent
  | cons request rest ih => exact ih (consistent.serve request)

/-- The request asks for no generation that failed, except that an activation may ask for
the one that failed last. -/
def Spares (state : GenerationState) (request : SwitchRequest) : Prop :=
  ∀ failed ∈ state.failures, request.name = some (utf8 failed) →
    request.call ≠ .rollback ∧
      (request.call = .activate → state.failedGeneration = some failed)

/-- Every request of the run spares the generations that failed before it. -/
def Sparing (state : GenerationState) : List SwitchRequest → Prop
  | [] => True
  | request :: rest => state.Spares request ∧ (state.serve request).Sparing rest

theorem Sparing.spares {requests before after : List SwitchRequest} (sparing : state.Sparing requests)
    (split : requests = before ++ request :: after) : (state.run before).Spares request := by
  subst split
  induction before generalizing state with
  | nil => exact sparing.1
  | cons first rest ih => exact ih sparing.2

theorem not_entered_of_returning {call : GenerationCall Unit} {context : ProcessContext} :
    (exec (call >>= fun _ => return SwitchResult.returned) state).1 ≠ .ok (.entered context) := by
  rw [exec_bind_pure]
  rcases exec call state with ⟨_ | _, _⟩ <;> simp [Except.map]

/-- Only an activation or a rollback enters a generation: the one it asks for, and an
activation never the one that failed last. -/
theorem Consistent.asked_of_enters (consistent : state.Consistent) {generationId : String}
    (enters : state.Enters request generationId) :
    request.name = some (utf8 generationId) ∧
      (request.call = .rollback ∨
        request.call = .activate ∧ state.failedGeneration ≠ some generationId) := by
  obtain ⟨⟨context, entered⟩, rfl⟩ := enters
  obtain ⟨call, machine, capSlot, generation, len⟩ := request
  cases call with
  | activate =>
    obtain ⟨name, notFailed⟩ :=
      SwitchEnd.entered_asked switchEnd_activateGeneration entered consistent
    exact ⟨name, .inr ⟨rfl, notFailed rfl⟩⟩
  | rollback =>
    obtain ⟨name, -⟩ := SwitchEnd.entered_asked switchEnd_rollbackGeneration entered consistent
    exact ⟨name, .inl rfl⟩
  | stage | stageRollback | verify | markKnownGood => exact absurd entered not_entered_of_returning

/-- A run whose requests spare the failed generations enters none of them again. -/
theorem failedStayFailed_of_sparing (state : GenerationState) (consistent : state.Consistent)
    (requests : List SwitchRequest) (sparing : state.Sparing requests) :
    state.FailedStayFailed requests := by
  intro before request after split failed isFailed enters
  obtain ⟨name, kind⟩ := (consistent.run before).asked_of_enters enters
  obtain ⟨noRollback, lastFailed⟩ := sparing.spares split failed isFailed name
  rcases kind with isRollback | ⟨isActivation, notLast⟩
  · exact noRollback isRollback
  · exact notLast (lastFailed isActivation)

/-- Whatever calls came before, a generation is entered only by a call that asks for it, never by
an activation if it failed last, and it runs the configuration of its name. -/
theorem entered_as_asked (consistent : state.Consistent) (requests : List SwitchRequest)
    {generationId : String} (enters : (state.run requests).Enters request generationId) :
    request.name = some (utf8 generationId) ∧
      (request.call = .rollback ∨ request.call = .activate ∧
        (state.run requests).failedGeneration ≠ some generationId) ∧
      ∀ config, (state.run (requests ++ [request])).runtime.activeConfig = some config →
        config.generationId = generationId := by
  obtain ⟨name, call⟩ := (consistent.run requests).asked_of_enters enters
  refine ⟨name, call, fun config active => ?_⟩
  have named := (consistent.run (requests ++ [request])).running config active
  rw [run, List.foldl_append] at named
  exact named.trans enters.2

end GenerationState

def initProcessConfig : BootProcessConfig where
  name := "vertex-init"
  graphNode := "svc:vertex-init"
  imageBase := 0x200000
  imageLength := 0x1000
  initial := true
  restartPolicy := 0
  mountRoot := "/"
  mounts := []

def initOnlyConfig (generationId : String) : BootRuntimeConfig where
  generationId := generationId
  processes := [initProcessConfig]
  endpoints := ["serial-log"]
  manifestModule := some ⟨"krustboot-manifest", 0x300000, 0x1000⟩
  storeObjects := [⟨"store:vertex-init", 0x200000, 0x1000, "vertex-init"⟩]
  stateVolumes := []
  networkPorts := []
  ioPorts := []
  mmioRegions := []
  framebuffers := []
  interruptLines := []
  dmaRegions := []
  pciDevices := []
  virtioDevices := []
  namespaces := []
  vfsRoots := []
  grants := []
  policyCapabilities := []
  policyRequirements := []
  policyProvides := []
  policyMounts := [⟨"svc:vertex-init", "/", "", "", 0⟩]
  policyStatePaths := []
  policyBootstraps :=
    [⟨"svc:vertex-init", "boot-module:krustboot-manifest", "initial-manifest", rightRead⟩,
      ⟨"svc:vertex-init", "process-control", "initial-process-control",
        initialProcessControlRights⟩,
      ⟨"svc:vertex-init", "timer:monotonic-timer", "initial-restart-timer", rightControl⟩]

def obligingMachine (name : String) : SwitchMachine where
  toMachine :=
    { Machine.holding (utf8 name) with
      loadContext := fun _ _ => some ⟨0x5000, 0x400000, 0x800000⟩ }
  installable := fun _ => .ok ()
  manifestIntact := fun _ => true
  storeIntact := fun _ => true
  vertexFsImage := createImage vertexFsLayoutV1 (utf8 "gen:1")
  vertexFsFiles := .ok (createdFiles vertexFsLayoutV1 (utf8 "gen:1"))
  vertexFsFiles_eq := parseVertexFsImage_createImage (Or.inl rfl) (by constructor <;> decide)
  framebufferUsable := true

def askFor (call : SwitchCall) (name : String) : SwitchRequest where
  call := call
  machine := obligingMachine name
  capSlot := initialProcessControlCapSlot
  generation := 0
  len := (utf8 name).length

def twoGenerations : GenerationState where
  runtime :=
    (exec (buildBootConfigRuntime
        ⟨createImage vertexFsLayoutV1 (utf8 "gen:1"), true, ⟨0x4000, 0x400000, 0x800000⟩⟩
        (initOnlyConfig "gen:1") (createdFiles vertexFsLayoutV1 (utf8 "gen:1")) 0
        initProcessConfig)
      (.resetCapabilityLifecycle (initOnlyConfig "gen:1"))).2
  staging := .new
  generationRuntimes :=
    [⟨"gen:1", initOnlyConfig "gen:1"⟩, ⟨"gen:2", initOnlyConfig "gen:2"⟩]
  rollbackRuntime := none
  stagedGeneration := none
  failedGeneration := none
  bootManager := BootManagerState.new.startBoot "gen:1"
  failures := []
  reaped := []

theorem consistent_twoGenerations : twoGenerations.Consistent where
  registered := by decide
  rollback := nofun
  running := by
    have kept : KeepsGeneration (.resetCapabilityLifecycle (initOnlyConfig "gen:1"))
        twoGenerations.runtime := by
      simp only [twoGenerations]
      exact keepsGeneration_build ..
    intro config isActive
    rw [kept.2] at isActive
    cases isActive
    exact kept.1.symm
  staged := nofun

/-- A rollback from a generation is followed by a rollback to it. -/
theorem enters_secondRollback :
    (twoGenerations.run [askFor .activate "gen:2", askFor .rollback "gen:1"]).Enters
      (askFor .rollback "gen:2") "gen:2" :=
  ⟨⟨⟨0x5000, 0x400000, 0x800000⟩, by decide +kernel⟩, by decide +kernel⟩

theorem not_failedStayFailed_secondRollback :
    ¬twoGenerations.FailedStayFailed
      [askFor .activate "gen:2", askFor .rollback "gen:1", askFor .rollback "gen:2"] :=
  fun stays => stays [askFor .activate "gen:2", askFor .rollback "gen:1"] _ [] rfl "gen:2"
    (by decide +kernel) enters_secondRollback

/-- A failed generation that is activated again is refused. -/
theorem failedStayFailed_activatedAgain :
    twoGenerations.Consistent ∧
      twoGenerations.Sparing
        [askFor .activate "gen:2", askFor .rollback "gen:1", askFor .activate "gen:2"] ∧
      twoGenerations.FailedStayFailed
        [askFor .activate "gen:2", askFor .rollback "gen:1", askFor .activate "gen:2"] := by
  have sparing : twoGenerations.Sparing
      [askFor .activate "gen:2", askFor .rollback "gen:1", askFor .activate "gen:2"] := by
    refine ⟨?_, ?_, ?_, trivial⟩ <;> unfold GenerationState.Spares <;> decide +kernel
  exact ⟨consistent_twoGenerations, sparing,
    GenerationState.failedStayFailed_of_sparing _ consistent_twoGenerations _ sparing⟩

theorem entered_as_asked_secondRollback :
    (askFor .rollback "gen:2").name = some (utf8 "gen:2") ∧
      ∃ config, (twoGenerations.run ([askFor .activate "gen:2", askFor .rollback "gen:1"] ++
          [askFor .rollback "gen:2"])).runtime.activeConfig = some config ∧
        config.generationId = "gen:2" := by
  obtain ⟨name, -, runs⟩ :=
    GenerationState.entered_as_asked consistent_twoGenerations _ enters_secondRollback
  obtain ⟨config, active⟩ := Option.isSome_iff_exists.mp (show
    (twoGenerations.run ([askFor .activate "gen:2", askFor .rollback "gen:1"] ++
      [askFor .rollback "gen:2"])).runtime.activeConfig.isSome by decide +kernel)
  exact ⟨name, config, active, runs config active⟩

end VertexOS
