import VertexOS.BootManager
import VertexOS.KernelRuns

/-!
# Switching generations

A generation is staged next to the running one and takes over once it is entered.
-/

namespace VertexOS

open ByteStrings ByteImages FailingCalls

variable (machine : SwitchMachine)

def maxGenerationConfigs : Nat := 4

structure GenerationRuntime where
  generationId : String
  config : BootRuntimeConfig
deriving DecidableEq

structure RuntimeReapTarget where
  pid : ProcessId
  name : String
  cr3 : Nat
deriving DecidableEq, Repr

structure StagingBuild where
  initialContext : ProcessContext
  oldContexts : List RuntimeReapTarget

structure StagedGeneration where
  generationId : String
  config : BootRuntimeConfig
  previousGeneration : String
  previousConfig : Option BootRuntimeConfig
  build : StagingBuild
  rollback : Bool

/-- What a switch takes from outside, next to what a system call takes: the verdict on a
configuration, whether manifest and store objects still have their recorded hashes, and
the image and framebuffer that a boot reads. -/
structure SwitchMachine extends Machine where
  installable : BootRuntimeConfig → Except InitError Unit
  manifestIntact : BootModuleConfig → Bool
  storeIntact : BootStoreObjectConfig → Bool
  vertexFsImage : Image
  vertexFsFiles : Except VertexFsRejection VertexFsBootFiles
  vertexFsFiles_eq : parseVertexFsImage vertexFsImage = vertexFsFiles
  framebufferUsable : Bool

structure GenerationState where
  runtime : RuntimeState
  staging : RuntimeState
  generationRuntimes : List GenerationRuntime
  rollbackRuntime : Option GenerationRuntime
  stagedGeneration : Option StagedGeneration
  failedGeneration : Option String
  bootManager : BootManagerState
  /-- Every generation that was recorded as failed, the latest first. -/
  failures : List String
  reaped : List RuntimeReapTarget

abbrev GenerationCall := Call IpcError GenerationState

namespace GenerationRuntime

def register (table : List GenerationRuntime) (runtime : GenerationRuntime) :
    Except InitError (List GenerationRuntime) :=
  match table.findIdx? fun existing => existing.generationId = runtime.generationId with
  | some index => .ok (table.set index runtime)
  | none =>
    if table.length = maxGenerationConfigs then .error .objectTableFull
    else .ok (table ++ [runtime])

def find (table : List GenerationRuntime) (generationId : Bytes) : Option GenerationRuntime :=
  table.find? fun runtime => utf8 runtime.generationId = generationId

end GenerationRuntime

def verifyGenerationManifest (config : BootRuntimeConfig) :
    Except IpcError Unit :=
  match config.manifestModule with
  | none => .error .badCapability
  | some file =>
    if file.length = 0 ∨ machine.manifestIntact file = false then .error .badCapability
    else .ok ()

def verifyGenerationStoreClosure (config : BootRuntimeConfig) :
    Except IpcError Unit :=
  if config.storeObjects = [] then .error .badCapability
  else if config.storeObjects.all fun object => object.length ≠ 0 ∧ machine.storeIntact object then
    .ok ()
  else .error .badCapability

def verifyGenerationTransaction (config : BootRuntimeConfig) :
    Except IpcError Unit := do
  (machine.installable config).mapError fun _ => IpcError.badCapability
  verifyGenerationManifest machine config
  verifyGenerationStoreClosure machine config

namespace BootRuntimeConfig

def findStateVolume (config : BootRuntimeConfig) (id : String) : Option BootStateVolumeConfig :=
  config.stateVolumes.find? fun state => state.id = id

end BootRuntimeConfig

/-- A state volume of the target that also exists now keeps its schema or migrates. -/
def validateKeptState (previous : BootRuntimeConfig) (rollback : Bool)
    (target : BootStateVolumeConfig) : Except StateTransitionError Unit :=
  match previous.findStateVolume target.id with
  | none => .ok ()
  | some state =>
    if state.schemaVersion ≠ target.schemaVersion ∧ rollback = false ∧
        target.migrationPolicy ≠ "migrate" then
      .error ⟨target.id, state.schemaVersion, target.schemaVersion, "missing-migrate-policy", true⟩
    else .ok ()

/-- A state volume that the target does without may not be one that is then deleted. -/
def validateRemovedState (target : BootRuntimeConfig) (state : BootStateVolumeConfig) :
    Except StateTransitionError Unit :=
  if target.findStateVolume state.id = none ∧
      state.retentionPolicy = "delete-when-unreferenced" then
    .error
      ⟨state.id, state.schemaVersion, "<removed>", "unsupported-delete-retention-policy", true⟩
  else .ok ()

def validateStateTransitionPolicy (previous : Option BootRuntimeConfig)
    (target : BootRuntimeConfig) (rollback : Bool) : Except StateTransitionError Unit :=
  match previous with
  | none => .ok ()
  | some previous => do
    target.stateVolumes.forM (validateKeptState previous rollback)
    previous.stateVolumes.forM (validateRemovedState target)

def RuntimeState.reapTargets (runtime : RuntimeState) : List RuntimeReapTarget :=
  (runtime.processes.processes.filter fun process =>
    process.contextReaped = false ∧ process.context.cr3 ≠ 0).map fun process =>
      ⟨process.pid, process.name, process.context.cr3⟩

/-- The targets that are taken apart: the first one that cannot be ends the work. -/
def reapRuntimeContexts (machine : Machine) (targets : List RuntimeReapTarget) :
    List RuntimeReapTarget :=
  targets.takeWhile fun target => machine.reclaims target.cr3

namespace GenerationState

variable (state : GenerationState)

def updateBootManager (change : BootManagerState → BootManagerState) :
    GenerationState :=
  { state with bootManager := change state.bootManager }

def discardUncommittedStagedGeneration (machine : Machine) :
    GenerationState :=
  if state.stagedGeneration.isNone then state
  else { state with
    reaped := state.reaped ++ reapRuntimeContexts machine state.staging.reapTargets
    stagedGeneration := none }

def commitStagedBootConfigRuntime (machine : Machine)
    (config : BootRuntimeConfig) (build : StagingBuild) : GenerationState :=
  { state with
    bootManager := state.bootManager.startBoot config.generationId
    runtime := state.staging
    reaped := state.reaped ++ reapRuntimeContexts machine build.oldContexts }

def setFailedGeneration (generationId : String) : GenerationState :=
  { state with
    failedGeneration := some generationId
    failures := generationId :: state.failures }

end GenerationState

def orInvalidManifest {ε α : Type} (outcome : Except ε α) : Call InitError GenerationState α :=
  fromExcept (outcome.mapError fun _ => InitError.invalidBootManifest)

def stageBootConfigRuntime (config : BootRuntimeConfig) :
    Call InitError GenerationState StagingBuild := do
  fromExcept (machine.installable config)
  let initialIndex ← fromExcept config.initialProcessIndex
  let initialProcess ← fromOption .invalidBootManifest config.processes[initialIndex]?
  require .invalidBootManifest (initialProcess.imageBase ≠ 0 ∧ initialProcess.imageLength ≠ 0)
  let initialContext ← fromOption .invalidBootManifest
    (machine.loadContext initialProcess.imageBase initialProcess.imageLength)
  let oldContexts := (← get).runtime.reapTargets
  let files ← orInvalidManifest machine.vertexFsFiles
  modify fun state => { state with staging := .resetCapabilityLifecycle config }
  onPart GenerationState.staging (fun staging state => { state with staging })
    (buildBootConfigRuntime ⟨machine.vertexFsImage, machine.framebufferUsable, initialContext⟩
      config files initialIndex initialProcess)
  return { initialContext, oldContexts }

/-- A call that switches generations answers its caller, or the kernel enters the first
process of the new generation and the caller is gone. -/
inductive SwitchResult where
  | returned
  | entered (context : ProcessContext)
deriving DecidableEq

def readGenerationRequest (machine : Machine) (capSlot generation len : Nat) :
    GenerationCall Bytes := do
  require .messageTooLarge (len ≤ maxMessageBytes)
  let _ ← fromExcept ((← get).runtime.processControlFromCap capSlot (rightControl ||| rightRevoke))
  fromOption .invalidUserBuffer (machine.readUser generation len)

def abortSwitch (change : BootManagerState → BootManagerState) : GenerationCall Unit := do
  modify fun state => state.updateBootManager change
  throw .badCapability

def stageTarget (target : GenerationRuntime) (rollback : Bool)
    (buildFailure : String) : GenerationCall Unit := do
  let running := (← get).runtime
  match validateStateTransitionPolicy running.activeConfig target.config rollback with
  | .error error =>
    abortSwitch fun manager => manager.installStateMigrationAbort target.generationId error
  | .ok () =>
    match ← attempt (stageBootConfigRuntime machine target.config) with
    | .error _ => abortSwitch fun manager => manager.installAbort target.generationId buildFailure
    | .ok build =>
      modify fun state => { state with
        stagedGeneration := some
          { generationId := target.generationId
            config := target.config
            previousGeneration := running.generationId
            previousConfig := running.activeConfig
            build, rollback } }

def prepareSwitch (machine : Machine) (target : String) : GenerationCall Unit :=
  modify fun state =>
    (state.discardUncommittedStagedGeneration machine).updateBootManager fun manager =>
      manager.installPrepare state.runtime.generationId target

def stageGeneration (capSlot generation len : Nat) :
    GenerationCall Unit := do
  let requested ← readGenerationRequest machine.toMachine capSlot generation len
  let state ← get
  let target ← fromOption .badCapability
    (GenerationRuntime.find state.generationRuntimes requested)
  require .badCapability (state.failedGeneration ≠ some target.generationId)
  if state.runtime.generationId = target.generationId then pure ()
  else
    prepareSwitch machine.toMachine target.generationId
    match verifyGenerationTransaction machine target.config with
    | .ok () => stageTarget machine target false "runtime-build-failed"
    | .error _ =>
      abortSwitch fun manager => manager.installAbort target.generationId "verification-failed"

/-- The staged generation, when it is the requested one and staged for this kind of switch. -/
def GenerationState.stagedFor (state : GenerationState) (requested : Bytes) (rollback : Bool) :
    Option StagedGeneration :=
  state.stagedGeneration.filter fun staged =>
    staged.rollback = rollback ∧ utf8 staged.generationId = requested

def GenerationState.setRollbackToPrevious (state : GenerationState) (staged : StagedGeneration) :
    GenerationState :=
  match staged.previousConfig with
  | none => state
  | some config => { state with rollbackRuntime := some ⟨staged.previousGeneration, config⟩ }

def GenerationState.commitActivation (state : GenerationState) (machine : Machine)
    (staged : StagedGeneration) : GenerationState :=
  let committed := (state.setRollbackToPrevious staged).commitStagedBootConfigRuntime machine
    staged.config staged.build
  { committed with
    bootManager :=
      committed.bootManager.installSelected staged.previousGeneration staged.generationId
    stagedGeneration := none }

def activateGeneration (capSlot generation len : Nat) :
    GenerationCall SwitchResult := do
  let requested ← readGenerationRequest machine.toMachine capSlot generation len
  if utf8 (← get).runtime.generationId = requested then return .returned
  else
    if ((← get).stagedFor requested false).isNone then
      stageGeneration machine capSlot generation len
    let staged ← fromOption .badCapability ((← get).stagedFor requested false)
    modify fun state => state.commitActivation machine.toMachine staged
    return .entered staged.build.initialContext

def verifyGeneration (capSlot generation len : Nat) :
    GenerationCall Unit := do
  let requested ← readGenerationRequest machine.toMachine capSlot generation len
  let state ← get
  let target ← fromOption .badCapability
    (GenerationRuntime.find state.generationRuntimes requested)
  require .badCapability (state.failedGeneration ≠ some target.generationId)
  fromExcept (verifyGenerationTransaction machine target.config)

def markKnownGoodGeneration (capSlot generation len : Nat) :
    GenerationCall Unit := do
  let requested ← readGenerationRequest machine.toMachine capSlot generation len
  let state ← get
  let target ← fromOption .badCapability
    (GenerationRuntime.find state.generationRuntimes requested)
  require .badCapability (target.generationId = state.runtime.generationId)
  fromExcept (verifyGenerationTransaction machine target.config)
  modify fun state => state.updateBootManager fun manager =>
    manager.markKnownGood target.generationId

/-- A rollback is staged without asking whether its target failed before. -/
def stageRollbackGeneration (capSlot generation len : Nat) :
    GenerationCall Unit := do
  let requested ← readGenerationRequest machine.toMachine capSlot generation len
  let rollback ← fromOption .badCapability (← get).rollbackRuntime
  require .badCapability (utf8 rollback.generationId = requested)
  prepareSwitch machine.toMachine rollback.generationId
  stageTarget machine rollback true "rollback-build-failed"

/-- The generation that a rollback leaves is the next rollback's target, and it failed. -/
def GenerationState.recordFailedPrevious (state : GenerationState) (staged : StagedGeneration) :
    GenerationState :=
  if staged.previousConfig.isSome then
    (state.setRollbackToPrevious staged).setFailedGeneration staged.previousGeneration
  else state

def GenerationState.commitRollback (state : GenerationState) (machine : Machine)
    (staged : StagedGeneration) : GenerationState :=
  let committed := (state.commitStagedBootConfigRuntime machine staged.config
    staged.build).recordFailedPrevious staged
  { committed with
    bootManager :=
      committed.bootManager.markFailedAndFallback staged.previousGeneration staged.generationId
    stagedGeneration := none }

def rollbackGeneration (capSlot generation len : Nat) :
    GenerationCall SwitchResult := do
  let requested ← readGenerationRequest machine.toMachine capSlot generation len
  if ((← get).stagedFor requested true).isNone then
    stageRollbackGeneration machine capSlot generation len
  let staged ← fromOption .badCapability ((← get).stagedFor requested true)
  modify fun state => state.commitRollback machine.toMachine staged
  return .entered staged.build.initialContext

end VertexOS
