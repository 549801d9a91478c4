import VertexOS.GenerationMetadata
import VertexOS.GenerationRuns

/-!
# Booting a generation

The kernel registers the selected generation, those of the disk, the fallback and the bad one, to
which it may switch later, and then starts the selected one.
-/

namespace VertexOS

open ByteStrings ByteImages FailingCalls

variable (inputs : NativeBootInputs)

structure NativeManifest where
  generationId : String
  config : Option BootRuntimeConfig
  config_named : ∀ made, config = some made → made.generationId = generationId

/-- What the store holds for a generation, as far as the kernel gets with it. -/
inductive StoreManifest where
  | missing
  | malformed
  | unprepared
  | prepared (config : BootRuntimeConfig)

/-- What the boot loader hands over, and the disk with its store. -/
structure NativeBootInputs where
  selected : NativeManifest
  fallback : Option NativeManifest
  badGeneration : Option NativeManifest
  disk : Option VertexDisk
  storeManifest : String → StoreManifest

def maxDiskConfigs : Nat := 2

/-- The store keeps manifests under a prefix, and its names have the length of a field. -/
def hasStoreId (generationId : String) : Bool :=
  (utf8 "store:krustboot:").length + (utf8 generationId).length ≤ diskStringLen

namespace GenerationRuntime

def ofConfig (config : BootRuntimeConfig) : GenerationRuntime := ⟨config.generationId, config⟩

end GenerationRuntime

/-- What an entry of the metadata comes to: one that cannot be read or found ends the
work, one that the boot loader brought is passed over. -/
inductive DiskEntry where
  | stops
  | passes
  | unprepared
  | brings (config : BootRuntimeConfig)

def DiskEntry.ofManifest : StoreManifest → DiskEntry
  | .missing => .stops
  | .malformed => .stops
  | .unprepared => .unprepared
  | .prepared config => .brings config

namespace NativeBootInputs

def loaded : List String :=
  inputs.selected.generationId ::
    ((inputs.fallback.map NativeManifest.generationId).toList ++
      (inputs.badGeneration.map NativeManifest.generationId).toList)

def diskEntry (metadata : Image) (index : Nat) : DiskEntry :=
  match fixedStrAt metadata (metadataEntryOffset + index * metadataEntryLen) false with
  | none => .stops
  | some generationId =>
    if hasStoreId generationId = false then .stops
    else if generationId ∈ inputs.loaded then .passes
    else .ofManifest (inputs.storeManifest generationId)

def diskEntries (metadata : Image) : List DiskEntry :=
  (List.range (metadataCount metadata)).map (inputs.diskEntry metadata)

end NativeBootInputs

def registerDiskEntries :
    List DiskEntry → (configSlot : Nat) → List GenerationRuntime → List GenerationRuntime
  | [], _, table => table
  | .stops :: _, _, table => table
  | .passes :: rest, configSlot, table => registerDiskEntries rest configSlot table
  | .unprepared :: rest, configSlot, table =>
    if maxDiskConfigs ≤ configSlot then table else registerDiskEntries rest configSlot table
  | .brings config :: rest, configSlot, table =>
    if maxDiskConfigs ≤ configSlot then table
    else
      match GenerationRuntime.register table (.ofConfig config) with
      | .error _ => table
      | .ok after => registerDiskEntries rest (configSlot + 1) after

def registerVertexdiskGenerationConfigs
    (table : List GenerationRuntime) : List GenerationRuntime :=
  match inputs.disk.bind loadVertexdiskGenerationMetadata with
  | none => table
  | some metadata => registerDiskEntries (inputs.diskEntries metadata) 0 table

variable {inputs : NativeBootInputs}

theorem registerVertexdiskGenerationConfigs_of_load {metadata : Image}
    (load : inputs.disk.bind loadVertexdiskGenerationMetadata = some metadata)
    (table : List GenerationRuntime) :
    registerVertexdiskGenerationConfigs inputs table =
      registerDiskEntries (inputs.diskEntries metadata) 0 table := by
  unfold registerVertexdiskGenerationConfigs
  rw [load]

namespace GenerationState

variable (state : GenerationState)

def initial : GenerationState where
  runtime := .new
  staging := .new
  generationRuntimes := []
  rollbackRuntime := none
  stagedGeneration := none
  failedGeneration := none
  bootManager := .new
  failures := []
  reaped := []

def registerGenerationConfig (config : BootRuntimeConfig) :
    Option GenerationState :=
  match GenerationRuntime.register state.generationRuntimes (.ofConfig config) with
  | .error _ => none
  | .ok generationRuntimes => some { state with generationRuntimes }

/-- Register a second manifest of the boot loader, unless it is one that is there already. -/
def registerExtra (known : List String)
    (manifest : Option NativeManifest)
    (note : BootRuntimeConfig → GenerationState → GenerationState) : Option GenerationState :=
  match manifest with
  | none => some state
  | some manifest =>
    if manifest.generationId ∈ known then some state
    else
      match manifest.config with
      | none => none
      | some config => (state.registerGenerationConfig config).map (note config)

def generationConfigById (generationId : String) :
    Option BootRuntimeConfig :=
  (GenerationRuntime.find state.generationRuntimes (utf8 generationId)).map
    GenerationRuntime.config

def recoveredFailure (recovered : VertexDiskGenerationRecovery) : Option String :=
  if recovered.failureReason ≠ failureNone ∧
      (recovered.transactionTarget ≠ "" ∨ recovered.previousGeneration ≠ "") then
    let failed :=
      if recovered.transactionState = transactionRollback ∧ recovered.previousGeneration ≠ "" then
        recovered.previousGeneration
      else recovered.transactionTarget
    if failed = "" then none else some failed
  else none

/-- The configuration that is booted is the recovered one, or `bootstrap` when the
recovered one is not registered. -/
def selectRecovered (bootstrap : BootRuntimeConfig)
    (recovered : VertexDiskGenerationRecovery) : BootRuntimeConfig × GenerationState :=
  let installed := state.updateBootManager fun manager =>
    manager.recoverFromDisk recovered.selectedGeneration recovered.previousGeneration
      recovered.knownGoodGeneration (generationTransactionLabel recovered.transactionState)
      recovered.transactionTarget (generationFailureReasonLabel recovered.failureReason)
  match state.generationConfigById recovered.selectedGeneration with
  | none => (bootstrap, installed)
  | some active =>
    let previous :=
      if recovered.previousGeneration = "" then none
      else state.generationConfigById recovered.previousGeneration
    let ready := { installed with
      rollbackRuntime := (previous.map GenerationRuntime.ofConfig).or installed.rollbackRuntime }
    (active, ((recoveredFailure recovered).map ready.setFailedGeneration).getD ready)

def selectBoot (bootstrap : BootRuntimeConfig)
    (recovered : Option VertexDiskGenerationRecovery) : BootRuntimeConfig × GenerationState :=
  match recovered with
  | none => (bootstrap, state)
  | some recovered => state.selectRecovered bootstrap recovered

end GenerationState

def initFromBootConfig (machine : SwitchMachine) (config : BootRuntimeConfig) :
    Call InitError GenerationState Unit := do
  let build ← stageBootConfigRuntime machine config
  modify fun state => state.commitStagedBootConfigRuntime machine.toMachine config build

def chooseNativeBoot (inputs : NativeBootInputs) : Option (BootRuntimeConfig × GenerationState) := do
  let config ← inputs.selected.config
  let state ← GenerationState.initial.registerGenerationConfig config
  let state := { state with
    generationRuntimes := registerVertexdiskGenerationConfigs inputs state.generationRuntimes }
  let state ← state.registerExtra [inputs.selected.generationId] inputs.fallback
    fun fallback state => { state with rollbackRuntime := some (.ofConfig fallback) }
  let state ← state.registerExtra
    (inputs.selected.generationId :: (inputs.fallback.map NativeManifest.generationId).toList)
    inputs.badGeneration fun _ state => state
  return state.selectBoot config
    (recoverVertexdiskGenerationSelection inputs.disk inputs.selected.generationId)

/-- The kernel once a runtime is installed; nothing when the boot gives up before. -/
def runNativeBoot (inputs : NativeBootInputs) (machine : SwitchMachine) :
    Option GenerationState := do
  let (config, state) ← chooseNativeBoot inputs
  match exec (initFromBootConfig machine config) state with
  | (.ok (), booted) => some booted
  | (.error _, _) => none

namespace GenerationRuntime

def Registered (table : List GenerationRuntime) (generationId : String) : Prop :=
  ∃ runtime ∈ table, runtime.generationId = generationId

def Named (table : List GenerationRuntime) : Prop :=
  ∀ runtime ∈ table, runtime.config.generationId = runtime.generationId

section

variable {table after : List GenerationRuntime} {runtime : GenerationRuntime}
  {generationId : String}

theorem registered_iff_mem_map :
    Registered table generationId ↔ generationId ∈ table.map GenerationRuntime.generationId := by
  simp [Registered]

theorem register_ok (registered : register table runtime = .ok after) :
    (∃ index old, table[index]? = some old ∧ old.generationId = runtime.generationId ∧
      after = table.set index runtime) ∨ after = table ++ [runtime] := by
  unfold register at registered
  split at registered
  · rename_i index found
    obtain ⟨inside, same, -⟩ := List.findIdx?_eq_some_iff_getElem.mp found
    cases registered
    exact .inl ⟨index, table[index], List.getElem?_eq_getElem inside, by simpa using same, rfl⟩
  · split at registered
    · cases registered
    · cases registered
      exact .inr rfl

theorem registered_register (registered : register table runtime = .ok after) :
    Registered after generationId ↔
      Registered table generationId ∨ generationId = runtime.generationId := by
  rcases register_ok registered with ⟨index, old, isOld, same, rfl⟩ | rfl
  · have names : (table.set index runtime).map GenerationRuntime.generationId =
        table.map GenerationRuntime.generationId := by
      obtain ⟨inside, isThere⟩ := List.getElem?_eq_some_iff.mp isOld
      rw [List.map_set, ← same, ← isThere,
        ← List.getElem_map GenerationRuntime.generationId (h := by simpa using inside)]
      exact List.set_getElem_self _
    have known : Registered table runtime.generationId := ⟨old, List.mem_of_getElem? isOld, same⟩
    rw [registered_iff_mem_map, names, ← registered_iff_mem_map]
    constructor
    · exact .inl
    · rintro (there | rfl)
      · exact there
      · exact known
  · simp [Registered, or_and_right, exists_or, eq_comm]

theorem Named.register (named : Named table) (own : runtime.config.generationId = runtime.generationId)
    (registered : register table runtime = .ok after) : Named after := by
  intro other there
  rcases register_ok registered with ⟨index, _, _, _, rfl⟩ | rfl
  · rcases List.mem_or_eq_of_mem_set there with old | rfl
    · exact named other old
    · exact own
  · rcases List.mem_append.mp there with old | new
    · exact named other old
    · rw [List.mem_singleton.mp new, own]

theorem register_of_room (runtime : GenerationRuntime) (room : table.length < maxGenerationConfigs) :
    ∃ after, register table runtime = .ok after ∧ after.length ≤ table.length + 1 := by
  unfold register
  split
  · exact ⟨_, rfl, by simp⟩
  · rw [if_neg (by omega)]
    exact ⟨_, rfl, by simp⟩

theorem find_utf8 (generationId : String) (named : Named table) :
    (Registered table generationId ∧ ∃ config, config.generationId = generationId ∧
        (find table (utf8 generationId)).map GenerationRuntime.config = some config) ∨
      ¬Registered table generationId ∧ find table (utf8 generationId) = none := by
  cases found : find table (utf8 generationId) with
  | none =>
    right
    refine ⟨?_, rfl⟩
    rintro ⟨runtime, there, rfl⟩
    simpa using List.find?_eq_none.mp found runtime there
  | some runtime =>
    left
    have same : runtime.generationId = generationId :=
      utf8_injective (by simpa using List.find?_some found)
    have there := List.mem_of_find?_eq_some found
    exact ⟨⟨runtime, there, same⟩, runtime.config, (named runtime there).trans same, rfl⟩

end

end GenerationRuntime

namespace DiskEntry

def goesOn : DiskEntry → Bool
  | stops => false
  | _ => true

def config? : DiskEntry → Option BootRuntimeConfig
  | brings config => some config
  | _ => none

end DiskEntry

/-- The configurations of the entries up to the first that ends the work. -/
def broughtBy (entries : List DiskEntry) : List BootRuntimeConfig :=
  (entries.takeWhile DiskEntry.goesOn).filterMap DiskEntry.config?

@[simp]
theorem broughtBy_stops (rest : List DiskEntry) : broughtBy (.stops :: rest) = [] := rfl

@[simp]
theorem broughtBy_passes (rest : List DiskEntry) :
    broughtBy (.passes :: rest) = broughtBy rest := rfl

@[simp]
theorem broughtBy_unprepared (rest : List DiskEntry) :
    broughtBy (.unprepared :: rest) = broughtBy rest := rfl

@[simp]
theorem broughtBy_brings (config : BootRuntimeConfig) (rest : List DiskEntry) :
    broughtBy (.brings config :: rest) = config :: broughtBy rest := rfl

namespace NativeBootInputs

/-- The configurations that the disk brings, as many as there is room for. -/
def diskConfigs (inputs : NativeBootInputs) : List BootRuntimeConfig :=
  match inputs.disk.bind loadVertexdiskGenerationMetadata with
  | none => []
  | some metadata => (broughtBy (inputs.diskEntries metadata)).take maxDiskConfigs

theorem diskConfigs_of_load {inputs : NativeBootInputs} {metadata : Image}
    (load : inputs.disk.bind loadVertexdiskGenerationMetadata = some metadata) :
    inputs.diskConfigs = (broughtBy (inputs.diskEntries metadata)).take maxDiskConfigs := by
  unfold diskConfigs
  rw [load]

/-- The boot loader or the disk brings a configuration of the name. -/
def Brings (inputs : NativeBootInputs) (generationId : String) : Prop :=
  generationId ∈ inputs.loaded ∨
    generationId ∈ inputs.diskConfigs.map BootRuntimeConfig.generationId

end NativeBootInputs

section

open GenerationRuntime

variable {table : List GenerationRuntime}

theorem registered_registerDiskEntries (generationId : String) (entries : List DiskEntry)
    {configSlot : Nat} (room : table.length ≤ configSlot + 1) (slots : configSlot ≤ maxDiskConfigs)
    (named : Named table) :
    Named (registerDiskEntries entries configSlot table) ∧
      (Registered (registerDiskEntries entries configSlot table) generationId ↔
        Registered table generationId ∨
          generationId ∈ ((broughtBy entries).take (maxDiskConfigs - configSlot)).map
            BootRuntimeConfig.generationId) := by
  induction entries generalizing table configSlot with
  | nil => simp [registerDiskEntries, broughtBy, named]
  | cons entry rest ih =>
    cases entry with
    | stops => simp [registerDiskEntries, named]
    | passes => exact ih room slots named
    | unprepared =>
      simp only [registerDiskEntries]
      split
      · rename_i full
        simp [named, Nat.sub_eq_zero_of_le full]
      · exact ih room slots named
    | brings config =>
      simp only [registerDiskEntries]
      split
      · rename_i full
        simp [named, Nat.sub_eq_zero_of_le full]
      · rename_i free
        have small : table.length < maxGenerationConfigs := by
          simp only [maxDiskConfigs, maxGenerationConfigs] at free ⊢
          omega
        obtain ⟨after, done, short⟩ := register_of_room (.ofConfig config) small
        rw [done]
        obtain ⟨stays, others⟩ := ih (short.trans (Nat.succ_le_succ room)) (by omega)
          (named.register rfl done)
        refine ⟨stays, others.trans ?_⟩
        have next : maxDiskConfigs - configSlot = maxDiskConfigs - (configSlot + 1) + 1 := by
          omega
        rw [registered_register done, next, broughtBy_brings, List.take_succ_cons,
          List.map_cons, List.mem_cons, or_assoc]
        rfl

theorem registered_registerVertexdiskGenerationConfigs (generationId : String) (inputs : NativeBootInputs)
    (room : table.length ≤ 1) (named : Named table) :
    Named (registerVertexdiskGenerationConfigs inputs table) ∧
      (Registered (registerVertexdiskGenerationConfigs inputs table) generationId ↔
        Registered table generationId ∨
          generationId ∈ inputs.diskConfigs.map BootRuntimeConfig.generationId) := by
  unfold registerVertexdiskGenerationConfigs NativeBootInputs.diskConfigs
  split
  · simp [named]
  · exact registered_registerDiskEntries _ _ room (Nat.zero_le _) named

end

namespace GenerationState

open GenerationRuntime

/-- The tables name their configurations, and nothing waits for its commit. -/
structure Bootable (state : GenerationState) : Prop where
  registered : Named state.generationRuntimes
  rollback : ∀ runtime, state.rollbackRuntime = some runtime →
    runtime.config.generationId = runtime.generationId
  staged : state.stagedGeneration = none

/-- Nothing has been selected either. -/
structure Fresh (state : GenerationState) : Prop extends Bootable state where
  bootManager : state.bootManager = .new

theorem fresh_initial : initial.Fresh where
  registered := nofun
  rollback := nofun
  staged := rfl
  bootManager := rfl

variable {state after : GenerationState} {config : BootRuntimeConfig}

theorem Fresh.registerGenerationConfig (fresh : state.Fresh)
    (registered : state.registerGenerationConfig config = some after) :
    after.Fresh ∧
      ∃ table, register state.generationRuntimes (.ofConfig config) = .ok table ∧
        after = { state with generationRuntimes := table } := by
  unfold GenerationState.registerGenerationConfig at registered
  split at registered
  · cases registered
  · rename_i table done
    cases registered
    exact ⟨⟨⟨fresh.registered.register rfl done, fresh.rollback, fresh.staged⟩,
      fresh.bootManager⟩, table, done, rfl⟩

theorem Fresh.registerExtra (fresh : state.Fresh) {known : List String}
    {manifest : Option NativeManifest}
    {note : BootRuntimeConfig → GenerationState → GenerationState}
    (done : state.registerExtra known manifest note = some after)
    (notes : ∀ config state, state.Fresh → (note config state).Fresh)
    (keeps : ∀ config state, (note config state).generationRuntimes = state.generationRuntimes)
    (there : ∀ name ∈ known, Registered state.generationRuntimes name) :
    after.Fresh ∧ ∀ generationId, Registered after.generationRuntimes generationId ↔
      Registered state.generationRuntimes generationId ∨
        generationId ∈ (manifest.map NativeManifest.generationId).toList := by
  cases manifest with
  | none =>
    cases done
    simp [fresh]
  | some manifest =>
    simp only [GenerationState.registerExtra] at done
    simp only [Option.map_some, Option.toList_some, List.mem_singleton]
    split at done
    · rename_i isKnown
      cases done
      refine ⟨fresh, fun generationId => ⟨.inl, ?_⟩⟩
      rintro (old | rfl)
      · exact old
      · exact there _ isKnown
    · split at done
      · cases done
      · rename_i config made
        obtain ⟨middle, registered, rfl⟩ := Option.map_eq_some_iff.mp done
        obtain ⟨middleFresh, table, added, rfl⟩ := fresh.registerGenerationConfig registered
        refine ⟨notes _ _ middleFresh, fun generationId => ?_⟩
        rw [keeps, registered_register added, ← manifest.config_named config made]
        rfl

end GenerationState

theorem chooseNativeBoot_eq_some {config : BootRuntimeConfig} {state : GenerationState}
    (chosen : chooseNativeBoot inputs = some (config, state)) :
    ∃ (bootstrap : BootRuntimeConfig) (ready : GenerationState),
      bootstrap.generationId = inputs.selected.generationId ∧ ready.Fresh ∧
      (∀ generationId, GenerationRuntime.Registered ready.generationRuntimes generationId ↔
        inputs.Brings generationId) ∧
      ready.selectBoot bootstrap
        (recoverVertexdiskGenerationSelection inputs.disk inputs.selected.generationId) =
        (config, state) := by
  obtain ⟨bootstrap, made, chosen⟩ := Option.bind_eq_some_iff.mp chosen
  obtain ⟨first, registered, chosen⟩ := Option.bind_eq_some_iff.mp chosen
  obtain ⟨second, fallback, chosen⟩ := Option.bind_eq_some_iff.mp chosen
  obtain ⟨third, bad, booted⟩ := Option.bind_eq_some_iff.mp chosen
  have isNamed := inputs.selected.config_named bootstrap made
  obtain ⟨firstFresh, table, added, rfl⟩ :=
    GenerationState.fresh_initial.registerGenerationConfig registered
  obtain rfl : [.ofConfig bootstrap] = table := Except.ok.inj added
  dsimp only at fallback
  have onDisk := fun name => registered_registerVertexdiskGenerationConfigs name inputs
    (le_refl [GenerationRuntime.ofConfig bootstrap].length) firstFresh.registered
  have diskFresh : GenerationState.Fresh { GenerationState.initial with
      generationRuntimes := registerVertexdiskGenerationConfigs inputs [.ofConfig bootstrap] } :=
    ⟨⟨(onDisk "").1, nofun, rfl⟩, rfl⟩
  have selected : GenerationRuntime.Registered
      (registerVertexdiskGenerationConfigs inputs [.ofConfig bootstrap])
      inputs.selected.generationId :=
    (onDisk _).2.mpr (.inl ⟨_, List.mem_singleton_self _, isNamed⟩)
  obtain ⟨secondFresh, withFallback⟩ := diskFresh.registerExtra fallback
    (fun fallback state fresh => ⟨⟨fresh.registered, fun _ isRollback => by cases isRollback; rfl,
      fresh.staged⟩, fresh.bootManager⟩)
    (fun _ _ => rfl)
    (by
      intro name isKnown
      rw [List.mem_singleton.mp isKnown]
      exact selected)
  obtain ⟨thirdFresh, withBad⟩ := secondFresh.registerExtra bad
    (fun _ _ fresh => fresh) (fun _ _ => rfl) (by
      intro name isKnown
      rw [withFallback]
      rcases List.mem_cons.mp isKnown with rfl | isFallback
      · exact .inl selected
      · exact .inr isFallback)
  refine ⟨bootstrap, third, isNamed, thirdFresh, fun generationId => ?_, Option.some.inj booted⟩
  have one : GenerationRuntime.Registered [.ofConfig bootstrap] generationId ↔
      generationId = inputs.selected.generationId := by
    simp [GenerationRuntime.Registered, GenerationRuntime.ofConfig, isNamed, eq_comm]
  rw [withBad, withFallback, (onDisk generationId).2, one]
  simp only [NativeBootInputs.Brings, NativeBootInputs.loaded, List.mem_cons, List.mem_append]
  tauto

namespace GenerationState

/-- The generation that the boot manager holds for selected is the one that runs. -/
def SelectsRunning (state : GenerationState) : Prop :=
  state.runtime.activeConfig.map BootRuntimeConfig.generationId =
    some state.bootManager.selectedGeneration

variable {ready state booted : GenerationState} {bootstrap config : BootRuntimeConfig}

theorem Bootable.selectRecovered (bootable : ready.Bootable)
    {recovered : VertexDiskGenerationRecovery}
    (selected : ready.selectRecovered bootstrap recovered = (config, state)) :
    state.Bootable ∧ state.bootManager.selectedGeneration = recovered.selectedGeneration ∧
      (GenerationRuntime.Registered ready.generationRuntimes recovered.selectedGeneration ∧
          config.generationId = recovered.selectedGeneration ∨
        ¬GenerationRuntime.Registered ready.generationRuntimes recovered.selectedGeneration ∧
          config = bootstrap) := by
  have taken : ∀ transaction target reason,
      (ready.bootManager.recoverFromDisk recovered.selectedGeneration
        recovered.previousGeneration recovered.knownGoodGeneration transaction target
        reason).selectedGeneration = recovered.selectedGeneration := by
    intro transaction target reason
    simp only [BootManagerState.recoverFromDisk]
    split <;> rfl
  have rolls : ∀ (previous : Option BootRuntimeConfig) runtime,
      (previous.map GenerationRuntime.ofConfig).or ready.rollbackRuntime = some runtime →
        runtime.config.generationId = runtime.generationId := by
    intro previous runtime isRollback
    cases previous with
    | none => exact bootable.rollback runtime isRollback
    | some config =>
      cases isRollback
      rfl
  simp only [GenerationState.selectRecovered, GenerationState.generationConfigById] at selected
  rcases GenerationRuntime.find_utf8 recovered.selectedGeneration bootable.registered with ⟨there, active, isNamed, found⟩ | ⟨missing, found⟩
  · rw [found] at selected
    obtain ⟨rfl, rfl⟩ := Prod.mk.inj selected
    refine ⟨?_, ?_, .inl ⟨there, isNamed⟩⟩
    · cases recoveredFailure recovered <;> exact ⟨bootable.registered, rolls _, bootable.staged⟩
    · cases recoveredFailure recovered <;> exact taken ..
  · rw [found] at selected
    obtain ⟨rfl, rfl⟩ := Prod.mk.inj selected
    exact ⟨⟨bootable.registered, bootable.rollback, bootable.staged⟩, taken .., .inr ⟨missing, rfl⟩⟩

theorem Bootable.exec_initFromBootConfig_ok (bootable : state.Bootable) {machine : SwitchMachine}
    (done : exec (initFromBootConfig machine config) state = (.ok (), booted)) :
    booted.Consistent ∧ booted.runtime.activeConfig = some config ∧
      booted.bootManager = state.bootManager.startBoot config.generationId := by
  obtain ⟨build, middle, staged, done⟩ := exec_bind_ok.mp done
  obtain ⟨-, isNamed, active⟩ := stageBootConfigRuntime_ok staged
  have restaged : middle = { state with staging := middle.staging } := by
    have kept : Restages state (exec (stageBootConfigRuntime machine config) state).2 :=
      (restages_stageBootConfigRuntime machine config).evolves state
    rwa [staged] at kept
  rw [exec_modify] at done
  obtain ⟨-, rfl⟩ := Prod.mk.inj done
  rw [restaged]
  refine ⟨⟨bootable.registered, bootable.rollback, ?_, ?_⟩, active, rfl⟩
  · intro other isActive
    cases active.symm.trans isActive
    exact isNamed.symm
  · intro waiting isStaged
    cases bootable.staged.symm.trans isStaged

end GenerationState

theorem runNativeBoot_eq_some {machine : SwitchMachine} {booted : GenerationState}
    (boots : runNativeBoot inputs machine = some booted) :
    booted.Consistent ∧ ∃ config, booted.runtime.activeConfig = some config ∧
      match recoverVertexdiskGenerationSelection inputs.disk inputs.selected.generationId with
      | none => booted.bootManager.selectedGeneration = config.generationId
      | some recovered =>
        booted.bootManager.selectedGeneration =
            (if recovered.selectedGeneration = "" then config.generationId
              else recovered.selectedGeneration) ∧
          (inputs.Brings recovered.selectedGeneration ∧
              config.generationId = recovered.selectedGeneration ∨
            ¬inputs.Brings recovered.selectedGeneration ∧
              config.generationId = inputs.selected.generationId) := by
  obtain ⟨⟨config, state⟩, chosen, boots⟩ := Option.bind_eq_some_iff.mp boots
  obtain ⟨bootstrap, ready, isNamed, fresh, registered, selected⟩ := chooseNativeBoot_eq_some chosen
  rcases done : exec (initFromBootConfig machine config) state with ⟨_ | ⟨⟩, after⟩
  · simp [done] at boots
  · obtain rfl : after = booted := by simpa [done] using boots
    cases recovery :
      recoverVertexdiskGenerationSelection inputs.disk inputs.selected.generationId with
    | none =>
      rw [recovery] at selected
      cases selected
      obtain ⟨consistent, active, manager⟩ := fresh.exec_initFromBootConfig_ok done
      refine ⟨consistent, config, active, ?_⟩
      rw [manager, fresh.bootManager]
      rfl
    | some recovered =>
      rw [recovery] at selected
      obtain ⟨bootable, taken, choice⟩ := fresh.selectRecovered selected
      obtain ⟨consistent, active, manager⟩ := bootable.exec_initFromBootConfig_ok done
      refine ⟨consistent, config, active, ?_, ?_⟩
      · rw [manager, ← taken]
        rfl
      · rw [← registered]
        rcases choice with chosen | ⟨missing, rfl⟩
        · exact .inl chosen
        · exact .inr ⟨missing, isNamed⟩

/-- After a boot the selected generation is the running one exactly if the generation that
the disk selects, where it selects one, is among those the boot loader or the disk brings. -/
theorem runNativeBoot_selectsRunning_iff (inputs : NativeBootInputs) (machine : SwitchMachine)
    (booted : GenerationState) (boots : runNativeBoot inputs machine = some booted) :
    booted.SelectsRunning ↔ ∀ recovered,
      recoverVertexdiskGenerationSelection inputs.disk inputs.selected.generationId =
        some recovered → inputs.Brings recovered.selectedGeneration := by
  obtain ⟨-, config, active, choice⟩ := runNativeBoot_eq_some boots
  have running : booted.SelectsRunning ↔
      config.generationId = booted.bootManager.selectedGeneration := by
    rw [GenerationState.SelectsRunning, active]
    simp
  have bootstrapBrought : inputs.Brings inputs.selected.generationId := .inl List.mem_cons_self
  rw [running]
  cases recovery :
    recoverVertexdiskGenerationSelection inputs.disk inputs.selected.generationId with
  | none =>
    rw [recovery] at choice
    simp [choice]
  | some recovered =>
    rw [recovery] at choice
    obtain ⟨selected, ⟨brought, isNamed⟩ | ⟨missing, isNamed⟩⟩ := choice
    · simp [selected, isNamed, brought]
    · -- A generation that nothing brings is not the one of the boot loader.
      have other : recovered.selectedGeneration ≠ inputs.selected.generationId := by
        rintro same
        exact missing (same ▸ bootstrapBrought)
      have isGiven : recovered.selectedGeneration ≠ "" := by
        obtain ⟨metadata, -, fields⟩ := Option.bind_eq_some_iff.mp recovery
        have read := recoverFromMetadata_selectedGeneration fields
        cases isRead : fixedStrAt metadata metadataSelectedOffset false with
        | none => exact absurd (by rw [read, isRead]; rfl) other
        | some text =>
          rw [read, isRead]
          exact fixedStrAt_false_ne_empty isRead
      rw [selected, if_neg isGiven, isNamed]
      simp [missing, other.symm]

/-- The boot loader brings the first generation, the disk selects the second. -/
def bootFrom (storeManifest : String → StoreManifest) : NativeBootInputs where
  selected := ⟨"gen:1", some (initOnlyConfig "gen:1"), by rintro _ ⟨⟩; rfl⟩
  fallback := none
  badGeneration := none
  disk := some (createdDisk secondSelected)
  storeManifest := storeManifest

section

variable (storeManifest : String → StoreManifest)

theorem metadata_secondSelected (address : Nat) (inside : address < diskSectorSize) :
    (createdDisk secondSelected).metadata address = secondSelected address :=
  metadata_createdDisk _ inside

theorem load_bootFrom :
    (bootFrom storeManifest).disk.bind loadVertexdiskGenerationMetadata =
      some (createdDisk secondSelected).metadata := by
  rw [bootFrom, Option.bind_some]
  exact VertexDisk.load_of_accepted
    (accepted_createdDisk (by decide +kernel) (by decide +kernel) (by decide +kernel))

theorem recovery_bootFrom :
    recoverVertexdiskGenerationSelection (bootFrom storeManifest).disk
        (bootFrom storeManifest).selected.generationId = some ⟨"gen:2", "", "gen:2", 0, "", 0⟩ := by
  unfold recoverVertexdiskGenerationSelection
  rw [load_bootFrom, Option.bind_eq_bind, Option.bind_some,
    recoverFromMetadata_congr metadata_secondSelected]
  show recoverFromMetadata secondSelected "gen:1" = _
  decide +kernel

theorem diskEntries_secondSelected (inputs : NativeBootInputs) :
    inputs.diskEntries (createdDisk secondSelected).metadata =
      ["gen:2", "gen:1"].map fun generationId => if generationId ∈ inputs.loaded then .passes
        else .ofManifest (inputs.storeManifest generationId) := by
  have count : metadataCount (createdDisk secondSelected).metadata = 2 := by
    unfold metadataCount
    rw [readLe_sector_congr metadata_secondSelected (by decide)]
    decide +kernel
  have first : fixedStrAt secondSelected (metadataEntryOffset + 0 * metadataEntryLen) false =
      some "gen:2" := by decide +kernel
  have second : fixedStrAt secondSelected (metadataEntryOffset + 1 * metadataEntryLen) false =
      some "gen:1" := by decide +kernel
  unfold NativeBootInputs.diskEntries NativeBootInputs.diskEntry
  simp only [count, fixedStrAt_congr metadata_secondSelected, List.range_succ, List.range_zero,
    List.nil_append, List.map_cons, List.map_nil, List.cons_append, first, second]
  rfl

theorem diskEntries_bootFrom :
    (bootFrom storeManifest).diskEntries (createdDisk secondSelected).metadata =
      [.ofManifest (storeManifest "gen:2"), .passes] := by
  rw [diskEntries_secondSelected]
  rfl

theorem registerVertexdiskGenerationConfigs_bootFrom :
    registerVertexdiskGenerationConfigs (bootFrom storeManifest) =
      registerDiskEntries [.ofManifest (storeManifest "gen:2"), .passes] 0 := by
  funext table
  rw [registerVertexdiskGenerationConfigs_of_load (load_bootFrom storeManifest),
    diskEntries_bootFrom]

theorem diskConfigs_bootFrom :
    (bootFrom storeManifest).diskConfigs =
      (broughtBy [.ofManifest (storeManifest "gen:2"), .passes]).take maxDiskConfigs := by
  rw [NativeBootInputs.diskConfigs_of_load (load_bootFrom storeManifest), diskEntries_bootFrom]

end

/-- The kernel that is about to run a generation after the disk selected the second. -/
def secondTakenOver (generations : List String) : GenerationState :=
  { GenerationState.initial with
    generationRuntimes := generations.map fun name => .ofConfig (initOnlyConfig name)
    bootManager := BootManagerState.new.recoverFromDisk "gen:2" "" "gen:2" "clean" "" "" }

theorem chooseNativeBoot_manifestMissing :
    chooseNativeBoot (bootFrom fun _ => .missing) =
      some (initOnlyConfig "gen:1", secondTakenOver ["gen:1"]) := by
  unfold chooseNativeBoot
  rw [registerVertexdiskGenerationConfigs_bootFrom, recovery_bootFrom]
  rfl

theorem chooseNativeBoot_manifestPrepared :
    chooseNativeBoot (bootFrom fun name => .prepared (initOnlyConfig name)) =
      some (initOnlyConfig "gen:2", secondTakenOver ["gen:1", "gen:2"]) := by
  unfold chooseNativeBoot
  rw [registerVertexdiskGenerationConfigs_bootFrom, recovery_bootFrom]
  rfl

/-- The store has lost the manifest of the second generation: the first runs, and the
second is held for selected. -/
theorem not_selectsRunning_manifestMissing :
    ∃ booted, runNativeBoot (bootFrom fun _ => .missing) (obligingMachine "") = some booted ∧
      ¬booted.SelectsRunning := by
  have names : (runNativeBoot (bootFrom fun _ => .missing) (obligingMachine "")).map
      (fun booted => (booted.bootManager.selectedGeneration,
        booted.runtime.activeConfig.map BootRuntimeConfig.generationId)) =
      some ("gen:2", some "gen:1") := by
    unfold runNativeBoot
    rw [chooseNativeBoot_manifestMissing]
    decide +kernel
  obtain ⟨booted, boots, names⟩ := Option.map_eq_some_iff.mp names
  refine ⟨booted, boots, ?_⟩
  obtain ⟨selected, running⟩ := Prod.mk.inj names
  rw [GenerationState.SelectsRunning, selected, running]
  decide

/-- With its manifest in the store the second generation is selected and runs. -/
theorem selectsRunning_manifestPrepared :
    ∃ booted, runNativeBoot (bootFrom fun name => .prepared (initOnlyConfig name))
      (obligingMachine "") = some booted ∧ booted.SelectsRunning := by
  have boots : (runNativeBoot (bootFrom fun name => .prepared (initOnlyConfig name))
      (obligingMachine "")).isSome := by
    unfold runNativeBoot
    rw [chooseNativeBoot_manifestPrepared]
    decide +kernel
  obtain ⟨booted, boots⟩ := Option.isSome_iff_exists.mp boots
  refine ⟨booted, boots, (runNativeBoot_selectsRunning_iff _ _ _ boots).mpr ?_⟩
  intro recovered recovery
  rw [recovery_bootFrom] at recovery
  cases recovery
  right
  rw [diskConfigs_bootFrom]
  decide

section

open GenerationRuntime

def NativeBootInputs.validConfigs (inputs : NativeBootInputs) : List BootRuntimeConfig :=
  match inputs.disk.bind loadVertexdiskGenerationMetadata with
  | none => []
  | some metadata => (inputs.diskEntries metadata).filterMap DiskEntry.config?

/-- Every valid entry is registered unless the table is full, and the recovered selection is if
it is valid. -/
def RegistersValid (inputs : NativeBootInputs) (table : List GenerationRuntime) : Prop :=
  (∀ config ∈ inputs.validConfigs, Registered table config.generationId ∨
      table.length = maxGenerationConfigs) ∧
    ∀ recovered, recoverVertexdiskGenerationSelection inputs.disk inputs.selected.generationId =
        some recovered →
      recovered.selectedGeneration ∈ inputs.validConfigs.map BootRuntimeConfig.generationId →
      Registered table recovered.selectedGeneration

/-- No entry in front of this place ends the work, and those that bring a configuration have
left a slot. -/
def OpenAt (entries : List DiskEntry) (slots place : Nat) : Prop :=
  .stops ∉ entries.take place ∧ ((entries.take place).filterMap DiskEntry.config?).length < slots

theorem mem_take_broughtBy (config : BootRuntimeConfig) (entries : List DiskEntry) (slots : Nat) :
    config ∈ (broughtBy entries).take slots ↔
      ∃ place, OpenAt entries slots place ∧ entries[place]? = some (.brings config) := by
  induction entries generalizing slots with
  | nil => simp [broughtBy]
  | cons entry rest ih =>
    -- the place is that of the first entry or one behind it
    rw [← Nat.or_exists_add_one]
    cases entry with
    | stops => simp [OpenAt]
    | passes => simpa [OpenAt, DiskEntry.config?, List.filterMap_cons] using ih slots
    | unprepared => simpa [OpenAt, DiskEntry.config?, List.filterMap_cons] using ih slots
    | brings first =>
      cases slots with
      | zero => simp [OpenAt]
      | succ slots =>
        simpa [OpenAt, DiskEntry.config?, List.filterMap_cons, eq_comm] using
          or_congr Iff.rfl (ih slots)

theorem length_registerDiskEntries_lt (entries : List DiskEntry) {table : List GenerationRuntime}
    {configSlot : Nat} (room : table.length ≤ configSlot + 1) (slots : configSlot ≤ maxDiskConfigs) :
    (registerDiskEntries entries configSlot table).length < maxGenerationConfigs := by
  have small : table.length < maxGenerationConfigs := by
    simp only [maxDiskConfigs, maxGenerationConfigs] at slots ⊢
    omega
  induction entries generalizing table configSlot with
  | nil => exact small
  | cons entry rest ih =>
    cases entry with
    | stops => exact small
    | passes => exact ih room slots small
    | unprepared =>
      unfold registerDiskEntries
      split
      · exact small
      · exact ih room slots small
    | brings config =>
      unfold registerDiskEntries
      split
      · exact small
      · next free =>
        obtain ⟨after, done, short⟩ := register_of_room (.ofConfig config) small
        rw [done]
        refine ih (short.trans (Nat.succ_le_succ room)) (by omega) ?_
        simp only [maxDiskConfigs, maxGenerationConfigs] at free ⊢
        omega

/-- The valid entries are registered exactly when each of them is of the generation that the
boot loader brought, or of one whose entry stands at a place where the work has not ended. -/
theorem registersValid_iff (inputs : NativeBootInputs) (selected : BootRuntimeConfig) :
    RegistersValid inputs (registerVertexdiskGenerationConfigs inputs [.ofConfig selected]) ↔
      ∀ metadata, inputs.disk.bind loadVertexdiskGenerationMetadata = some metadata →
        ∀ (index : Nat) config, (inputs.diskEntries metadata)[index]? = some (.brings config) →
          config.generationId = selected.generationId ∨
            ∃ (place : Nat) (other : BootRuntimeConfig),
              OpenAt (inputs.diskEntries metadata) maxDiskConfigs place ∧
              (inputs.diskEntries metadata)[place]? = some (.brings other) ∧
              other.generationId = config.generationId := by
  have named : Named [.ofConfig selected] := by
    intro runtime member
    rw [List.mem_singleton.mp member]
    rfl
  have bootLoader (generationId : String) : Registered [.ofConfig selected] generationId ↔
      generationId = selected.generationId := by
    simp [Registered, ofConfig, eq_comm]
  have registered (generationId : String) :=
    (registered_registerVertexdiskGenerationConfigs generationId inputs (by simp) named).2
  unfold RegistersValid NativeBootInputs.validConfigs
  cases load : inputs.disk.bind loadVertexdiskGenerationMetadata with
  | none => simp
  | some metadata =>
    have room : (registerVertexdiskGenerationConfigs inputs [.ofConfig selected]).length ≠
        maxGenerationConfigs := by
      rw [registerVertexdiskGenerationConfigs_of_load load]
      exact (length_registerDiskEntries_lt _ (by simp) (Nat.zero_le _)).ne
    have valid (config : BootRuntimeConfig) :
        config ∈ (inputs.diskEntries metadata).filterMap DiskEntry.config? ↔
          ∃ index : Nat, (inputs.diskEntries metadata)[index]? = some (.brings config) := by
      rw [← List.mem_iff_getElem?, List.mem_filterMap]
      constructor
      · rintro ⟨entry, isEntry, isConfig⟩
        cases entry <;> cases isConfig
        exact isEntry
      · exact fun isEntry => ⟨_, isEntry, rfl⟩
    have onDisk (generationId : String) :
        generationId ∈ inputs.diskConfigs.map BootRuntimeConfig.generationId ↔
          ∃ (place : Nat) (other : BootRuntimeConfig),
            OpenAt (inputs.diskEntries metadata) maxDiskConfigs place ∧
            (inputs.diskEntries metadata)[place]? = some (.brings other) ∧
            other.generationId = generationId := by
      simp only [NativeBootInputs.diskConfigs_of_load load, List.mem_map, mem_take_broughtBy]
      grind
    simp only [registered, bootLoader, room, or_false, Option.some.injEq, forall_eq', valid, onDisk]
    refine ⟨fun both index config isEntry => both.1 config ⟨index, isEntry⟩, fun all => ?_⟩
    have each : ∀ config, (∃ index : Nat, _) → _ := fun config ⟨index, isEntry⟩ =>
      all index config isEntry
    refine ⟨each, fun recovered _ isValid => ?_⟩
    obtain ⟨config, isConfig, same⟩ := List.mem_map.mp isValid
    rw [← same]
    exact each config ((valid config).mp isConfig)

/-- The boot loader brings a third generation, and the store lost the manifest of the
second. -/
def manifestLost : NativeBootInputs :=
  { bootFrom fun generationId =>
      if generationId = "gen:2" then .missing else .prepared (initOnlyConfig generationId) with
    selected := ⟨"gen:3", some (initOnlyConfig "gen:3"), by rintro _ ⟨⟩; rfl⟩ }

/-- The first generation is valid, and the entry in front of it hides it. -/
theorem not_registersValid_manifestLost :
    ¬RegistersValid manifestLost
      (registerVertexdiskGenerationConfigs manifestLost [.ofConfig (initOnlyConfig "gen:3")]) := by
  have load : manifestLost.disk.bind loadVertexdiskGenerationMetadata =
      some (createdDisk secondSelected).metadata := load_bootFrom fun _ => .missing
  rintro ⟨valid, -⟩
  rw [NativeBootInputs.validConfigs, load, registerVertexdiskGenerationConfigs_of_load load] at valid
  simp only [registered_iff_mem_map] at valid
  rw [diskEntries_secondSelected] at valid
  have isValid : initOnlyConfig "gen:1" ∈ (["gen:2", "gen:1"].map fun generationId =>
      if generationId ∈ manifestLost.loaded then .passes
      else .ofManifest (manifestLost.storeManifest generationId)).filterMap DiskEntry.config? :=
    List.mem_cons_self ..
  exact absurd (valid _ isValid) (by decide)

end

end VertexOS
