import VertexOS.RollbackReboots

/-!
# Disk and kernel

The manager writes the disk before and after it asks the kernel.  Where disk and kernel
agree, and the kernel runs what it has selected, each command is followed to its end.
-/

namespace VertexOS

open ByteStrings ByteImages Dialogues FailingCalls

/-- The kernel keeps these three names, and runs the selected generation. -/
structure GenerationState.Records (state : GenerationState)
    (selected previous knownGood : Bytes) : Prop where
  consistent : state.Consistent
  running : state.runtime.generationId = state.bootManager.selectedGeneration
  selected : utf8 state.bootManager.selectedGeneration = selected
  previous : utf8 state.bootManager.previousGeneration = previous
  knownGood : utf8 state.bootManager.knownGoodGeneration = knownGood

/-- A generation is staged next to the one of this name. -/
def GenerationState.Waits (state : GenerationState) (generation : Bytes) (rollback : Bool)
    (running : Bytes) : Prop :=
  ∃ staged, state.stagedFor generation rollback = some staged ∧
    utf8 staged.previousGeneration = running

section Records

variable {before after : GenerationState} {generation selected previous knownGood : Bytes}
  {answer : Bool}

theorem KernelServes.verify (serves : KernelServes before .verify generation answer after) :
    after = before := by
  obtain ⟨⟨_, machine, capSlot, address, len⟩, rfl, -, rfl, -⟩ := serves
  simp only [GenerationState.serve, SwitchRequest.body, exec_bind_pure]
  exact ends_verifyGeneration.1

theorem KernelServes.stageRollback_other
    (serves : KernelServes before .stageRollback generation answer after)
    (other : ∀ target, before.rollbackRuntime = some target →
      utf8 target.generationId ≠ generation) : answer = false ∧ after = before := by
  obtain ⟨⟨_, machine, capSlot, address, len⟩, rfl, isRead, rfl, rfl⟩ := serves
  simp only [GenerationState.serve, SwitchRequest.body, exec_bind_pure]
  obtain ⟨error, ended⟩ : ∃ error, exec (stageRollbackGeneration machine capSlot address len)
      before = (.error error, before) := ends_stageRollbackGeneration_other isRead other
  rw [ended]
  exact ⟨rfl, rfl⟩

variable (records : before.Records selected previous knownGood)
include records

theorem GenerationState.Records.runs : utf8 before.runtime.generationId = selected := by
  rw [records.running, records.selected]

theorem StageEnd.recorded {read : Option Bytes} {rollback : Bool} {outcome : Except IpcError Unit}
    (ended : StageEnd before read rollback (outcome, after)) :
    ∃ last, (last = previous ∨ last = selected) ∧ after.Records selected last knownGood := by
  have consistent := ended.consistent records.consistent
  have prepares : ∀ {manager : BootManagerState},
      before.bootManager.Prepared manager before.runtime.generationId →
      before.runtime.generationId = manager.selectedGeneration ∧
        utf8 manager.selectedGeneration = selected ∧
        utf8 manager.previousGeneration = selected ∧
        utf8 manager.knownGoodGeneration = knownGood := fun prepared => by
    rw [prepared.selected, prepared.previous, prepared.knownGood]
    exact ⟨records.running, records.selected, records.runs, records.knownGood⟩
  cases ended with
  | refused | already => exact ⟨previous, .inl rfl, records⟩
  | aborted prepared | staged _ prepared _ =>
    obtain ⟨running, isSelected, isPrevious, isKnownGood⟩ := prepares prepared
    exact ⟨selected, .inr rfl, consistent, running, isSelected, isPrevious, isKnownGood⟩

theorem StageEnd.waits {read : Option Bytes} {rollback : Bool}
    (ended : StageEnd before read rollback (.ok (), after))
    (isRead : ∀ name, read = some name → name = generation) :
    rollback = false ∧ generation = selected ∧ after = before ∨
      after.Records selected selected knownGood ∧ after.Waits generation rollback selected := by
  have consistent := ended.consistent records.consistent
  cases ended with
  | already found forward running =>
    exact .inl ⟨forward, (isRead _ found).symm.trans (running.symm.trans records.runs), rfl⟩
  | staged found prepared isStaged =>
    rename_i staged manager _ _
    obtain rfl := isRead _ found
    refine .inr ⟨⟨consistent, ?_, ?_, ?_, ?_⟩, staged, ?_, ?_⟩
    · exact records.running.trans prepared.selected.symm
    · exact (congrArg utf8 prepared.selected).trans records.selected
    · exact (congrArg utf8 prepared.previous).trans records.runs
    · exact (congrArg utf8 prepared.knownGood).trans records.knownGood
    · simp [GenerationState.stagedFor, isStaged.kind, isStaged.name]
    · exact (congrArg utf8 isStaged.previousGeneration).trans records.runs

theorem SwitchesTo.recorded {machine : Machine} {rollback : Bool} {staged : StagedGeneration}
    {outcome : Except IpcError SwitchResult}
    (ended : SwitchesTo before machine rollback staged (outcome, after))
    (isStaged : before.stagedFor generation rollback = some staged)
    (left : utf8 staged.previousGeneration = selected) :
    if outcome.isOk then after.Records generation selected knownGood else after = before := by
  obtain ⟨found, -, name⟩ := GenerationState.of_stagedFor isStaged
  rcases ended with ⟨error, ended⟩ | ⟨context, ended⟩
  · obtain ⟨rfl, rfl⟩ := Prod.mk.inj ended
    exact rfl
  · obtain ⟨rfl, rfl⟩ := Prod.mk.inj ended
    obtain ⟨consistent, running⟩ : (before.commit machine rollback staged).Consistent ∧
        (before.commit machine rollback staged).runtime.generationId = staged.generationId :=
      records.consistent.commit machine found
    have names : (before.commit machine rollback staged).bootManager.selectedGeneration =
          staged.generationId ∧
        (before.commit machine rollback staged).bootManager.previousGeneration =
          staged.previousGeneration ∧
        (before.commit machine rollback staged).bootManager.knownGoodGeneration =
          before.bootManager.knownGoodGeneration := by
      rw [before.commit_eq machine rollback staged]
      cases rollback <;> exact ⟨rfl, rfl, rfl⟩
    obtain ⟨isSelected, isPrevious, isKnownGood⟩ := names
    exact ⟨consistent, running.trans isSelected.symm, (congrArg utf8 isSelected).trans name,
      (congrArg utf8 isPrevious).trans left, (congrArg utf8 isKnownGood).trans records.knownGood⟩

theorem KernelServes.stage (serves : KernelServes before .stage generation answer after) :
    (∃ last, (last = previous ∨ last = selected) ∧ after.Records selected last knownGood) ∧
      (answer = true → generation = selected ∧ after = before ∨
        after.Records selected selected knownGood ∧ after.Waits generation false selected) := by
  obtain ⟨⟨_, machine, capSlot, address, len⟩, rfl, isRead, rfl, rfl⟩ := serves
  simp only [GenerationState.serve, SwitchRequest.body, exec_bind_pure]
  have ended : Ends (StageEnd before _ false) (stageGeneration machine capSlot address len) before :=
    stageEnd_stageGeneration
  unfold Ends at ended
  generalize exec (stageGeneration machine capSlot address len) before = result at ended
  obtain ⟨outcome, after⟩ := result
  refine ⟨ended.recorded records, fun succeeds => ?_⟩
  cases outcome with
  | error => cases succeeds
  | ok => exact (ended.waits records isRead).imp_left fun already => already.2

theorem KernelServes.stageRollback
    (serves : KernelServes before .stageRollback generation answer after) :
    (∃ last, (last = previous ∨ last = selected) ∧ after.Records selected last knownGood) ∧
      (answer = true →
        after.Records selected selected knownGood ∧ after.Waits generation true selected) := by
  obtain ⟨⟨_, machine, capSlot, address, len⟩, rfl, isRead, rfl, rfl⟩ := serves
  simp only [GenerationState.serve, SwitchRequest.body, exec_bind_pure]
  have ended : Ends (StageEnd before _ true)
      (stageRollbackGeneration machine capSlot address len) before :=
    stageEnd_stageRollbackGeneration
  unfold Ends at ended
  generalize exec (stageRollbackGeneration machine capSlot address len) before = result at ended
  obtain ⟨outcome, after⟩ := result
  refine ⟨ended.recorded records, fun succeeds => ?_⟩
  cases outcome with
  | error => cases succeeds
  | ok => exact (ended.waits records isRead).resolve_left (by simp)

theorem KernelServes.activate_running (serves : KernelServes before .activate selected answer after) :
    after = before := by
  obtain ⟨⟨_, machine, capSlot, address, len⟩, rfl, isRead, rfl, -⟩ := serves
  exact ends_activateGeneration_running isRead records.runs

theorem KernelServes.activate (serves : KernelServes before .activate generation answer after)
    (other : generation ≠ selected) (waits : before.Waits generation false selected) :
    if answer then after.Records generation selected knownGood else after = before := by
  obtain ⟨⟨_, machine, capSlot, address, len⟩, rfl, isRead, rfl, rfl⟩ := serves
  obtain ⟨staged, isStaged, left⟩ := waits
  have different : utf8 before.runtime.generationId ≠ generation := by
    rw [records.runs]
    exact other.symm
  exact SwitchesTo.recorded records (ends_activateGeneration_staged isRead different isStaged)
    isStaged left

theorem KernelServes.rollback (serves : KernelServes before .rollback generation answer after)
    (waits : before.Waits generation true selected) :
    if answer then after.Records generation selected knownGood else after = before := by
  obtain ⟨⟨_, machine, capSlot, address, len⟩, rfl, isRead, rfl, rfl⟩ := serves
  obtain ⟨staged, isStaged, left⟩ := waits
  exact SwitchesTo.recorded records (ends_rollbackGeneration_staged isRead isStaged) isStaged left

theorem KernelServes.markKnownGood
    (serves : KernelServes before .markKnownGood selected answer after) :
    if answer then after.Records selected previous selected else after = before := by
  obtain ⟨⟨_, machine, capSlot, address, len⟩, rfl, -, rfl, rfl⟩ := serves
  simp only [GenerationState.serve, SwitchRequest.body, exec_bind_pure]
  have ended : Ends _ (markKnownGoodGeneration machine capSlot address len) before :=
    ends_markKnownGoodGeneration
  unfold Ends at ended
  generalize exec (markKnownGoodGeneration machine capSlot address len) before = result at ended
  rcases ended with ⟨error, rfl⟩ | ⟨-, rfl⟩
  · exact rfl
  · exact ⟨records.consistent.withBootManager _, rfl, records.runs, records.previous, records.runs⟩

end Records

def VertexDisk.generationFields (disk : VertexDisk) : Option Bytes × Option Bytes × Option Bytes :=
  (readFixedString disk.metadata metadataSelectedOffset true,
    readFixedString disk.metadata metadataPreviousOffset true,
    readFixedString disk.metadata metadataKnownGoodOffset true)

def Agrees (disk : VertexDisk) (manager : BootManagerState) : Prop :=
  disk.generationFields = (some (utf8 manager.selectedGeneration),
    some (utf8 manager.previousGeneration), some (utf8 manager.knownGoodGeneration))

theorem readFixedString_false_iff {sector : Image} {offset : Nat} {bytes : Bytes} :
    readFixedString sector offset false = some bytes ↔
      readFixedString sector offset true = some bytes ∧ bytes ≠ [] := by
  unfold readFixedString fixedString
  by_cases outside : diskSectorSize < offset + diskStringLen
  · simp [outside]
  · by_cases empty : (readBytes sector offset diskStringLen).takeWhile (· ≠ 0) = []
    · simp only [outside, empty, if_false, if_true, true_and, reduceCtorEq, false_iff]
      rintro ⟨read, nonempty⟩
      split at read
      · exact nonempty (Option.some.inj read).symm
      · cases read
    · simp only [outside, empty, if_false, false_and]
      refine ⟨fun read => ⟨read, ?_⟩, fun read => read.1⟩
      rintro rfl
      split at read
      · exact empty (Option.some.inj read)
      · cases read

/-- The manager has read the metadata, and the disk holds these names. -/
structure Holds (disk : VertexDisk) (metadata : GenerationMetadata)
    (selected previous knownGood : Bytes) : Prop where
  inSync : InSync disk metadata
  named : selected ≠ []
  fields : disk.generationFields = (some selected, some previous, some knownGood)

variable {disk : VertexDisk} {metadata : GenerationMetadata} {selected previous knownGood : Bytes}
  {state : GenerationState} {answers : List Bool}

section

theorem paddedText_of_containsGeneration {sector : Image} {generation : Bytes}
    (contains : containsGeneration sector generation = true) :
    generation ≠ [] ∧ PaddedText generation := by
  obtain ⟨index, -, read⟩ := List.mem_map.mp (containsGeneration_iff.mp contains)
  exact ⟨readFixedString_false_ne_nil read, paddedText_of_readFixedString read⟩

variable (holds : Holds disk metadata selected previous knownGood)
include holds

theorem Holds.read :
    readFixedString metadata.sector metadataSelectedOffset false = some selected ∧
      readFixedString metadata.sector metadataPreviousOffset true = some previous ∧
      readFixedString metadata.sector metadataKnownGoodOffset true = some knownGood := by
  have fields := holds.fields
  simp only [VertexDisk.generationFields, Prod.mk.injEq, ← holds.inSync.sector] at fields
  exact ⟨readFixedString_false_iff.mpr ⟨fields.1, holds.named⟩, fields.2⟩

theorem Holds.selectedGeneration : selectedGeneration metadata.sector = some selected := by
  unfold VertexOS.selectedGeneration
  rw [holds.read.1]
  rfl

theorem Holds.fieldOrSelected {offset : Nat} {field : Bytes}
    (read : readFixedString metadata.sector offset true = some field) :
    ∃ taken, (fieldOrSelected metadata.sector offset).getD selected = taken ∧ PaddedText taken ∧
      (field ≠ [] → taken = field) := by
  unfold VertexOS.fieldOrSelected
  rw [read, Option.bind_eq_bind, Option.bind_some, holds.selectedGeneration]
  by_cases empty : field = []
  · rw [if_pos empty]
    exact ⟨selected, rfl, paddedText_of_readFixedString holds.read.1, fun named =>
        absurd empty named⟩
  · rw [if_neg empty]
    exact ⟨field, rfl, paddedText_of_readFixedString read, fun _ => rfl⟩

theorem Holds.checkpoint {checkpoint : Checkpoint} (readable : checkpoint.Readable) :
    Holds (disk.writeSector metadata.sectorNumber (checkpointSector metadata.sector checkpoint))
      { metadata with sector := checkpointSector metadata.sector checkpoint }
      checkpoint.selected checkpoint.previous checkpoint.knownGood := by
  have written := holds.inSync.writeSector (rewritten_checkpointSector readable.fits)
  refine ⟨written, readable.named, ?_⟩
  simp only [VertexDisk.generationFields, Prod.mk.injEq, ← written.sector]
  obtain ⟨selected, previous, knownGood, -⟩ := fields_checkpointSector readable
  exact ⟨(readFixedString_false_iff.mp selected).1, previous, knownGood⟩

end

/-- The kernel, and what it answered since the command began. -/
structure LoggedKernel where
  state : GenerationState
  answers : List Bool

def LoggedServes (before : LoggedKernel) (call : SwitchCall) (generation : Bytes) (answer : Bool)
    (after : LoggedKernel) : Prop :=
  KernelServes before.state call generation answer after.state ∧
    after.answers = before.answers ++ [answer]

/-- A command with its result, and what the kernel answered to it in turn. -/
structure CommandStep where
  command : ManagerCommand
  before : ManagerWorld GenerationState
  answers : List Bool
  result : CommandEnd
  after : ManagerWorld GenerationState

namespace CommandStep

/-- The block driver does what it is asked for, and nothing is cut off. -/
def Happens (step : CommandStep) : Prop :=
  Dialogue.Finishes (ManagerServes False LoggedServes) step.command.program
    ⟨step.before.disk, ⟨step.before.kernel, []⟩⟩ step.result
    ⟨step.after.disk, ⟨step.after.kernel, step.answers⟩⟩

/-- Disk and kernel agree after the command, and a command that failed left the three
fields on disk as they were. -/
def Upholds (step : CommandStep) : Prop :=
  Agrees step.after.disk step.after.kernel.bootManager ∧
    ∀ reason, step.result = .error reason →
      step.after.disk.generationFields = step.before.disk.generationFields

/-- The manager cannot load the metadata, or has no entry of this name and ends. -/
def Idle (step : CommandStep) : Prop :=
  metadataChecksumValid step.before.disk.metadata 0 diskSectorSize = false ∨
    containsGeneration step.before.disk.metadata step.command.generation = false

/-- What a command needs of the record before it and of the kernel's answers. -/
def Meets (step : CommandStep) : Prop :=
  let selected := utf8 step.before.kernel.bootManager.selectedGeneration
  let previous := utf8 step.before.kernel.bootManager.previousGeneration
  let knownGood := utf8 step.before.kernel.bootManager.knownGoodGeneration
  match step.command with
  | .registerImport _ => True
  | .install generation => step.Idle ∨
      knownGood ≠ [] ∧ (previous = selected ∨ generation ≠ selected ∧ false ∉ step.answers)
  | .rollback generation => step.Idle ∨ step.answers = [false] ∨
      knownGood = generation ∧ (false ∉ step.answers ∨ previous = generation ∧
        (selected = generation ∨ ∀ target, step.before.kernel.rollbackRuntime = some target →
          utf8 target.generationId ≠ generation))
  | .markKnownGood generation => step.Idle ∨ selected ≠ generation ∨ step.answers = [false] ∨
      previous ≠ [] ∧ (false ∉ step.answers ∨ knownGood = generation)

end CommandStep

inductive CommandRun : ManagerWorld GenerationState → List CommandStep → Prop
  | nil {world : ManagerWorld GenerationState} : CommandRun world []
  | cons {step : CommandStep} {rest : List CommandStep} :
      step.Happens → CommandRun step.after rest → CommandRun step.before (step :: rest)

/-- Disk and kernel agree, and the kernel runs the generation that it has selected. -/
structure Settled (world : ManagerWorld GenerationState) : Prop where
  accepted : world.disk.Accepted
  agrees : Agrees world.disk world.kernel.bootManager
  named : world.kernel.bootManager.selectedGeneration ≠ ""
  running : world.kernel.runtime.generationId = world.kernel.bootManager.selectedGeneration
  consistent : world.kernel.Consistent

/-- The program comes to such an end, whatever the kernel answers. -/
def Comes {α : Type} (post : α → ManagerWorld LoggedKernel → Prop) (program : ManagerProgram α)
    (disk : VertexDisk) (state : GenerationState) (answers : List Bool) : Prop :=
  program.Keeps (ManagerServes False LoggedServes) (fun _ => True) post ⟨disk, ⟨state, answers⟩⟩

section

variable {α : Type} {post : α → ManagerWorld LoggedKernel → Prop}

protected theorem Comes.pure {value : α} (ends : post value ⟨disk, ⟨state, answers⟩⟩) :
    Comes post (pure value) disk state answers :=
  Dialogue.Keeps.pure trivial ends

protected theorem Comes.askKernel_bind {call : SwitchCall} {generation : Bytes}
    {next : Bool → ManagerProgram α}
    (goesOn : ∀ answer after, KernelServes state call generation answer after →
      Comes post (next answer) disk after (answers ++ [answer])) :
    Comes post (askKernel call generation >>= next) disk state answers := by
  refine .request_bind trivial ?_
  rintro answer ⟨_, after, log⟩ ⟨rfl, served, isLog⟩
  obtain rfl : log = answers ++ [answer] := isLog
  exact goesOn answer after served

protected theorem Comes.writeCheckpoint_bind {checkpoint : Checkpoint}
    {next : Option GenerationMetadata → ManagerProgram α}
    (holds : Holds disk metadata selected previous knownGood) (readable : checkpoint.Readable)
    (goesOn : ∀ written new,
      Holds written new checkpoint.selected checkpoint.previous checkpoint.knownGood →
        Comes post (next (some new)) written state answers) :
    Comes post (metadata.writeCheckpoint checkpoint >>= next) disk state answers := by
  unfold GenerationMetadata.writeCheckpoint
  rw [if_pos readable.fits]
  refine .request_bind trivial ?_
  rintro answer _ (⟨rfl, rfl | impossible⟩ | ⟨impossible, -⟩)
  · exact goesOn _ _ (holds.checkpoint readable)
  · exact impossible.elim
  · exact impossible.elim

protected theorem Comes.abort {post : CommandEnd → ManagerWorld LoggedKernel → Prop}
    {checkpoint : Checkpoint} {reason : AbortReason}
    (holds : Holds disk metadata selected previous knownGood) (readable : checkpoint.Readable)
    (ends : ∀ written new,
      Holds written new checkpoint.selected checkpoint.previous checkpoint.knownGood →
        post (.error reason) ⟨written, ⟨state, answers⟩⟩) :
    Comes post (metadata.abort checkpoint reason) disk state answers :=
  .writeCheckpoint_bind holds readable fun written new written' => .pure (ends written new written')

protected theorem Comes.loadGenerationMetadata_bind
    {next : Option GenerationMetadata → ManagerProgram α}
    (accepted : disk.Accepted) (without : Comes post (next none) disk state answers)
    (goesOn : ∀ metadata, InSync disk metadata → Comes post (next (some metadata)) disk state answers) :
    Comes post (loadGenerationMetadata >>= next) disk state answers := by
  refine (keeps_loadGenerationMetadata trivial).bind ?_
  rintro (_ | metadata) _ - ⟨rfl, loaded⟩
  · exact without
  · exact goesOn metadata (loaded metadata rfl accepted)

end

/-- The command ends as it should, if it meets its condition. -/
def Leaves (command : ManagerCommand) (before : ManagerWorld GenerationState) (result : CommandEnd)
    (after : ManagerWorld LoggedKernel) : Prop :=
  let step : CommandStep :=
    ⟨command, before, after.kernel.answers, result, ⟨after.disk, after.kernel.state⟩⟩
  step.Meets → step.Upholds ∧ Settled step.after

variable {before : ManagerWorld GenerationState}

section Leaves

variable {command : ManagerCommand} {result : CommandEnd} {generation : Bytes}

theorem leaves_unchanged (settled : Settled before) :
    Leaves command before result ⟨before.disk, ⟨before.kernel, answers⟩⟩ :=
  fun _ => ⟨⟨settled.agrees, fun _ _ => rfl⟩, settled⟩

/-- The command has loaded the metadata and found the entry of its generation. -/
structure Opened (before : ManagerWorld GenerationState) (metadata : GenerationMetadata)
    (generation selected previous knownGood : Bytes) : Prop where
  holds : Holds before.disk metadata selected previous knownGood
  records : before.kernel.Records selected previous knownGood
  contains : containsGeneration metadata.sector generation = true

theorem Settled.opened (settled : Settled before) (inSync : InSync before.disk metadata)
    (contains : containsGeneration metadata.sector generation = true) :
    ∃ selected previous knownGood,
      Opened before metadata generation selected previous knownGood := by
  refine ⟨_, _, _, ⟨inSync, ?_, settled.agrees⟩,
    ⟨settled.consistent, settled.running, rfl, rfl, rfl⟩, contains⟩
  exact fun empty => settled.named (utf8_injective (empty.trans (by rfl)))

section

variable {last kept : Bytes} {reason : AbortReason}
  (opened : Opened before metadata generation selected previous knownGood)
  {new : GenerationMetadata}

include opened

theorem Opened.not_idle {step : CommandStep} (starts : step.before = before)
    (asks : step.command.generation = generation) : ¬step.Idle := by
  have inSync := opened.holds.inSync
  rintro (checksum | nothing)
  · rw [starts, ← inSync.sector, inSync.checksum] at checksum
    cases checksum
  · rw [starts, asks, ← inSync.sector, opened.contains] at nothing
    cases nothing

theorem Opened.leaves {diskSelected diskPrevious diskKnownGood : Bytes}
    {kernelSelected kernelPrevious kernelKnownGood : Bytes}
    (holds : Holds disk new diskSelected diskPrevious diskKnownGood)
    (records : state.Records kernelSelected kernelPrevious kernelKnownGood)
    (same : (⟨command, before, answers, result, ⟨disk, state⟩⟩ : CommandStep).Meets →
      (diskSelected, diskPrevious, diskKnownGood) =
          (kernelSelected, kernelPrevious, kernelKnownGood) ∧
        ∀ reason, result = .error reason →
          (diskSelected, diskPrevious, diskKnownGood) = (selected, previous, knownGood)) :
    Leaves command before result ⟨disk, ⟨state, answers⟩⟩ := by
  intro meets
  obtain ⟨agree, unchanged⟩ := same meets
  obtain ⟨rfl, rfl, rfl⟩ : diskSelected = kernelSelected ∧ diskPrevious = kernelPrevious ∧
      diskKnownGood = kernelKnownGood := by simpa using agree
  have agrees : Agrees disk state.bootManager := by
    rw [Agrees, holds.fields, records.selected, records.previous, records.knownGood]
  refine ⟨⟨agrees, fun reason failed => ?_⟩, holds.inSync.accepted, agrees, fun empty => ?_,
    records.running, records.consistent⟩
  · obtain ⟨rfl, rfl, rfl⟩ : diskSelected = selected ∧ diskPrevious = previous ∧
        diskKnownGood = knownGood := by simpa using unchanged reason failed
    exact holds.fields.trans opened.holds.fields.symm
  · exact holds.named (by rw [← records.selected, empty]; rfl)

theorem Opened.install_meets
    (meets : (⟨.install generation, before, answers, result, ⟨disk, state⟩⟩ : CommandStep).Meets) :
    knownGood ≠ [] ∧ (previous = selected ∨ generation ≠ selected ∧ false ∉ answers) := by
  have condition := meets.resolve_left (opened.not_idle rfl rfl)
  rwa [opened.records.selected, opened.records.previous, opened.records.knownGood] at condition

theorem Opened.install_refused (isLast : last = previous ∨ last = selected)
    (records : state.Records selected last knownGood) (refusal : false ∈ answers)
    (holds : Holds disk new selected selected kept) (keeps : knownGood ≠ [] → kept = knownGood) :
    Leaves (.install generation) before (.error reason) ⟨disk, ⟨state, answers⟩⟩ := by
  refine opened.leaves holds records fun meets => ?_
  obtain ⟨good, condition⟩ := opened.install_meets meets
  obtain rfl := keeps good
  obtain rfl := condition.resolve_right fun accepted => accepted.2 refusal
  obtain rfl := isLast.elim id id
  exact ⟨rfl, fun _ _ => rfl⟩

theorem Opened.rollback_meets (several : answers ≠ [false])
    (meets : (⟨.rollback generation, before, answers, result, ⟨disk, state⟩⟩ : CommandStep).Meets) :
    knownGood = generation ∧ (false ∉ answers ∨ previous = generation ∧
      (selected = generation ∨ ∀ target, before.kernel.rollbackRuntime = some target →
        utf8 target.generationId ≠ generation)) := by
  have condition := (meets.resolve_left (opened.not_idle rfl rfl)).resolve_left several
  rwa [opened.records.selected, opened.records.previous, opened.records.knownGood] at condition

theorem Opened.rollback_refused (several : answers ≠ [false]) (refusal : false ∈ answers)
    (isLast : last = previous ∨ last = selected) (records : state.Records selected last knownGood)
    (other : (∀ target, before.kernel.rollbackRuntime = some target →
      utf8 target.generationId ≠ generation) → state = before.kernel)
    (holds : Holds disk new selected generation generation) :
    Leaves (.rollback generation) before (.error reason) ⟨disk, ⟨state, answers⟩⟩ := by
  refine opened.leaves holds records fun meets => ?_
  obtain ⟨rfl, condition⟩ := opened.rollback_meets several meets
  obtain ⟨rfl, condition⟩ := condition.resolve_left fun accepted => accepted refusal
  refine ⟨?_, fun _ _ => rfl⟩
  rcases condition with rfl | noTarget
  · rw [isLast.elim id id]
  · rw [← records.previous, other noTarget, opened.records.previous]

theorem Opened.mark_meets (several : answers ≠ [false]) (isSelected : selected = generation)
    (meets : (⟨.markKnownGood generation, before, answers, result, ⟨disk, state⟩⟩ :
      CommandStep).Meets) : previous ≠ [] ∧ (false ∉ answers ∨ knownGood = generation) := by
  have condition := meets.resolve_left (opened.not_idle rfl rfl)
  rw [opened.records.selected, opened.records.previous, opened.records.knownGood] at condition
  exact (condition.resolve_left fun other => other isSelected).resolve_left several

end

theorem comes_installGeneration (settled : Settled before) (generation : Bytes) :
    Comes (Leaves (.install generation) before) (installGeneration generation) before.disk
      before.kernel [] := by
  refine .loadGenerationMetadata_bind settled.accepted
    (.pure (leaves_unchanged settled)) fun metadata inSync => ?_
  dsimp only
  split
  · exact .pure (leaves_unchanged settled)
  rename_i contains
  rw [Bool.not_eq_false] at contains
  obtain ⟨named, text⟩ := paddedText_of_containsGeneration contains
  obtain ⟨selected, previous, knownGood, opened⟩ := settled.opened inSync contains
  have holds := opened.holds
  have selectedText := paddedText_of_readFixedString holds.read.1
  obtain ⟨kept, isKept, keptText, keeps⟩ := holds.fieldOrSelected holds.read.2.2
  have readable : ∀ state reason chosen, chosen ≠ [] → PaddedText chosen →
      (installCheckpoint selected kept generation state reason chosen).Readable :=
    fun _ _ _ chosen chosenText => ⟨chosen, chosenText, selectedText, keptText, text⟩
  have aborts := fun reason => readable transactionAbort reason _ holds.named selectedText
  rw [holds.selectedGeneration]
  dsimp only
  rw [show (knownGoodGeneration metadata.sector).getD selected = kept from isKept]
  refine .writeCheckpoint_bind holds (readable _ _ _ holds.named selectedText)
    fun _ _ prepared => .askKernel_bind fun verified _ served => ?_
  obtain rfl := served.verify
  cases verified with
  | false =>
    exact .abort prepared (aborts _) fun _ _ written =>
      opened.install_refused (.inl rfl) opened.records (by simp) written keeps
  | true =>
  refine .askKernel_bind fun staged middle served => ?_
  obtain ⟨⟨last, isLast, recorded⟩, waits⟩ := served.stage opened.records
  cases staged with
  | false =>
    exact .abort prepared (aborts _) fun _ _ written =>
      opened.install_refused isLast recorded (by simp) written keeps
  | true =>
  refine .writeCheckpoint_bind prepared (readable _ _ _ named text) fun _ _ committed =>
    .askKernel_bind fun activated after served => ?_
  by_cases running : generation = selected
  · subst running
    obtain rfl := served.activate_running recorded
    cases activated with
    | false =>
      exact .abort committed (aborts _) fun _ _ written =>
        opened.install_refused isLast recorded (by simp) written keeps
    | true =>
      refine .pure (opened.leaves committed recorded fun meets => ?_)
      obtain ⟨good, condition⟩ := opened.install_meets meets
      obtain rfl := keeps good
      obtain rfl := condition.resolve_right fun other => other.1 rfl
      obtain rfl := isLast.elim id id
      exact ⟨rfl, nofun⟩
  · obtain ⟨prepares, waits⟩ := (waits rfl).resolve_left fun same => running same.1
    have switched := served.activate prepares running waits
    cases activated with
    | false =>
      obtain rfl : after = middle := switched
      exact .abort committed (aborts _) fun _ _ written =>
        opened.install_refused (.inr rfl) prepares (by simp) written keeps
    | true =>
      refine .pure (opened.leaves committed switched fun meets => ?_)
      obtain rfl := keeps (opened.install_meets meets).1
      exact ⟨rfl, nofun⟩

theorem comes_rollbackTo (settled : Settled before) (generation : Bytes) :
    Comes (Leaves (.rollback generation) before) (rollbackTo generation) before.disk
      before.kernel [] := by
  refine .loadGenerationMetadata_bind settled.accepted
    (.pure (leaves_unchanged settled)) fun metadata inSync => ?_
  dsimp only
  split
  · exact .pure (leaves_unchanged settled)
  rename_i contains
  rw [Bool.not_eq_false] at contains
  obtain ⟨named, text⟩ := paddedText_of_containsGeneration contains
  obtain ⟨selected, previous, knownGood, opened⟩ := settled.opened inSync contains
  have holds := opened.holds
  have selectedText := paddedText_of_readFixedString holds.read.1
  have aborts : (rollbackAbort selected generation).Readable :=
    ⟨holds.named, selectedText, text, text, text⟩
  rw [holds.selectedGeneration]
  refine .askKernel_bind fun verified _ served => ?_
  obtain rfl := served.verify
  cases verified with
  | false => exact .pure (leaves_unchanged settled)
  | true =>
  refine .askKernel_bind fun staged middle served => ?_
  obtain ⟨⟨last, isLast, recorded⟩, waits⟩ := served.stageRollback opened.records
  cases staged with
  | false =>
    exact .abort holds aborts fun _ _ written => opened.rollback_refused (by simp) (by simp)
      isLast recorded (fun other => (served.stageRollback_other other).2) written
  | true =>
  have hasTarget := fun other => (served.stageRollback_other other).1
  obtain ⟨prepares, waits⟩ := waits rfl
  refine .writeCheckpoint_bind holds ⟨named, text, selectedText, text, text⟩
    fun _ _ written => .askKernel_bind fun rolledBack after served => ?_
  have switched := served.rollback prepares waits
  cases rolledBack with
  | false =>
    obtain rfl : after = middle := switched
    exact .abort written aborts fun _ _ written => opened.rollback_refused (by simp) (by simp)
      (.inr rfl) prepares (fun other => nomatch hasTarget other) written
  | true =>
    refine .pure (opened.leaves written switched fun meets => ?_)
    obtain ⟨rfl, -⟩ := opened.rollback_meets (by simp) meets
    exact ⟨rfl, nofun⟩

theorem comes_markKnownGood (settled : Settled before) (generation : Bytes) :
    Comes (Leaves (.markKnownGood generation) before) (markKnownGood generation) before.disk
      before.kernel [] := by
  refine .loadGenerationMetadata_bind settled.accepted
    (.pure (leaves_unchanged settled)) fun metadata inSync => ?_
  dsimp only
  split
  · exact .pure (leaves_unchanged settled)
  rename_i found isFound
  split
  · exact .pure (leaves_unchanged settled)
  rename_i isSelected
  rw [not_not] at isSelected
  split
  · exact .pure (leaves_unchanged settled)
  rename_i contains
  rw [Bool.not_eq_false] at contains
  obtain ⟨selected, previous, knownGood, opened⟩ := settled.opened inSync contains
  have holds := opened.holds
  obtain rfl : found = selected := Option.some.inj (isFound.symm.trans holds.selectedGeneration)
  obtain rfl := isSelected
  have selectedText := paddedText_of_readFixedString holds.read.1
  obtain ⟨taken, isTaken, takenText, takes⟩ := holds.fieldOrSelected holds.read.2.1
  refine .askKernel_bind fun verified _ served => ?_
  obtain rfl := served.verify
  cases verified with
  | false => exact .pure (leaves_unchanged settled)
  | true =>
  rw [show (previousGeneration metadata.sector).getD found = taken from isTaken]
  refine .writeCheckpoint_bind holds
    ⟨holds.named, selectedText, takenText, selectedText, selectedText⟩
    fun _ _ written => .askKernel_bind fun marked after served => ?_
  have marks := served.markKnownGood opened.records
  cases marked with
  | false =>
    obtain rfl : after = before.kernel := marks
    refine .pure (opened.leaves written opened.records fun meets => ?_)
    obtain ⟨nonempty, condition⟩ := opened.mark_meets (by simp) rfl meets
    obtain rfl := takes nonempty
    obtain rfl := condition.resolve_left fun accepted => accepted (by simp)
    exact ⟨rfl, fun _ _ => rfl⟩
  | true =>
    refine .pure (opened.leaves written marks fun meets => ?_)
    obtain rfl := takes (opened.mark_meets (by simp) rfl meets).1
    exact ⟨rfl, nofun⟩

theorem generationFields_appendedSector (inSync : InSync disk metadata)
    (room : metadataCount metadata.sector < maxGenerationEntries)
    (short : generation.length ≤ diskStringLen) :
    (disk.writeSector metadata.sectorNumber (appendedSector metadata.sector generation)).Accepted ∧
      (disk.writeSector metadata.sectorNumber
        (appendedSector metadata.sector generation)).generationFields = disk.generationFields := by
  have layout := metadataLayout
  have written := inSync.writeSector (rewritten_appendedSector short room)
  refine ⟨written.accepted, ?_⟩
  simp only [VertexDisk.generationFields, ← written.sector, ← inSync.sector]
  rw [field_appendedSector short (by omega) (by omega),
    field_appendedSector short (by omega) (by omega),
    field_appendedSector short (by omega) (by omega)]

theorem comes_registerImportGeneration (settled : Settled before) (generation : Bytes) :
    Comes (Leaves (.registerImport generation) before) (registerImportGeneration generation)
      before.disk before.kernel [] := by
  refine .loadGenerationMetadata_bind settled.accepted
    (.pure (leaves_unchanged settled)) fun metadata inSync => ?_
  dsimp only
  split
  · exact .pure (leaves_unchanged settled)
  refine .askKernel_bind fun verified _ served => ?_
  obtain rfl := served.verify
  cases verified with
  | false => exact .pure (leaves_unchanged settled)
  | true =>
  rw [if_neg (by simp)]
  unfold GenerationMetadata.appendGeneration
  split
  · rename_i fits
    obtain ⟨accepted, fields⟩ := generationFields_appendedSector inSync fits.1 fits.2
    refine .request_bind trivial ?_
    rintro answer _ (⟨rfl, rfl | impossible⟩ | ⟨impossible, -⟩)
    · exact Comes.pure fun _ => ⟨⟨fields.trans settled.agrees, nofun⟩, accepted,
        fields.trans settled.agrees, settled.named, settled.running, settled.consistent⟩
    · exact impossible.elim
    · exact impossible.elim
  · exact .pure (leaves_unchanged settled)

theorem comes_program (settled : Settled before) (command : ManagerCommand) :
    Comes (Leaves command before) command.program before.disk before.kernel [] := by
  cases command with
  | registerImport generation => exact comes_registerImportGeneration settled generation
  | install generation => exact comes_installGeneration settled generation
  | rollback generation => exact comes_rollbackTo settled generation
  | markKnownGood generation => exact comes_markKnownGood settled generation

end Leaves

theorem CommandStep.Happens.upholds {step : CommandStep} (happens : step.Happens)
    (settled : Settled step.before) (meets : step.Meets) : step.Upholds ∧ Settled step.after :=
  (comes_program settled step.command).finishes happens meets

/-- In a run whose commands all meet their conditions, each of them upholds the
agreement. -/
theorem upholds_of_commandRun (start : ManagerWorld GenerationState) (settled : Settled start)
    (steps : List CommandStep) (run : CommandRun start steps)
    (meets : ∀ step ∈ steps, step.Meets) : ∀ step ∈ steps, step.Upholds := by
  induction run with
  | nil => exact fun _ there => absurd there List.not_mem_nil
  | cons happens _ ih =>
    obtain ⟨upholds, settles⟩ := happens.upholds settled (meets _ List.mem_cons_self)
    exact List.forall_mem_cons.mpr
      ⟨upholds, ih settles fun step there => meets step (List.mem_cons_of_mem _ there)⟩

@[irreducible]
def firstRuns : GenerationState :=
  { twoGenerations with
    bootManager := { twoGenerations.bootManager with knownGoodGeneration := "gen:1" } }

def newlyBooted : ManagerWorld GenerationState where
  disk := createdDisk firstSelected
  kernel := firstRuns

theorem generationFields_firstSelected :
    (createdDisk firstSelected).generationFields =
      (some (utf8 "gen:1"), some [], some (utf8 "gen:1")) := by
  unfold VertexDisk.generationFields
  rw [sectorOf_metadata_createdDisk]
  decide +kernel

theorem records_firstRuns : firstRuns.Records (utf8 "gen:1") [] (utf8 "gen:1") where
  consistent := by
    unfold firstRuns
    exact consistent_twoGenerations.withBootManager _
  running := by decide +kernel
  selected := by decide +kernel
  previous := by decide +kernel
  knownGood := by decide +kernel

theorem settled_newlyBooted : Settled newlyBooted := by
  have records : newlyBooted.kernel.Records (utf8 "gen:1") [] (utf8 "gen:1") := records_firstRuns
  refine ⟨inSync_firstSelected.accepted, ?_, fun empty => ?_, records.running, records.consistent⟩
  · rw [Agrees, records.selected, records.previous, records.knownGood]
    exact generationFields_firstSelected
  · have named := records.selected
    rw [empty] at named
    exact absurd named (by decide)

section

variable (holds : Holds before.disk metadata (utf8 "gen:1") previous (utf8 "gen:1"))
  (contains : containsGeneration before.disk.metadata (utf8 "gen:2") = true)

include holds

theorem knownGoodGeneration_of_holds :
    (knownGoodGeneration metadata.sector).getD (utf8 "gen:1") = utf8 "gen:1" := by
  obtain ⟨taken, isTaken, -, takes⟩ := holds.fieldOrSelected holds.read.2.2
  exact isTaken.trans (takes (by decide))

include contains

theorem exists_refusedInstallation
    (refuses : KernelServes before.kernel .verify (utf8 "gen:2") false before.kernel) :
    ∃ disk : VertexDisk, (⟨.install (utf8 "gen:2"), before, [false], .error .verificationFailed,
        ⟨disk, before.kernel⟩⟩ : CommandStep).Happens ∧
      disk.generationFields = (some (utf8 "gen:1"), some (utf8 "gen:1"), some (utf8 "gen:1")) := by
  rw [← holds.inSync.sector] at contains
  have knownGood := knownGoodGeneration_of_holds holds
  have readable := readable_secondCheckpoint (.inl rfl)
  have aborted := (holds.checkpoint (readable transactionPrepare failureNone)).checkpoint
    (readable transactionAbort failureVerificationFailed)
  let logged : ManagerWorld LoggedKernel := ⟨before.disk, ⟨before.kernel, []⟩⟩
  have inSync : InSync logged.disk metadata := holds.inSync
  have verified : LoggedServes logged.kernel .verify (utf8 "gen:2") false
      ⟨before.kernel, [false]⟩ := ⟨refuses, rfl⟩
  exact ⟨_, finishes_installGeneration_refused inSync contains holds.selectedGeneration
    (by rw [knownGood]; rfl) (readable _ _).fits (readable _ _).fits (by rw [knownGood]; rfl)
    verified, aborted.fields⟩

theorem exists_acceptedInstallation {staged activated : GenerationState}
    (verifies : KernelServes before.kernel .verify (utf8 "gen:2") true before.kernel)
    (stages : KernelServes before.kernel .stage (utf8 "gen:2") true staged)
    (activates : KernelServes staged .activate (utf8 "gen:2") true activated) :
    ∃ disk : VertexDisk, (⟨.install (utf8 "gen:2"), before, [true, true, true], .ok (),
      ⟨disk, activated⟩⟩ : CommandStep).Happens := by
  rw [← holds.inSync.sector] at contains
  have knownGood := knownGoodGeneration_of_holds holds
  have prepares := readable_secondCheckpoint (.inl rfl) transactionPrepare failureNone
  have commits := readable_secondCheckpoint (.inr rfl) transactionCommit failureNone
  let logged : ManagerWorld LoggedKernel := ⟨before.disk, ⟨before.kernel, []⟩⟩
  have inSync : InSync logged.disk metadata := holds.inSync
  have first : LoggedServes logged.kernel .verify (utf8 "gen:2") true ⟨before.kernel, [true]⟩ :=
    ⟨verifies, rfl⟩
  have second : LoggedServes ⟨before.kernel, [true]⟩ .stage (utf8 "gen:2") true
      ⟨staged, [true, true]⟩ := ⟨stages, rfl⟩
  have third : LoggedServes ⟨staged, [true, true]⟩ .activate (utf8 "gen:2") true
      ⟨activated, [true, true, true]⟩ := ⟨activates, rfl⟩
  exact ⟨_, finishes_installGeneration_accepted inSync contains holds.selectedGeneration
    (by rw [knownGood]; rfl) prepares.fits commits.fits (by rw [knownGood]; rfl) first second third⟩

end

theorem holds_newlyBooted :
    Holds newlyBooted.disk ⟨newlyBooted.disk.metadata, newlyBooted.disk.metadataSection.1⟩
      (utf8 "gen:1") [] (utf8 "gen:1") :=
  ⟨inSync_firstSelected, by decide, generationFields_firstSelected⟩

theorem containsGeneration_newlyBooted :
    containsGeneration newlyBooted.disk.metadata (utf8 "gen:2") = true := by
  rw [show newlyBooted.disk = createdDisk firstSelected from rfl, sectorOf_metadata_createdDisk]
  decide +kernel

theorem kernelServes_damagedManifest :
    KernelServes firstRuns .verify (utf8 "gen:2") false firstRuns := by
  have serves : KernelServes firstRuns .verify (utf8 "gen:2") false
      (firstRuns.serve damagedManifest) := by
    refine ⟨damagedManifest, rfl, ?_, rfl, by decide +kernel⟩
    intro read isRead
    exact Option.some.inj (isRead.symm.trans (by rfl))
  rwa [serves.verify] at serves

/-- The refused installation changes the previous generation on disk, and the kernel has
none. -/
theorem not_upholds_refusedInstallation :
    Settled newlyBooted ∧ ∃ step, CommandRun newlyBooted [step] ∧
      step.command = .install (utf8 "gen:2") ∧ ¬step.Upholds := by
  obtain ⟨disk, happens, fields⟩ := exists_refusedInstallation holds_newlyBooted
    containsGeneration_newlyBooted kernelServes_damagedManifest
  have run := CommandRun.cons happens .nil
  refine ⟨settled_newlyBooted, _, run, rfl, ?_⟩
  rintro ⟨-, unchanged⟩
  have same : disk.generationFields = newlyBooted.disk.generationFields := unchanged _ rfl
  rw [fields, holds_newlyBooted.fields] at same
  exact absurd same (by decide)

theorem kernelServes_askFor {state : GenerationState} {call : SwitchCall} {name : String}
    (succeeds : (exec (askFor call name).body state).1.isOk = true) :
    KernelServes state call (utf8 name) true (state.serve (askFor call name)) := by
  refine ⟨askFor call name, rfl, ?_, rfl, succeeds.symm⟩
  intro read isRead
  simpa [SwitchRequest.name, askFor, obligingMachine, Machine.holding] using isRead.symm

/-- The same installation, which the kernel accepts. -/
theorem upholds_acceptedInstallation :
    ∃ step, CommandRun newlyBooted [step] ∧ step.command = .install (utf8 "gen:2") ∧
      step.result = .ok () ∧ step.Upholds := by
  have verifies : KernelServes newlyBooted.kernel .verify (utf8 "gen:2") true newlyBooted.kernel := by
    have serves : KernelServes firstRuns .verify (utf8 "gen:2") true _ :=
      kernelServes_askFor (by decide +kernel)
    rwa [serves.verify] at serves
  have stages : KernelServes newlyBooted.kernel .stage (utf8 "gen:2") true _ :=
    kernelServes_askFor (by decide +kernel)
  have activates : KernelServes (newlyBooted.kernel.serve (askFor .stage "gen:2")) .activate
      (utf8 "gen:2") true _ := kernelServes_askFor (by decide +kernel)
  obtain ⟨disk, happens⟩ := exists_acceptedInstallation holds_newlyBooted
    containsGeneration_newlyBooted verifies stages activates
  have run := CommandRun.cons happens .nil
  refine ⟨_, run, rfl, rfl, upholds_of_commandRun newlyBooted settled_newlyBooted _ run ?_ _
    List.mem_cons_self⟩
  intro step isStep
  rw [List.mem_singleton.mp isStep]
  refine .inr ⟨?_, .inr ⟨?_, by simp⟩⟩
  · rw [show newlyBooted.kernel = firstRuns from rfl, records_firstRuns.knownGood]
    decide
  · rw [show newlyBooted.kernel = firstRuns from rfl, records_firstRuns.selected]
    decide

end VertexOS
