import VertexOS.GenerationRuns

/-!
# Refused stagings

Whether a staging that fails leaves the selected, previous and known good generation alone.
-/

namespace VertexOS

open ByteStrings FailingCalls

/-- What the boot manager has selected, and the running kernel, are as before. -/
structure SameSelection (before after : GenerationState) : Prop where
  selected : after.bootManager.selectedGeneration = before.bootManager.selectedGeneration
  previous : after.bootManager.previousGeneration = before.bootManager.previousGeneration
  knownGood : after.bootManager.knownGoodGeneration = before.bootManager.knownGoodGeneration
  runtime : after.runtime = before.runtime

instance : IsTrans GenerationState SameSelection :=
  ⟨fun _ _ _ first second => ⟨second.selected.trans first.selected,
    second.previous.trans first.previous, second.knownGood.trans first.knownGood,
    second.runtime.trans first.runtime⟩⟩

instance : Std.Refl SameSelection := ⟨fun _ => ⟨rfl, rfl, rfl, rfl⟩⟩

section Staging

variable {machine : SwitchMachine} {state after : GenerationState} {capSlot generation len : Nat}
  {rollback : Bool} {error : IpcError}

theorem sameSelection_abortSwitch {change : BootManagerState → BootManagerState}
    (keeps : ∀ manager, (change manager).selectedGeneration = manager.selectedGeneration ∧
      (change manager).previousGeneration = manager.previousGeneration ∧
      (change manager).knownGoodGeneration = manager.knownGoodGeneration) :
    Always SameSelection (abortSwitch change) :=
  .bind (.modify fun state => ⟨(keeps state.bootManager).1,
    (keeps state.bootManager).2.1, (keeps state.bootManager).2.2, rfl⟩) fun _ => .throw _

theorem sameSelection_stageTarget (target : GenerationRuntime) (buildFailure : String) :
    Always SameSelection (stageTarget machine target rollback buildFailure) := by
  refine .bind .get fun running => ?_
  dsimp only
  split
  · exact sameSelection_abortSwitch fun _ => ⟨rfl, rfl, rfl⟩
  refine .bind (.attempt ⟨fun state => ?_⟩) fun outcome => ?_
  · have restaged := (restages_stageBootConfigRuntime machine target.config).evolves state
    unfold Evolves Restages at restaged
    rw [Evolves, restaged]
    exact ⟨rfl, rfl, rfl, rfl⟩
  · cases outcome with
    | error _ => exact sameSelection_abortSwitch fun _ => ⟨rfl, rfl, rfl⟩
    | ok build => exact .modify fun _ => ⟨rfl, rfl, rfl, rfl⟩

/-- The request is read, and the generation that it names may be staged. -/
def GenerationState.Begins (state : GenerationState) (machine : SwitchMachine)
    (capSlot generation len : Nat) (rollback : Bool) : Prop :=
  ∃ requested, (exec (readGenerationRequest machine.toMachine capSlot generation len) state).1 =
      .ok requested ∧
    if rollback then ∃ target, state.rollbackRuntime = some target ∧
      utf8 target.generationId = requested
    else ∃ target, GenerationRuntime.find state.generationRuntimes requested = some target ∧
      state.failedGeneration ≠ some target.generationId

theorem sameSelection_prepareSwitch_bind {target : String} {next : PUnit → GenerationCall Unit}
    (keeps : Always SameSelection (next ⟨⟩)) :
    SameSelection state (exec (prepareSwitch machine.toMachine target >>= next) state).2 ↔
      state.bootManager.previousGeneration = state.runtime.generationId := by
  rw [prepareSwitch, exec_modify_bind]
  set prepared := (state.discardUncommittedStagedGeneration machine.toMachine).updateBootManager
    fun manager => manager.installPrepare state.runtime.generationId target with isPrepared
  obtain ⟨selected, previous, knownGood, runtime⟩ := keeps.evolves prepared
  have begun : prepared.bootManager.selectedGeneration = state.bootManager.selectedGeneration ∧
      prepared.bootManager.previousGeneration = state.runtime.generationId ∧
      prepared.bootManager.knownGoodGeneration = state.bootManager.knownGoodGeneration ∧
      prepared.runtime = state.runtime := by
    rw [isPrepared, GenerationState.discardUncommittedStagedGeneration]
    split <;> exact ⟨rfl, rfl, rfl, rfl⟩
  constructor
  · intro same
    rw [← same.previous, previous, begun.2.1]
  · intro noted
    exact ⟨selected.trans begun.1, previous.trans (begun.2.1.trans noted.symm),
      knownGood.trans begun.2.2.1, runtime.trans begun.2.2.2⟩

/-- How a staging may end: well, or with the selection as it was exactly when the staging did
not begin or noted nothing new. -/
def Settles (state : GenerationState) (begins : Prop) :
    Except IpcError Unit × GenerationState → Prop :=
  Lands (fun _ _ => True) fun _ after => SameSelection state after ↔
    (begins → state.bootManager.previousGeneration = state.runtime.generationId)

theorem settles_refused {begins : Prop} (refused : ¬begins) :
    Settles state begins (.error error, state) :=
  ⟨fun _ begun => absurd begun refused, fun _ => Std.Refl.refl state⟩

theorem settles_prepareSwitch_bind {begins : Prop} {target : String}
    {next : PUnit → GenerationCall Unit} (begun : begins) (keeps : Always SameSelection (next ⟨⟩)) :
    Ends (Settles state begins) (prepareSwitch machine.toMachine target >>= next) state := by
  have settled := @sameSelection_prepareSwitch_bind machine state target next keeps
  unfold Ends
  rcases outcome : exec (prepareSwitch machine.toMachine target >>= next) state with
    ⟨_ | _, after⟩
  · rw [outcome] at settled
    exact settled.trans ⟨fun noted _ => noted, fun noted => noted begun⟩
  · trivial

theorem settles_readGenerationRequest_bind {next : Bytes → GenerationCall Unit} (rest : ∀ requested,
      (exec (readGenerationRequest machine.toMachine capSlot generation len) state).1 =
        .ok requested →
      Ends (Settles state (state.Begins machine capSlot generation len rollback))
        (next requested) state) :
    Ends (Settles state (state.Begins machine capSlot generation len rollback))
      (readGenerationRequest machine.toMachine capSlot generation len >>= next) state := by
  have unchanged := (always_eq_readGenerationRequest machine.toMachine capSlot generation
    len).evolves state
  refine .bind ?_ ?_
  · intro error after isRead
    rw [Evolves, isRead] at unchanged
    obtain rfl : state = after := unchanged
    refine settles_refused fun begins => ?_
    obtain ⟨requested, read, -⟩ := begins
    rw [isRead] at read
    cases read
  · intro requested after isRead
    rw [Evolves, isRead] at unchanged
    obtain rfl : state = after := unchanged
    exact rest requested (by rw [isRead])

theorem settles_stageGeneration :
    Ends (Settles state (state.Begins machine capSlot generation len false))
      (stageGeneration machine capSlot generation len) state := by
  refine settles_readGenerationRequest_bind fun requested isRead => .get_bind ?_
  -- what the request was read as decides whether the staging begins
  have begins_iff : state.Begins machine capSlot generation len false ↔
      ∃ target, GenerationRuntime.find state.generationRuntimes requested = some target ∧
        state.failedGeneration ≠ some target.generationId := by
    simp [GenerationState.Begins, isRead]
  rw [begins_iff]
  refine .fromOption_bind (fun missing => settles_refused ?_) fun target found =>
    .require_bind (fun hasFailed => settles_refused ?_) fun notFailed =>
      .ite (fun _ => trivial) fun _ =>
        settles_prepareSwitch_bind ⟨target, found, notFailed⟩ ?_
  · simp [missing]
  · simpa [found] using hasFailed
  · split
    · exact sameSelection_stageTarget ..
    · exact sameSelection_abortSwitch fun _ => ⟨rfl, rfl, rfl⟩

theorem settles_stageRollbackGeneration :
    Ends (Settles state (state.Begins machine capSlot generation len true))
      (stageRollbackGeneration machine capSlot generation len) state := by
  refine settles_readGenerationRequest_bind fun requested isRead => .get_bind ?_
  have begins_iff : state.Begins machine capSlot generation len true ↔
      ∃ target, state.rollbackRuntime = some target ∧ utf8 target.generationId = requested := by
    simp [GenerationState.Begins, isRead]
  rw [begins_iff]
  refine .fromOption_bind (fun missing => settles_refused ?_) fun target found =>
    .require_bind (fun other => settles_refused ?_) fun same =>
      settles_prepareSwitch_bind ⟨target, found, same⟩ (sameSelection_stageTarget ..)
  · simp [missing]
  · simpa [found] using other

/-- A staging that fails keeps the selection exactly when it did not begin, or began where
the running generation was noted as the previous one already. -/
theorem failed_staging_sameSelection_iff
    (failed : exec (if rollback then stageRollbackGeneration machine capSlot generation len
      else stageGeneration machine capSlot generation len) state = (.error error, after)) :
    SameSelection state after ↔ (state.Begins machine capSlot generation len rollback →
      state.bootManager.previousGeneration = state.runtime.generationId) := by
  have ends : Ends (Settles state (state.Begins machine capSlot generation len rollback))
      (if rollback then stageRollbackGeneration machine capSlot generation len
        else stageGeneration machine capSlot generation len) state := by
    cases rollback
    · exact settles_stageGeneration
    · exact settles_stageRollbackGeneration
  rw [Ends, failed] at ends
  exact ends

end Staging

def damagedMachine : SwitchMachine :=
  { obligingMachine "gen:2" with manifestIntact := fun _ => false }

/-- The second generation is refused, and the first is held for the previous one. -/
theorem previous_changed_by_refusal :
    let ended := exec (stageGeneration damagedMachine initialProcessControlCapSlot 0 5)
      twoGenerations
    ended.1 = .error .badCapability ∧ twoGenerations.bootManager.previousGeneration = "" ∧
      ended.2.bootManager.previousGeneration = "gen:1" := by
  decide +kernel

def refusedOnce : GenerationState :=
  (exec (stageGeneration damagedMachine initialProcessControlCapSlot 0 5) twoGenerations).2

/-- The damaged generation is asked for once more, where the first is noted already. -/
theorem sameSelection_refusedAgain :
    refusedOnce.Begins damagedMachine initialProcessControlCapSlot 0 5 false ∧
      ∃ after, exec (if false then
          stageRollbackGeneration damagedMachine initialProcessControlCapSlot 0 5
          else stageGeneration damagedMachine initialProcessControlCapSlot 0 5) refusedOnce =
        (.error .badCapability, after) ∧ SameSelection refusedOnce after := by
  have noted : refusedOnce.bootManager.previousGeneration = refusedOnce.runtime.generationId := by
    decide +kernel
  have refused : (exec (if false then
      stageRollbackGeneration damagedMachine initialProcessControlCapSlot 0 5
      else stageGeneration damagedMachine initialProcessControlCapSlot 0 5) refusedOnce).1 =
        .error .badCapability := by decide +kernel
  refine ⟨⟨utf8 "gen:2", by decide +kernel, ?_⟩, ?_⟩
  · have known : ∃ target ∈ GenerationRuntime.find refusedOnce.generationRuntimes (utf8 "gen:2"),
        refusedOnce.failedGeneration ≠ some target.generationId := by decide +kernel
    exact known
  · rcases outcome : exec (if false then
      stageRollbackGeneration damagedMachine initialProcessControlCapSlot 0 5
      else stageGeneration damagedMachine initialProcessControlCapSlot 0 5) refusedOnce with
      ⟨ended, after⟩
    rw [outcome] at refused
    obtain rfl : ended = .error .badCapability := refused
    exact ⟨after, rfl, (failed_staging_sameSelection_iff outcome).mpr fun _ => noted⟩

end VertexOS
