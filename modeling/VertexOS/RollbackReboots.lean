import VertexOS.ManagerSafety

/-!
# Rollbacks and the next boot

A rollback that the kernel makes by itself, as for an init process whose activation
failed, does not reach the disk: the next boot goes by what the manager wrote there.
-/

namespace VertexOS

open ByteStrings ByteImages Dialogues

/-- The kernel serves a call that finds the name in its caller's memory, or nothing. -/
def KernelServes (before : GenerationState) (call : SwitchCall) (generation : Bytes)
    (answer : Bool) (after : GenerationState) : Prop :=
  ∃ request : SwitchRequest, request.call = call ∧
    (∀ read, request.name = some read → read = generation) ∧
    after = before.serve request ∧
    answer = (FailingCalls.exec request.body before).1.isOk

/-- The kernel, and what it has granted the manager. -/
structure GrantingKernel where
  state : GenerationState
  granted : Approvals

def GrantingServes (before : GrantingKernel) (call : SwitchCall) (generation : Bytes)
    (answer : Bool) (after : GrantingKernel) : Prop :=
  KernelServes before.state call generation answer after.state ∧
    AnyReply before.granted call generation answer after.granted

/-- A call into the kernel, by init or by a manager that it leaves behind, or a session of
the manager, which may be cut off anywhere. -/
inductive SystemEvent where
  | kernelCall (request : SwitchRequest)
  | session (messages : List Bytes)

inductive SystemStep : ManagerWorld GrantingKernel → SystemEvent →
    ManagerWorld GrantingKernel → Prop
  | kernelCall {before : ManagerWorld GrantingKernel} {request : SwitchRequest} :
      SystemStep before (.kernelCall request)
        ⟨before.disk, before.kernel.state.serve request, before.kernel.granted⟩
  | session {before after : ManagerWorld GrantingKernel} {messages : List Bytes} :
      Dialogue.Reaches (ManagerServes True GrantingServes) (serveMessages messages) before after →
      SystemStep before (.session messages) after

inductive SystemRun : ManagerWorld GrantingKernel → List SystemEvent →
    ManagerWorld GrantingKernel → Prop
  | nil {world : ManagerWorld GrantingKernel} : SystemRun world [] world
  | cons {before middle after : ManagerWorld GrantingKernel} {event : SystemEvent}
      {rest : List SystemEvent} :
      SystemStep before event middle → SystemRun middle rest after →
      SystemRun before (event :: rest) after

/-- The call rolls back from the generation `failed`. -/
def GenerationState.RollsBack (state : GenerationState) (request : SwitchRequest)
    (failed : String) : Prop :=
  request.call = .rollback ∧ state.runtime.generationId = failed ∧
    ∃ fallback, state.Enters request fallback

/-- The call is served, and the manager has been granted nothing yet. -/
def rolledBack (before : ManagerWorld GenerationState) (request : SwitchRequest) :
    ManagerWorld GrantingKernel :=
  ⟨before.disk, before.kernel.serve request, []⟩

/-- After the rollback and what follows it, the next boot does not select the generation that
was left, unless the manager installed it again: its installations are granted a stage. -/
def RollbackSurvives (before : ManagerWorld GenerationState) (request : SwitchRequest)
    (after : ManagerWorld GrantingKernel) (bootstrap : String) : Prop :=
  ∀ failed, before.kernel.RollsBack request failed →
    (.stage, utf8 failed) ∉ after.kernel.granted →
    ∀ recovered, recoverVertexdiskGenerationSelection (some after.disk) bootstrap =
      some recovered → recovered.selectedGeneration ≠ failed

def SameDisk (world : ManagerWorld GrantingKernel) (other : ManagerWorld Approvals) : Prop :=
  world.disk = other.disk ∧ world.kernel.granted = other.kernel

section

variable {before after : ManagerWorld GrantingKernel}

theorem managerServes_anyReply {other : ManagerWorld Approvals} {question : ManagerRequest}
    {answer : question.Answer} (same : SameDisk before other)
    (served : ManagerServes True GrantingServes before question answer after) :
    ∃ next, ManagerServes True AnyReply other question answer next ∧ SameDisk after next := by
  obtain ⟨disk, granted⟩ := same
  cases question with
  | readSector sector =>
    obtain ⟨rfl, read⟩ := served
    rw [disk] at read
    exact ⟨other, ⟨rfl, read⟩, disk, granted⟩
  | writeSector sector bytes =>
    rcases served with ⟨rfl, acknowledged⟩ | ⟨-, rfl, refused⟩
    · exact ⟨{ other with disk := other.disk.writeSector sector bytes },
        .inl ⟨rfl, acknowledged⟩, congrArg (·.writeSector sector bytes) disk, granted⟩
    · exact ⟨other, .inr ⟨trivial, rfl, refused⟩, disk, granted⟩
  | kernel call generation =>
    obtain ⟨sameDisk, -, replied⟩ := served
    rw [granted] at replied
    exact ⟨⟨other.disk, after.kernel.granted⟩, ⟨rfl, replied⟩, sameDisk.trans disk, rfl⟩

theorem SystemRun.restarts {first middle : ManagerWorld Approvals} {events : List SystemEvent}
    {admits : List Bytes → Prop} (run : SystemRun before events after)
    (admitted : ∀ messages, .session messages ∈ events → admits messages)
    (same : SameDisk before middle) (start : Dialogue.Restarts (ManagerServes True AnyReply)
      (fun program => ∃ messages, admits messages ∧ program = serveMessages messages) first middle) :
    ∃ last : ManagerWorld Approvals, SameDisk after last ∧
      Dialogue.Restarts (ManagerServes True AnyReply)
        (fun program => ∃ messages, admits messages ∧ program = serveMessages messages) first
        last := by
  induction run generalizing middle with
  | nil => exact ⟨middle, same, start⟩
  | cons step _ ih =>
    have later := fun messages there => admitted messages (List.mem_cons_of_mem _ there)
    cases step with
    | kernelCall => exact ih later same start
    | session reaches =>
      obtain ⟨next, reached, follows⟩ := Dialogue.Reaches.simulate reaches same
        fun _ _ _ _ _ => managerServes_anyReply
      exact ih later follows (.session start ⟨_, admitted _ List.mem_cons_self, rfl⟩ reached)

end

/-- If the disk selects another generation when the kernel rolls back, and until the next boot
the commands have readable names and no rollback to the generation that was left is granted,
then the rollback survives. -/
theorem rollbackSurvives_of_selectsOther (before : ManagerWorld GenerationState)
    (request : SwitchRequest) (events : List SystemEvent) (after : ManagerWorld GrantingKernel)
    (run : SystemRun (rolledBack before request) events after)
    (bootstrap selected : String)
    (recovers : recoverVertexdiskGenerationSelection (some before.disk) bootstrap ≠ none)
    (selects : fixedStrAt before.disk.metadata metadataSelectedOffset false = some selected)
    (other : selected ≠ before.kernel.runtime.generationId)
    (texts : ∀ messages, .session messages ∈ events → TextMessages messages)
    (noRollback :
      (.stageRollback, utf8 before.kernel.runtime.generationId) ∉ after.kernel.granted) :
    RollbackSurvives before request after bootstrap := by
  rintro failed ⟨-, rfl, -⟩ noInstall recovered recovery
  generalize before.kernel.runtime.generationId = failed at *
  obtain ⟨accepted, recoverable⟩ := recoverVertexdiskGenerationSelection_ne_none_iff.mp recovers
  obtain ⟨bytes, field, decoded⟩ := Option.bind_eq_some_iff.mp selects
  obtain rfl := fromUtf8?_eq_some.mp decoded
  let first : ManagerWorld Approvals := ⟨before.disk, []⟩
  have start : SameDisk (rolledBack before request) first := ⟨rfl, rfl⟩
  obtain ⟨last, ⟨sameDisk, sameGrants⟩, restarts⟩ := run.restarts texts start .refl
  have sound : ManagerWorld.Sound before.disk last := by
    refine restarts.keeps ⟨accepted, recoverable, List.prefix_refl _, _, field, ⟨selected, rfl⟩,
      .inl field⟩ ?_
    rintro _ world ⟨messages, isText, rfl⟩ sound
    exact keeps_serveMessages messages isText sound
  -- What the disk selects at last is what it selected or was staged, and neither is `failed`.
  obtain ⟨name, lastField, ⟨text, rfl⟩, selectable⟩ := sound.selected
  have different : text ≠ failed := by
    rintro rfl
    rcases selectable with initial | approved
    · exact other (utf8_injective (Option.some.inj (field.symm.trans initial)))
    · rw [sameGrants] at noInstall noRollback
      exact approved.staged.elim noInstall noRollback
  obtain ⟨metadata, load, fields⟩ := Option.bind_eq_some_iff.mp recovery
  obtain ⟨-, rfl⟩ := VertexDisk.accepted_of_load load
  rw [recoverFromMetadata_selectedGeneration fields, sameDisk]
  have read : fixedStrAt last.disk.metadata metadataSelectedOffset false = some text :=
    Option.bind_eq_some_iff.mpr ⟨_, lastField, fromUtf8?_eq_some.mpr rfl⟩
  rw [read]
  exact different

/-- The second of two generations runs, and a rollback goes to the first. -/
@[irreducible]
def secondRuns : GenerationState := twoGenerations.serve (askFor .activate "gen:2")

theorem rollsBack_secondRuns : secondRuns.RollsBack (askFor .rollback "gen:1") "gen:2" := by
  refine ⟨rfl, by decide +kernel, "gen:1", ⟨⟨0x5000, 0x400000, 0x800000⟩, ?_⟩, ?_⟩
  · decide +kernel
  · decide +kernel

theorem not_rollbackSurvives_of_selected {disk : VertexDisk} {kernel : GenerationState}
    {request : SwitchRequest} {failed bootstrap : String}
    {recovered : VertexDiskGenerationRecovery} (rollsBack : kernel.RollsBack request failed)
    (recovers : recoverVertexdiskGenerationSelection (some disk) bootstrap = some recovered)
    (selected : recovered.selectedGeneration = failed) :
    ∃ after, SystemRun (rolledBack ⟨disk, kernel⟩ request) [] after ∧
      ¬RollbackSurvives ⟨disk, kernel⟩ request after bootstrap :=
  ⟨_, .nil, fun survives => survives failed rollsBack nofun recovered recovers selected⟩

/-- The disk selects the generation that failed; the kernel rolls back, and the next boot
selects the failed generation again. -/
theorem not_rollbackSurvives_selectedOnDisk :
    ∃ after, SystemRun (rolledBack ⟨createdDisk secondSelected, secondRuns⟩
        (askFor .rollback "gen:1")) [] after ∧
      ¬RollbackSurvives ⟨createdDisk secondSelected, secondRuns⟩ (askFor .rollback "gen:1") after
        "gen:1" := by
  have recovers : recoverVertexdiskGenerationSelection (some (createdDisk secondSelected)) "gen:1" =
      some ⟨"gen:2", "", "gen:2", 0, "", 0⟩ := by
    unfold recoverVertexdiskGenerationSelection
    rw [Option.bind_some, VertexDisk.load_of_accepted inSync_secondSelected.accepted,
      Option.bind_eq_bind, Option.bind_some,
      recoverFromMetadata_congr fun _ inside => metadata_createdDisk _ inside]
    decide +kernel
  exact not_rollbackSurvives_of_selected rollsBack_secondRuns recovers rfl

def firstSelected : Image := createdMetadata "gen:1" ["gen:2"]

theorem inSync_firstSelected :
    InSync (createdDisk firstSelected)
      ⟨(createdDisk firstSelected).metadata, (createdDisk firstSelected).metadataSection.1⟩ :=
  inSync_createdDisk (by decide +kernel) (by decide +kernel) (by decide +kernel)

def secondCheckpoint (state reason : Nat) (chosen : String) : Checkpoint :=
  installCheckpoint (utf8 "gen:1") (utf8 "gen:1") (utf8 "gen:2") state reason (utf8 chosen)

theorem readable_secondCheckpoint {chosen : String}
    (isChosen : chosen = "gen:1" ∨ chosen = "gen:2") (state reason : Nat) :
    (secondCheckpoint state reason chosen).Readable := by
  have first : PaddedText (utf8 "gen:1") := ⟨by decide, by decide⟩
  have second : PaddedText (utf8 "gen:2") := ⟨by decide, by decide⟩
  rcases isChosen with rfl | rfl
  · exact ⟨(by decide : utf8 "gen:1" ≠ []), first, first, first, second⟩
  · exact ⟨(by decide : utf8 "gen:2" ≠ []), second, first, first, second⟩

def damagedManifest : SwitchRequest :=
  { askFor .verify "gen:2" with
    machine := { obligingMachine "gen:2" with manifestIntact := fun _ => false } }

/-- The second generation runs, and the disk selects the first. -/
def otherOnDisk : ManagerWorld GenerationState where
  disk := createdDisk firstSelected
  kernel := secondRuns

/-- The manager is told to install the generation that was left. -/
def retrySecond : List Bytes := [utf8 "install gen:2"]

theorem exists_refusedRetry {world : ManagerWorld GrantingKernel} {metadata : GenerationMetadata}
    {kernel : GrantingKernel} (inSync : InSync world.disk metadata)
    (contains : containsGeneration metadata.sector (utf8 "gen:2") = true)
    (isSelected : selectedGeneration metadata.sector = some (utf8 "gen:1"))
    (knownGood : knownGoodGeneration metadata.sector = some (utf8 "gen:1"))
    (refuses : GrantingServes world.kernel .verify (utf8 "gen:2") false kernel) :
    ∃ disk, SystemRun world [.session retrySecond] ⟨disk, kernel⟩ := by
  have readable := readable_secondCheckpoint (.inl rfl)
  have parsed : ManagerCommand.parse (utf8 "install gen:2") = some (.install (utf8 "gen:2")) := by
    decide +kernel
  have finished : Dialogue.Finishes (ManagerServes True GrantingServes)
      (installGeneration (utf8 "gen:2")) world (.error .verificationFailed) _ :=
    finishes_installGeneration_refused inSync contains isSelected (by rw [knownGood]; rfl)
      (readable transactionPrepare failureNone).fits
      (readable transactionAbort failureVerificationFailed).fits (by rw [knownGood]; rfl) refuses
  exact ⟨_, .cons (.session (finishes_serveMessages_singleton (by decide) parsed finished).reaches)
    .nil⟩

/-- The rollback survives a session that tries to install the generation again, for which the
kernel finds the manifest damaged. -/
theorem rollbackSurvives_refusedRetry :
    ∃ after, SystemRun (rolledBack otherOnDisk (askFor .rollback "gen:1")) [.session retrySecond]
        after ∧ RollbackSurvives otherOnDisk (askFor .rollback "gen:1") after "gen:1" := by
  have refuses : GrantingServes (rolledBack otherOnDisk (askFor .rollback "gen:1")).kernel .verify
      (utf8 "gen:2") false
      ⟨(otherOnDisk.kernel.serve (askFor .rollback "gen:1")).serve damagedManifest, []⟩ := by
    refine ⟨⟨damagedManifest, rfl, fun read isRead => ?_, rfl, ?_⟩, rfl⟩
    · exact Option.some.inj (isRead.symm.trans (by rfl))
    · decide +kernel
  obtain ⟨disk, run⟩ := exists_refusedRetry inSync_firstSelected
    (by rw [sectorOf_metadata_createdDisk]; decide +kernel)
    (by rw [sectorOf_metadata_createdDisk]; decide +kernel)
    (by rw [sectorOf_metadata_createdDisk]; decide +kernel) refuses
  refine ⟨_, run, rollbackSurvives_of_selectsOther otherOnDisk (askFor .rollback "gen:1") _ _ run
    "gen:1" "gen:1" ?_ ?_ ?_ ?_ nofun⟩
  · exact recovers_createdDisk inSync_firstSelected.accepted (by decide +kernel)
  · refine (fixedStrAt_congr fun _ inside => metadata_createdDisk _ inside).trans ?_
    decide +kernel
  · rw [show otherOnDisk.kernel = secondRuns from rfl, rollsBack_secondRuns.2.1]
    decide
  · intro messages isSession message isMessage command parsed
    cases List.mem_singleton.mp isSession
    have own : ManagerCommand.parse (utf8 "install gen:2") = some (.install (utf8 "gen:2")) := by
      decide +kernel
    rw [List.mem_singleton.mp isMessage, own] at parsed
    cases parsed
    exact ⟨"gen:2", rfl⟩

end VertexOS
