import VertexOS.MetadataSectors

/-!
# The surroundings of the generation manager

The disk and the kernel that answer the manager, and what its requests come to there.
-/

namespace VertexOS

open ByteStrings ByteImages Dialogues

structure ManagerWorld (κ : Type) where
  disk : VertexDisk
  kernel : κ

section Surroundings

variable {κ : Type} {metadata : GenerationMetadata}

/-- What the block driver and the kernel can answer.  Where `mayFail` does not hold the
block driver does what it is asked for. -/
def ManagerServes (mayFail : Prop) (kernelServes : κ → SwitchCall → Bytes → Bool → κ → Prop)
    (before : ManagerWorld κ) :
    (request : ManagerRequest) → request.Answer → ManagerWorld κ → Prop
  | .readSector sector, answer, after => after = before ∧
      (answer = some (sectorOf before.disk.bytes sector) ∨ mayFail ∧ answer = none)
  | .writeSector sector bytes, answer, after =>
    after = { before with disk := before.disk.writeSector sector bytes } ∧
        (answer = true ∨ mayFail) ∨
      mayFail ∧ after = before ∧ answer = false
  | .kernel call generation, answer, after =>
    after.disk = before.disk ∧ kernelServes before.kernel call generation answer after.kernel

variable {mayFail : Prop} {kernelServes : κ → SwitchCall → Bytes → Bool → κ → Prop}
  {Invariant : ManagerWorld κ → Prop} {world : ManagerWorld κ}

theorem sectorOf_zero (image : Image) : sectorOf image 0 = image := by
  funext address
  simp [sectorOf]

theorem keeps_loadGenerationMetadata (now : Invariant world) :
    loadGenerationMetadata.Keeps (ManagerServes mayFail kernelServes) Invariant
      (fun result after => after = world ∧
        ∀ metadata, result = some metadata → world.disk.Accepted → InSync world.disk metadata)
      world := by
  refine .request_bind now ?_
  rintro superblock _ ⟨rfl, rfl | ⟨-, rfl⟩⟩
  · rw [sectorOf_zero]
    dsimp only
    split
    · exact .pure now ⟨rfl, nofun⟩
    refine .request_bind now ?_
    rintro sector _ ⟨rfl, rfl | ⟨-, rfl⟩⟩
    · dsimp only
      split
      · exact .pure now ⟨rfl, nofun⟩
      rename_i valid
      refine .pure now ⟨rfl, ?_⟩
      rintro metadata ⟨⟩ accepted
      simp only [validMetadataSector, Bool.not_eq_false, decide_eq_true_eq] at valid
      exact ⟨accepted, rfl, rfl, valid.2.2⟩
    · exact .pure now ⟨rfl, nofun⟩
  · exact .pure now ⟨rfl, nofun⟩

theorem validSuperblock_of_kernel {superblock : Image}
    (valid : validVertexdiskSuperblock superblock = true) : validSuperblock superblock = true := by
  have inside := VertexDisk.sectionInside_of_valid valid
    (show generationMetadataSection ≤ graphStoreSection by decide)
  simp only [validVertexdiskSuperblock, decide_eq_true_eq] at valid
  simp only [validSuperblock, decide_eq_true_eq]
  refine ⟨valid.1, valid.2.1, valid.2.2.1, valid.2.2.2.1, ?_, inside⟩
  have counted := inside.1
  have bounded := inside.2
  omega

theorem finishes_loadGenerationMetadata (inSync : InSync world.disk metadata) :
    Dialogue.Finishes (ManagerServes mayFail kernelServes) loadGenerationMetadata world
      (some metadata) world := by
  obtain ⟨accepted, number, sector, checksum⟩ := inSync
  obtain ⟨image, first⟩ := metadata
  obtain rfl : image = world.disk.metadata := sector
  obtain rfl : first = world.disk.metadataSection.1 := number
  have valid : validMetadataSector world.disk.metadata = true := by
    simp only [validMetadataSector, decide_eq_true_eq]
    exact ⟨accepted.magic, accepted.version, checksum⟩
  refine .answered ⟨rfl, .inl rfl⟩ ?_
  rw [sectorOf_zero]
  change Dialogue.Finishes _ (if validSuperblock world.disk.bytes = false then _ else _) _ _ _
  rw [if_neg (by simp [validSuperblock_of_kernel accepted.superblock])]
  refine .answered ⟨rfl, .inl rfl⟩ ?_
  change Dialogue.Finishes _ (if validMetadataSector world.disk.metadata = false then _ else _) _ _ _
  rw [if_neg (by simp [valid])]
  exact .done

theorem finishes_writeCheckpoint {checkpoint : Checkpoint} (fits : checkpoint.Fits) :
    Dialogue.Finishes (ManagerServes mayFail kernelServes) (metadata.writeCheckpoint checkpoint)
      world (some { metadata with sector := checkpointSector metadata.sector checkpoint })
      { world with
        disk := world.disk.writeSector metadata.sectorNumber
          (checkpointSector metadata.sector checkpoint) } := by
  unfold GenerationMetadata.writeCheckpoint
  rw [if_pos fits]
  have acknowledged : ManagerServes mayFail kernelServes world
      (.writeSector metadata.sectorNumber (checkpointSector metadata.sector checkpoint)) true
      { world with
        disk := world.disk.writeSector metadata.sectorNumber
          (checkpointSector metadata.sector checkpoint) } := .inl ⟨rfl, .inl rfl⟩
  exact .answered acknowledged .done

theorem finishes_askKernel {call : SwitchCall} {generation : Bytes} {answer : Bool} {kernel : κ}
    (answers : kernelServes world.kernel call generation answer kernel) :
    Dialogue.Finishes (ManagerServes mayFail kernelServes) (askKernel call generation) world answer
      { world with kernel } := by
  have served : ManagerServes mayFail kernelServes world (.kernel call generation) answer
      { world with kernel } := ⟨rfl, answers⟩
  exact .answered served .done

section

variable {selected generation : Bytes} {prepare second : Checkpoint}
  (inSync : InSync world.disk metadata)
  (contains : containsGeneration metadata.sector generation = true)
  (isSelected : selectedGeneration metadata.sector = some selected)
  (isPrepare : prepare = installCheckpoint selected
    ((knownGoodGeneration metadata.sector).getD selected) generation transactionPrepare
    failureNone selected)
  (prepareFits : prepare.Fits) (secondFits : second.Fits)
include inSync contains isSelected isPrepare prepareFits secondFits

theorem finishes_installGeneration_refused
    (isSecond : second = installCheckpoint selected
      ((knownGoodGeneration metadata.sector).getD selected) generation transactionAbort
      failureVerificationFailed selected)
    {kernel : κ} (refuses : kernelServes world.kernel .verify generation false kernel) :
    Dialogue.Finishes (ManagerServes mayFail kernelServes) (installGeneration generation) world
      (.error .verificationFailed)
      ⟨(world.disk.writeSector metadata.sectorNumber
            (checkpointSector metadata.sector prepare)).writeSector metadata.sectorNumber
          (checkpointSector (checkpointSector metadata.sector prepare) second), kernel⟩ := by
  refine (finishes_loadGenerationMetadata inSync).bind ?_
  dsimp only
  rw [if_neg (by simp [contains]), isSelected]
  dsimp only
  rw [← isPrepare, ← isSecond]
  refine (finishes_writeCheckpoint prepareFits).bind ?_
  dsimp only
  refine .bind (finishes_askKernel (by exact refuses)) ?_
  rw [if_pos rfl]
  exact (finishes_writeCheckpoint secondFits).bind .done

theorem finishes_installGeneration_accepted
    (isSecond : second = installCheckpoint selected
      ((knownGoodGeneration metadata.sector).getD selected) generation transactionCommit
      failureNone generation) {verified staged activated : κ}
    (verifies : kernelServes world.kernel .verify generation true verified)
    (stages : kernelServes verified .stage generation true staged)
    (activates : kernelServes staged .activate generation true activated) :
    Dialogue.Finishes (ManagerServes mayFail kernelServes) (installGeneration generation) world
      (.ok ())
      ⟨(world.disk.writeSector metadata.sectorNumber
            (checkpointSector metadata.sector prepare)).writeSector metadata.sectorNumber
          (checkpointSector (checkpointSector metadata.sector prepare) second), activated⟩ := by
  refine (finishes_loadGenerationMetadata inSync).bind ?_
  dsimp only
  rw [if_neg (by simp [contains]), isSelected]
  dsimp only
  rw [← isPrepare, ← isSecond]
  refine (finishes_writeCheckpoint prepareFits).bind ?_
  dsimp only
  refine .bind (finishes_askKernel (by exact verifies)) ?_
  rw [if_neg (by simp)]
  refine .bind (finishes_askKernel (by exact stages)) ?_
  rw [if_neg (by simp)]
  refine (finishes_writeCheckpoint secondFits).bind ?_
  dsimp only
  refine .bind (finishes_askKernel (by exact activates)) ?_
  rw [if_pos rfl]
  exact .done

end

theorem finishes_serveMessages_singleton {message : Bytes} {command : ManagerCommand}
    {last : ManagerWorld κ} (short : message.length ≤ commandBufferLen)
    (parsed : ManagerCommand.parse message = some command) {result : CommandEnd}
    (finishes : Dialogue.Finishes (ManagerServes mayFail kernelServes) command.program world result
      last) :
    Dialogue.Finishes (ManagerServes mayFail kernelServes) (serveMessages [message]) world ()
      last := by
  unfold serveMessages
  rw [if_neg (by omega), parsed]
  exact finishes.bind .done

theorem keeps_writeCheckpoint (now : Invariant world) {checkpoint : Checkpoint}
    (kept : checkpoint.Fits → Invariant { world with
      disk := world.disk.writeSector metadata.sectorNumber
        (checkpointSector metadata.sector checkpoint) }) :
    (metadata.writeCheckpoint checkpoint).Keeps (ManagerServes mayFail kernelServes) Invariant
      (fun result after => ∀ new, result = some new → checkpoint.Fits ∧
        new = { metadata with sector := checkpointSector metadata.sector checkpoint } ∧
        after = { world with
          disk := world.disk.writeSector metadata.sectorNumber
            (checkpointSector metadata.sector checkpoint) }) world := by
  unfold GenerationMetadata.writeCheckpoint
  split
  · rename_i fits
    refine .request_bind now ?_
    rintro answer after (⟨rfl, -⟩ | ⟨-, rfl, rfl⟩)
    · cases answer with
      | true =>
        refine .pure (kept fits) ?_
        rintro new ⟨⟩
        exact ⟨fits, rfl, rfl⟩
      | false => exact .pure (kept fits) nofun
    · exact .pure now nofun
  · exact .pure now nofun

end Surroundings

end VertexOS
