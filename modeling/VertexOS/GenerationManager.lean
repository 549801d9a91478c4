import VertexOS.Dialogues
import VertexOS.GenerationMetadata
import VertexOS.GenerationRuns

/-!
# The generation manager

The service that activates and rolls back generations.  It is a dialogue with the block driver
and the kernel, and keeps its metadata on disk.
-/

namespace VertexOS

open ByteStrings ByteImages Dialogues

inductive ManagerRequest where
  | readSector (sector : Nat)
  | writeSector (sector : Nat) (bytes : Image)
  | kernel (call : SwitchCall) (generation : Bytes)

/-- A sector or nothing, whether a write was acknowledged, whether the status was OK.  A
switch that succeeds never returns to its caller; it counts as OK. -/
abbrev ManagerRequest.Answer : ManagerRequest → Type
  | readSector _ => Option Image
  | writeSector _ _ => Bool
  | kernel _ _ => Bool

abbrev ManagerProgram := Dialogue ManagerRequest ManagerRequest.Answer

structure GenerationMetadata where
  sector : Image
  sectorNumber : Nat

structure Checkpoint where
  transactionState : Nat
  failureReason : Nat
  selected : Bytes
  previous : Bytes
  knownGood : Bytes
  target : Bytes

def maxGenerationEntries : Nat := (diskSectorSize - metadataEntryOffset) / metadataEntryLen

def entryOffset (index : Nat) : Nat := metadataEntryOffset + index * metadataEntryLen

def entryGeneration (sector : Image) (index : Nat) : Option Bytes :=
  if metadataCount sector ≤ index then none
  else readFixedString sector (entryOffset index) false

def selectedGeneration (sector : Image) : Option Bytes :=
  (readFixedString sector metadataSelectedOffset false).or (entryGeneration sector 0)

/-- The text of a field, or the selected generation where the field is empty. -/
def fieldOrSelected (sector : Image) (offset : Nat) : Option Bytes := do
  let field ← readFixedString sector offset true
  if field = [] then selectedGeneration sector else some field

def previousGeneration (sector : Image) : Option Bytes :=
  fieldOrSelected sector metadataPreviousOffset

def knownGoodGeneration (sector : Image) : Option Bytes :=
  fieldOrSelected sector metadataKnownGoodOffset

def containsGeneration (sector : Image) (generation : Bytes) : Bool :=
  (List.range (metadataCount sector)).any fun index =>
    entryGeneration sector index = some generation

def Checkpoint.Fits (checkpoint : Checkpoint) : Prop :=
  checkpoint.selected ≠ [] ∧ checkpoint.selected.length ≤ diskStringLen ∧
    checkpoint.previous.length ≤ diskStringLen ∧ checkpoint.knownGood.length ≤ diskStringLen ∧
    checkpoint.target.length ≤ diskStringLen

instance (checkpoint : Checkpoint) : Decidable checkpoint.Fits :=
  inferInstanceAs (Decidable (_ ∧ _))

def checkpointSector (sector : Image) (checkpoint : Checkpoint) : Image :=
  let sector := writeFixedString sector metadataSelectedOffset checkpoint.selected
  let sector := writeFixedString sector metadataPreviousOffset checkpoint.previous
  let sector := writeFixedString sector metadataKnownGoodOffset checkpoint.knownGood
  let sector := writeFixedString sector metadataTransactionTargetOffset checkpoint.target
  let sector := writeLe 2 sector metadataTransactionStateOffset checkpoint.transactionState
  let sector := writeLe 2 sector metadataFailureReasonOffset checkpoint.failureReason
  writeMetadataChecksum sector

def appendedSector (sector : Image) (generation : Bytes) : Image :=
  let count := metadataCount sector
  let sector := writeFixedString sector (entryOffset count) generation
  writeMetadataChecksum (writeLe 2 sector metadataCountOffset (count + 1))

/-- What the manager asks of a superblock, which is less than what the kernel does. -/
def validSuperblock (superblock : Image) : Bool :=
  startsWith superblock 0 vertexDiskMagic ∧
    readLe 2 superblock diskVersionOffset = vertexDiskVersion ∧
    readLe 2 superblock diskSectorSizeOffset = diskSectorSize ∧
    metadataChecksumValid superblock 0 diskSectorSize ∧
    readLe 4 superblock diskTotalSectorsOffset ≠ 0 ∧
    SectionInside superblock generationMetadataSection

def validMetadataSector (sector : Image) : Bool :=
  startsWith sector 0 generationMetadataMagic ∧
    readLe 2 sector diskVersionOffset = vertexDiskVersion ∧
    metadataChecksumValid sector 0 diskSectorSize

def askKernel (call : SwitchCall) (generation : Bytes) : ManagerProgram Bool :=
  Dialogue.request (ManagerRequest.kernel call generation)

def readBlockSector (sector : Nat) : ManagerProgram (Option Image) :=
  Dialogue.request (ManagerRequest.readSector sector)

def writeBlockSector (sector : Nat) (bytes : Image) : ManagerProgram Bool :=
  Dialogue.request (ManagerRequest.writeSector sector bytes)

def loadGenerationMetadata : ManagerProgram (Option GenerationMetadata) := do
  match ← readBlockSector 0 with
  | none => return none
  | some superblock =>
    if validSuperblock superblock = false then return none
    else
      let (start, _) := vertexDiskSection superblock generationMetadataSection
      match ← readBlockSector start with
      | none => return none
      | some sector =>
        if validMetadataSector sector = false then return none
        else return some ⟨sector, start⟩

namespace GenerationMetadata

/-- Write a checkpoint.  The manager uses the metadata further only when it was written. -/
def writeCheckpoint (metadata : GenerationMetadata) (checkpoint : Checkpoint) :
    ManagerProgram (Option GenerationMetadata) := do
  if checkpoint.Fits then
    let sector := checkpointSector metadata.sector checkpoint
    if ← writeBlockSector metadata.sectorNumber sector then
      return some { metadata with sector }
    else return none
  else return none

def appendGeneration (metadata : GenerationMetadata) (generation : Bytes) :
    ManagerProgram Bool := do
  if metadataCount metadata.sector < maxGenerationEntries ∧ generation.length ≤ diskStringLen then
    writeBlockSector metadata.sectorNumber (appendedSector metadata.sector generation)
  else return false

end GenerationMetadata

inductive AbortReason where
  | metadataUnavailable
  | unknownGeneration
  | selectedGenerationInvalid
  | notSelected
  | prepareWriteFailed
  | verificationFailed
  | stageFailed
  | commitWriteFailed
  | activationRejected
  | rollbackWriteFailed
  | rollbackRejected
  | metadataWriteFailed
  | kernelRejected
deriving DecidableEq

abbrev CommandEnd := Except AbortReason Unit

def registerImportGeneration (generation : Bytes) : ManagerProgram CommandEnd := do
  match ← loadGenerationMetadata with
  | none => return .error .metadataUnavailable
  | some metadata =>
    if containsGeneration metadata.sector generation then return .ok ()
    else if (← askKernel .verify generation) = false then return .error .verificationFailed
    else if ← metadata.appendGeneration generation then return .ok ()
    else return .error .metadataWriteFailed

/-- Write a last checkpoint, whether it arrives or not, and give the command up. -/
def GenerationMetadata.abort (metadata : GenerationMetadata) (checkpoint : Checkpoint)
    (reason : AbortReason) : ManagerProgram CommandEnd := do
  let _ ← metadata.writeCheckpoint checkpoint
  return .error reason

/-- The checkpoints of an installation differ in the state, the reason and what they select. -/
def installCheckpoint (selected knownGood generation : Bytes) (state reason : Nat)
    (chosen : Bytes) : Checkpoint :=
  ⟨state, reason, chosen, selected, knownGood, generation⟩

def installGeneration (generation : Bytes) : ManagerProgram CommandEnd := do
  match ← loadGenerationMetadata with
  | none => return .error .metadataUnavailable
  | some metadata =>
    if containsGeneration metadata.sector generation = false then
      return .error .unknownGeneration
    else
      match selectedGeneration metadata.sector with
      | none => return .error .selectedGenerationInvalid
      | some selected =>
        let knownGood := (knownGoodGeneration metadata.sector).getD selected
        let checkpoint := installCheckpoint selected knownGood generation
        match ← metadata.writeCheckpoint
          (checkpoint transactionPrepare failureNone selected) with
        | none => return .error .prepareWriteFailed
        | some metadata =>
          if (← askKernel .verify generation) = false then
            metadata.abort (checkpoint transactionAbort failureVerificationFailed selected)
              .verificationFailed
          else if (← askKernel .stage generation) = false then
            metadata.abort (checkpoint transactionAbort failureRuntimeBuildFailed selected)
              .stageFailed
          else
            match ← metadata.writeCheckpoint
              (checkpoint transactionCommit failureNone generation) with
            | none => return .error .commitWriteFailed
            | some metadata =>
              if ← askKernel .activate generation then return .ok ()
              else
                metadata.abort
                  (checkpoint transactionAbort failureRuntimeBuildFailed selected)
                  .activationRejected

def rollbackCheckpoint (selected generation : Bytes) : Checkpoint :=
  ⟨transactionRollback, failureActivationFailed, generation, selected, generation, generation⟩

def rollbackAbort (selected generation : Bytes) : Checkpoint :=
  ⟨transactionAbort, failureRollbackBuildFailed, selected, generation, generation, generation⟩

def rollbackTo (generation : Bytes) : ManagerProgram CommandEnd := do
  match ← loadGenerationMetadata with
  | none => return .error .metadataUnavailable
  | some metadata =>
    if containsGeneration metadata.sector generation = false then
      return .error .unknownGeneration
    else
      match selectedGeneration metadata.sector with
      | none => return .error .selectedGenerationInvalid
      | some selected =>
        if (← askKernel .verify generation) = false then return .error .verificationFailed
        else if (← askKernel .stageRollback generation) = false then
          metadata.abort (rollbackAbort selected generation) .stageFailed
        else
          match ← metadata.writeCheckpoint (rollbackCheckpoint selected generation) with
          | none => return .error .rollbackWriteFailed
          | some metadata =>
            if ← askKernel .rollback generation then return .ok ()
            else metadata.abort (rollbackAbort selected generation) .rollbackRejected

def markKnownGood (generation : Bytes) : ManagerProgram CommandEnd := do
  match ← loadGenerationMetadata with
  | none => return .error .metadataUnavailable
  | some metadata =>
    match selectedGeneration metadata.sector with
    | none => return .error .selectedGenerationInvalid
    | some selected =>
      if selected ≠ generation then return .error .notSelected
      else if containsGeneration metadata.sector generation = false then
        return .error .unknownGeneration
      else if (← askKernel .verify generation) = false then return .error .verificationFailed
      else
        let previous := (previousGeneration metadata.sector).getD selected
        match ← metadata.writeCheckpoint
          ⟨transactionClean, failureNone, selected, previous, generation, generation⟩ with
        | none => return .error .metadataWriteFailed
        | some _ =>
          if ← askKernel .markKnownGood generation then return .ok ()
          else return .error .kernelRejected

inductive ManagerCommand where
  | registerImport (generation : Bytes)
  | install (generation : Bytes)
  | rollback (generation : Bytes)
  | markKnownGood (generation : Bytes)
deriving DecidableEq

namespace ManagerCommand

def generation : ManagerCommand → Bytes
  | registerImport generation => generation
  | install generation => generation
  | rollback generation => generation
  | markKnownGood generation => generation

def program : ManagerCommand → ManagerProgram CommandEnd
  | registerImport generation => registerImportGeneration generation
  | install generation => installGeneration generation
  | rollback generation => rollbackTo generation
  | markKnownGood generation => VertexOS.markKnownGood generation

def parse (message : Bytes) : Option ManagerCommand :=
  ((utf8 "register-import ").isPrefixOf? message).map registerImport <|>
    ((utf8 "install ").isPrefixOf? message).map install <|>
    ((utf8 "rollback ").isPrefixOf? message).map rollback <|>
    ((utf8 "mark-known-good ").isPrefixOf? message).map markKnownGood

end ManagerCommand

def commandBufferLen : Nat := 96

/-- A message that is too long and a request to shut down end the manager; one that it
does not know is passed over. -/
def serveMessages : List Bytes → ManagerProgram Unit
  | [] => return
  | message :: rest => do
    if commandBufferLen < message.length then return
    else
      match ManagerCommand.parse message with
      | some command =>
        let _ ← command.program
        serveMessages rest
      | none =>
        if message = utf8 "shutdown" then return
        else serveMessages rest

end VertexOS
