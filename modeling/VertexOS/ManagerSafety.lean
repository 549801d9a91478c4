import VertexOS.ManagerRuns

/-!
# What the disk selects

Whatever the kernel answers, whichever writes fail and wherever the manager is cut off,
the kernel finds metadata in order at the next boot, and the selected generation is the
one from the start or one that was verified and staged before it was selected.
-/

namespace VertexOS

open ByteStrings ByteImages Dialogues

def IsText (bytes : Bytes) : Prop := ∃ text, utf8 text = bytes

theorem fixedStrAt_ne_none_iff {sector : Image} {offset : Nat} {allowEmpty : Bool} :
    fixedStrAt sector offset allowEmpty ≠ none ↔
      ∃ bytes, readFixedString sector offset allowEmpty = some bytes ∧ IsText bytes := by
  rw [← Option.isSome_iff_ne_none, Option.isSome_iff_exists]
  constructor
  · rintro ⟨text, read⟩
    obtain ⟨bytes, field, decoded⟩ := Option.bind_eq_some_iff.mp read
    exact ⟨bytes, field, text, fromUtf8?_eq_some.mp decoded⟩
  · rintro ⟨bytes, field, text, isText⟩
    exact ⟨text, Option.bind_eq_some_iff.mpr ⟨bytes, field, fromUtf8?_eq_some.mpr isText⟩⟩

/-- The kernel can recover a selection from the sector. -/
structure Recoverable (sector : Image) : Prop where
  previous : fixedStrAt sector metadataPreviousOffset true ≠ none
  knownGood : fixedStrAt sector metadataKnownGoodOffset true ≠ none
  target : fixedStrAt sector metadataTransactionTargetOffset true ≠ none
  known : generationTransactionLabel (readLe 2 sector metadataTransactionStateOffset) ≠ "unknown"

theorem recoverFromMetadata_ne_none_iff {sector : Image} (bootstrap : String) :
    recoverFromMetadata sector bootstrap ≠ none ↔ Recoverable sector := by
  constructor
  · intro recovers
    obtain ⟨recovered, recovery⟩ := Option.ne_none_iff_exists'.mp recovers
    obtain ⟨_, previous, recovery⟩ := Option.bind_eq_some_iff.mp recovery
    obtain ⟨_, knownGood, recovery⟩ := Option.bind_eq_some_iff.mp recovery
    obtain ⟨_, target, recovery⟩ := Option.bind_eq_some_iff.mp recovery
    split at recovery
    · cases recovery
    · rename_i known
      exact ⟨by simp [previous], by simp [knownGood], by simp [target], known⟩
  · rintro ⟨previous, knownGood, target, known⟩
    obtain ⟨_, previous⟩ := Option.ne_none_iff_exists'.mp previous
    obtain ⟨_, knownGood⟩ := Option.ne_none_iff_exists'.mp knownGood
    obtain ⟨_, target⟩ := Option.ne_none_iff_exists'.mp target
    simp [recoverFromMetadata, previous, knownGood, target, known]

variable {disk : VertexDisk}

theorem recoverVertexdiskGenerationSelection_ne_none_iff {bootstrap : String} :
    recoverVertexdiskGenerationSelection (some disk) bootstrap ≠ none ↔
      disk.Accepted ∧ Recoverable disk.metadata := by
  unfold recoverVertexdiskGenerationSelection
  rw [Option.bind_some]
  constructor
  · intro recovers
    obtain ⟨recovered, recovery⟩ := Option.ne_none_iff_exists'.mp recovers
    obtain ⟨metadata, load, recovery⟩ := Option.bind_eq_some_iff.mp recovery
    obtain ⟨accepted, rfl⟩ := VertexDisk.accepted_of_load load
    exact ⟨accepted, (recoverFromMetadata_ne_none_iff bootstrap).mp (by simp [recovery])⟩
  · rintro ⟨accepted, recoverable⟩
    rw [VertexDisk.load_of_accepted accepted]
    exact (recoverFromMetadata_ne_none_iff bootstrap).mpr recoverable

/-- The calls that the kernel answered with OK, the latest first. -/
abbrev Approvals := List (SwitchCall × Bytes)

/-- A kernel that answers anything; what it approved is remembered. -/
def AnyReply (before : Approvals) (call : SwitchCall) (generation : Bytes) (answer : Bool)
    (after : Approvals) : Prop :=
  after = if answer then (call, generation) :: before else before

variable {initial : VertexDisk} {world : ManagerWorld Approvals}

namespace ManagerWorld

def selectedField (disk : VertexDisk) : Option Bytes :=
  readFixedString disk.metadata metadataSelectedOffset false

/-- The generation has an entry, and the kernel verified and staged it. -/
structure Approved (world : ManagerWorld Approvals) (generation : Bytes) : Prop where
  entry : some generation ∈ metadataEntries world.disk.metadata
  verified : (.verify, generation) ∈ world.kernel
  staged : (.stage, generation) ∈ world.kernel ∨ (.stageRollback, generation) ∈ world.kernel

/-- What holds of the disk at any time, `initial` being the disk at the start. -/
structure SelectsVerified (initial : VertexDisk) (world : ManagerWorld Approvals) : Prop where
  recovers : ∀ bootstrap, recoverVertexdiskGenerationSelection (some world.disk) bootstrap ≠ none
  entries : metadataEntries initial.metadata <+: metadataEntries world.disk.metadata
  selected : selectedField world.disk = selectedField initial ∨
    ∃ generation, selectedField world.disk = some generation ∧ world.Approved generation

def Selectable (initial : VertexDisk) (world : ManagerWorld Approvals) (generation : Bytes) : Prop :=
  selectedField initial = some generation ∨ world.Approved generation

/-- The selected generation moreover has a name that the kernel can read. -/
structure Sound (initial : VertexDisk) (world : ManagerWorld Approvals) : Prop where
  accepted : world.disk.Accepted
  recoverable : Recoverable world.disk.metadata
  entries : metadataEntries initial.metadata <+: metadataEntries world.disk.metadata
  selected : ∃ generation, selectedField world.disk = some generation ∧ IsText generation ∧
    Selectable initial world generation

theorem Sound.selectsVerified (sound : Sound initial world) : SelectsVerified initial world where
  recovers _ := recoverVertexdiskGenerationSelection_ne_none_iff.mpr
    ⟨sound.accepted, sound.recoverable⟩
  entries := sound.entries
  selected := by
    obtain ⟨generation, field, -, first | approved⟩ := sound.selected
    · exact .inl (field.trans first.symm)
    · exact .inr ⟨generation, field, approved⟩

theorem Selectable.mono {generation : Bytes} {after : ManagerWorld Approvals}
    (selectable : Selectable initial world generation)
    (entries : metadataEntries world.disk.metadata <+: metadataEntries after.disk.metadata)
    (approvals : world.kernel ⊆ after.kernel) : Selectable initial after generation := by
  refine selectable.imp_right fun approved => ⟨entries.subset approved.entry,
    approvals approved.verified, ?_⟩
  exact approved.staged.imp (@approvals _) (@approvals _)

theorem Sound.approve (sound : Sound initial world) {approvals : Approvals}
    (more : world.kernel ⊆ approvals) : Sound initial { world with kernel := approvals } := by
  obtain ⟨accepted, recoverable, entries, generation, field, isText, selectable⟩ := sound
  exact ⟨accepted, recoverable, entries, generation, field, isText,
    selectable.mono (List.prefix_refl _) more⟩

theorem Sound.writeSector (sound : Sound initial world) {metadata : GenerationMetadata}
    {new : Image} (inSync : InSync world.disk metadata) (rewritten : Rewritten metadata.sector new)
    (entries : metadataEntries metadata.sector <+: metadataEntries new)
    (recoverable : Recoverable new) {generation : Bytes}
    (field : readFixedString new metadataSelectedOffset false = some generation)
    (isText : IsText generation) (selectable : Selectable initial world generation) :
    Sound initial { world with disk := world.disk.writeSector metadata.sectorNumber new } := by
  have written := inSync.writeSector rewritten
  have onDisk : (world.disk.writeSector metadata.sectorNumber new).metadata = new :=
    written.sector.symm
  rw [inSync.sector] at entries
  refine ⟨written.accepted, ?_, ?_, generation, ?_, isText, selectable.mono ?_ fun _ => id⟩
  · rwa [onDisk]
  · rw [onDisk]
    exact sound.entries.trans entries
  · rwa [selectedField, onDisk]
  · rwa [onDisk]

end ManagerWorld

/-- A name that manager and kernel both read back. -/
structure GenerationName (name : Bytes) : Prop where
  nonempty : name ≠ []
  padded : PaddedText name
  isText : IsText name

namespace Checkpoint

/-- All four are names, and the state is one that the kernel knows. -/
structure Writable (checkpoint : Checkpoint) : Prop where
  selected : GenerationName checkpoint.selected
  previous : GenerationName checkpoint.previous
  knownGood : GenerationName checkpoint.knownGood
  target : GenerationName checkpoint.target
  state : checkpoint.transactionState ≤ transactionAbort

variable {checkpoint : Checkpoint}

theorem Writable.readable (writable : checkpoint.Writable) : checkpoint.Readable :=
  ⟨writable.selected.nonempty, writable.selected.padded, writable.previous.padded,
    writable.knownGood.padded, writable.target.padded⟩

theorem Writable.recoverable (writable : checkpoint.Writable) (sector : Image) :
    Recoverable (checkpointSector sector checkpoint) := by
  obtain ⟨-, previous, knownGood, target⟩ := fields_checkpointSector writable.readable
  have state := writable.state
  refine ⟨?_, ?_, ?_, ?_⟩
  · exact fixedStrAt_ne_none_iff.mpr ⟨_, previous, writable.previous.isText⟩
  · exact fixedStrAt_ne_none_iff.mpr ⟨_, knownGood, writable.knownGood.isText⟩
  · exact fixedStrAt_ne_none_iff.mpr ⟨_, target, writable.target.isText⟩
  · rw [transactionState_checkpointSector (state.trans_lt (by decide))]
    have known : ∀ number ≤ transactionAbort, generationTransactionLabel number ≠ "unknown" := by
      decide
    exact known _ state

end Checkpoint

variable {metadata : GenerationMetadata}

namespace ManagerWorld

theorem Sound.writeCheckpoint (sound : Sound initial world) (inSync : InSync world.disk metadata)
    {checkpoint : Checkpoint} (writable : checkpoint.Writable)
    (selectable : Selectable initial world checkpoint.selected) :
    Sound initial { world with
      disk := world.disk.writeSector metadata.sectorNumber
        (checkpointSector metadata.sector checkpoint) } :=
  sound.writeSector inSync (rewritten_checkpointSector writable.readable.fits)
    (by rw [metadataEntries_checkpointSector writable.readable.fits]) (writable.recoverable _)
    (fields_checkpointSector writable.readable).1 writable.selected.isText selectable

theorem Sound.appendGeneration (sound : Sound initial world) (inSync : InSync world.disk metadata)
    {generation : Bytes} (room : metadataCount metadata.sector < maxGenerationEntries)
    (short : generation.length ≤ diskStringLen) :
    Sound initial { world with
      disk := world.disk.writeSector metadata.sectorNumber
        (appendedSector metadata.sector generation) } := by
  have layout := metadataLayout
  obtain ⟨selected, field, isText, selectable⟩ := sound.selected
  obtain ⟨previous, knownGood, target, known⟩ := sound.recoverable
  rw [← inSync.sector] at previous knownGood target known
  have same : ∀ {offset allowEmpty}, metadataSelectedOffset ≤ offset →
      offset + diskStringLen ≤ metadataEntryOffset →
      fixedStrAt (appendedSector metadata.sector generation) offset allowEmpty =
        fixedStrAt metadata.sector offset allowEmpty := by
    intro offset allowEmpty starts upTo
    unfold fixedStrAt
    rw [field_appendedSector short starts upTo]
  have stays : readFixedString (appendedSector metadata.sector generation) metadataSelectedOffset
      false = some selected := by
    rw [field_appendedSector short le_rfl (by omega), inSync.sector]
    exact field
  refine sound.writeSector inSync (rewritten_appendedSector short room) ?_ ?_ stays isText
    selectable
  · rw [metadataEntries_appendedSector short room]
    exact List.prefix_append _ _
  · constructor
    · rwa [same (by omega) (by omega)]
    · rwa [same (by omega) (by omega)]
    · rwa [same (by omega) (by omega)]
    · rwa [transactionState_appendedSector short]

end ManagerWorld

/-- What the manager knows once it has looked at the metadata. -/
structure Knows (initial : VertexDisk) (world : ManagerWorld Approvals)
    (metadata : GenerationMetadata) (selected generation : Bytes) : Prop where
  sound : world.Sound initial
  inSync : InSync world.disk metadata
  selectedName : GenerationName selected
  selectable : world.Selectable initial selected
  generationName : GenerationName generation
  entry : some generation ∈ metadataEntries metadata.sector

/-- The program keeps the world sound, however it ends. -/
abbrev KeepsSound {α : Type} (initial : VertexDisk) (world : ManagerWorld Approvals)
    (program : ManagerProgram α) : Prop :=
  program.Keeps (ManagerServes True AnyReply) (ManagerWorld.Sound initial) (fun _ _ => True) world

section Commands

variable {selected generation : Bytes}

open ManagerWorld

theorem keeps_askKernel (sound : world.Sound initial) (call : SwitchCall) (name : Bytes) :
    (askKernel call name).Keeps (ManagerServes True AnyReply) (Sound initial)
      (fun ok after => after.disk = world.disk ∧ world.kernel ⊆ after.kernel ∧
        (ok = true → (call, name) ∈ after.kernel)) world := by
  refine .request sound ?_
  rintro ok ⟨disk, approvals⟩ ⟨rfl, rfl⟩
  cases ok with
  | true =>
    have more : world.kernel ⊆ (call, name) :: world.kernel := List.subset_cons_self _ _
    exact ⟨sound.approve more, rfl, more, fun _ => List.mem_cons_self⟩
  | false => exact ⟨sound, rfl, fun _ => id, nofun⟩

section

variable (knows : Knows initial world metadata selected generation)
include knows

theorem Knows.ask (call : SwitchCall) (name : Bytes) :
    (askKernel call name).Keeps (ManagerServes True AnyReply) (Sound initial)
      (fun ok after => Knows initial after metadata selected generation ∧
        world.kernel ⊆ after.kernel ∧ (ok = true → (call, name) ∈ after.kernel)) world := by
  refine (keeps_askKernel knows.sound call name).mono ?_
  rintro ok after sound ⟨disk, more, approves⟩
  refine ⟨⟨sound, ?_, knows.selectedName, knows.selectable.mono ?_ more, knows.generationName,
    knows.entry⟩, more, approves⟩
  · rw [disk]
    exact knows.inSync
  · rw [disk]

theorem Knows.checkpoint {checkpoint : Checkpoint} (writable : checkpoint.Writable)
    (selectable : world.Selectable initial checkpoint.selected) :
    (metadata.writeCheckpoint checkpoint).Keeps (ManagerServes True AnyReply) (Sound initial)
      (fun result after => ∀ new, result = some new →
        Knows initial after new selected generation ∧ after.kernel = world.kernel) world := by
  have written := knows.sound.writeCheckpoint knows.inSync writable selectable
  refine (keeps_writeCheckpoint knows.sound fun _ => written).mono ?_
  intro result after sound ends new isNew
  obtain ⟨fits, rfl, rfl⟩ := ends new isNew
  have synced := knows.inSync.writeSector (rewritten_checkpointSector fits)
  refine ⟨⟨sound, synced, knows.selectedName, knows.selectable.mono ?_ fun _ =>
      id, knows.generationName,
    ?_⟩, rfl⟩
  · rw [← synced.sector, ← knows.inSync.sector, metadataEntries_checkpointSector fits]
  · rw [metadataEntries_checkpointSector fits]
    exact knows.entry

theorem Knows.abort {checkpoint : Checkpoint} {reason : AbortReason}
    (writable : checkpoint.Writable) (selectable : world.Selectable initial checkpoint.selected) :
    KeepsSound initial world (metadata.abort checkpoint reason) :=
  (knows.checkpoint writable selectable).bind fun _ _ sound _ => .pure sound trivial

end

theorem generationName_of_readFixedString {sector : Image} {offset : Nat} {name : Bytes}
    (read : readFixedString sector offset false = some name) (isText : IsText name) :
    GenerationName name :=
  ⟨readFixedString_false_ne_nil read, paddedText_of_readFixedString read, isText⟩

theorem generationName_fieldOrSelected {sector : Image} {offset : Nat}
    (field : fixedStrAt sector offset true ≠ none)
    (isSelected : selectedGeneration sector = some selected) (name : GenerationName selected) :
    GenerationName ((fieldOrSelected sector offset).getD selected) := by
  obtain ⟨bytes, read, isText⟩ := fixedStrAt_ne_none_iff.mp field
  unfold fieldOrSelected
  rw [read, Option.bind_eq_bind, Option.bind_some]
  split
  · rw [isSelected]
    exact name
  · rename_i nonempty
    exact ⟨nonempty, paddedText_of_readFixedString read, isText⟩

section Sound

variable (sound : world.Sound initial)
include sound

theorem ManagerWorld.Sound.knows (inSync : InSync world.disk metadata) (isText : IsText generation)
    (contains : containsGeneration metadata.sector generation = true) :
    ∃ selected, selectedGeneration metadata.sector = some selected ∧
      Knows initial world metadata selected generation := by
  obtain ⟨selected, field, selectedText, selectable⟩ := sound.selected
  have entry := containsGeneration_iff.mp contains
  obtain ⟨index, -, read⟩ := List.mem_map.mp entry
  refine ⟨selected, ?_, sound, inSync, generationName_of_readFixedString field selectedText,
    selectable, generationName_of_readFixedString read isText, entry⟩
  unfold selectedGeneration
  rw [inSync.sector, show readFixedString _ _ false = some selected from field]
  rfl

theorem keeps_withMetadata {next : Option GenerationMetadata → ManagerProgram CommandEnd}
    (without : next none = pure (.error .metadataUnavailable))
    (goesOn : ∀ metadata, InSync world.disk metadata →
      KeepsSound initial world (next (some metadata))) :
    KeepsSound initial world (loadGenerationMetadata >>= next) := by
  refine (keeps_loadGenerationMetadata sound).bind ?_
  rintro (_ | metadata) _ sound ⟨rfl, loaded⟩
  · rw [without]
    exact .pure sound trivial
  · exact goesOn metadata (loaded metadata rfl sound.accepted)

theorem keeps_appendGeneration (inSync : InSync world.disk metadata) :
    KeepsSound initial world (metadata.appendGeneration generation) := by
  unfold GenerationMetadata.appendGeneration
  split
  · rename_i fits
    have appended := sound.appendGeneration inSync fits.1 fits.2
    refine .request sound ?_
    rintro answer _ (⟨rfl, -⟩ | ⟨-, rfl, -⟩)
    · exact ⟨appended, trivial⟩
    · exact ⟨sound, trivial⟩
  · exact .pure sound trivial

theorem keeps_registerImportGeneration (generation : Bytes) :
    KeepsSound initial world (registerImportGeneration generation) := by
  refine keeps_withMetadata sound rfl fun metadata inSync => ?_
  dsimp only
  split
  · exact .pure sound trivial
  refine (keeps_askKernel sound .verify generation).bind ?_
  rintro (_ | _) after sound ⟨disk, -, -⟩
  · exact .pure sound trivial
  · rw [← disk] at inSync
    refine (keeps_appendGeneration sound inSync).bind ?_
    rintro (_ | _) _ sound _ <;> exact .pure sound trivial

theorem keeps_installGeneration (isText : IsText generation) :
    KeepsSound initial world (installGeneration generation) := by
  refine keeps_withMetadata sound rfl fun metadata inSync => ?_
  dsimp only
  split
  · exact .pure sound trivial
  rename_i contains
  obtain ⟨selected, isSelected, knows⟩ := sound.knows inSync isText (by simpa using contains)
  have knownGood : GenerationName ((knownGoodGeneration metadata.sector).getD selected) :=
    generationName_fieldOrSelected (inSync.sector ▸ sound.recoverable.knownGood) isSelected
      knows.selectedName
  have writable : ∀ state ≤ transactionAbort, ∀ reason chosen, GenerationName chosen →
      (installCheckpoint selected ((knownGoodGeneration metadata.sector).getD selected) generation
        state reason chosen).Writable :=
    fun state known reason chosen name =>
      ⟨name, knows.selectedName, knownGood, knows.generationName, known⟩
  have aborts := fun reason => writable transactionAbort le_rfl reason _ knows.selectedName
  rw [isSelected]
  refine (knows.checkpoint (writable _ (by decide) _ _ knows.selectedName)
    knows.selectable).bind ?_
  rintro (_ | prepared) _ sound step
  · exact .pure sound trivial
  obtain ⟨knows, -⟩ := step prepared rfl
  refine (knows.ask .verify generation).bind ?_
  rintro (_ | _) _ - ⟨knows, -, verified⟩
  · exact knows.abort (aborts _) knows.selectable
  refine (knows.ask .stage generation).bind ?_
  rintro (_ | _) _ - ⟨knows, more, staged⟩
  · exact knows.abort (aborts _) knows.selectable
  -- Only here is another generation selected, and it has been verified and staged.
  have approved : ManagerWorld.Selectable initial _ generation :=
    .inr ⟨knows.inSync.sector ▸ knows.entry, more (verified rfl), .inl (staged rfl)⟩
  refine (knows.checkpoint (writable _ (by decide) _ _ knows.generationName) approved).bind ?_
  rintro (_ | committed) _ sound step
  · exact .pure sound trivial
  obtain ⟨knows, -⟩ := step committed rfl
  refine (knows.ask .activate generation).bind ?_
  rintro (_ | _) _ sound ⟨knows, -, -⟩
  · exact knows.abort (aborts _) knows.selectable
  · exact .pure sound trivial

theorem keeps_rollbackTo (isText : IsText generation) :
    KeepsSound initial world (rollbackTo generation) := by
  refine keeps_withMetadata sound rfl fun metadata inSync => ?_
  dsimp only
  split
  · exact .pure sound trivial
  rename_i contains
  obtain ⟨selected, isSelected, knows⟩ := sound.knows inSync isText (by simpa using contains)
  have name := knows.generationName
  have aborts : (rollbackAbort selected generation).Writable :=
    ⟨knows.selectedName, name, name, name, le_rfl⟩
  rw [isSelected]
  refine (knows.ask .verify generation).bind ?_
  rintro (_ | _) _ sound ⟨knows, -, verified⟩
  · exact .pure sound trivial
  refine (knows.ask .stageRollback generation).bind ?_
  rintro (_ | _) _ - ⟨knows, more, staged⟩
  · exact knows.abort aborts knows.selectable
  have approved : ManagerWorld.Selectable initial _ generation :=
    .inr ⟨knows.inSync.sector ▸ knows.entry, more (verified rfl), .inr (staged rfl)⟩
  refine (knows.checkpoint ⟨name, knows.selectedName, name, name,
    (by decide : transactionRollback ≤ transactionAbort)⟩ approved).bind ?_
  rintro (_ | written) _ sound step
  · exact .pure sound trivial
  obtain ⟨knows, -⟩ := step written rfl
  refine (knows.ask .rollback generation).bind ?_
  rintro (_ | _) _ sound ⟨knows, -, -⟩
  · exact knows.abort aborts knows.selectable
  · exact .pure sound trivial

theorem keeps_markKnownGood (isText : IsText generation) :
    KeepsSound initial world (markKnownGood generation) := by
  refine keeps_withMetadata sound rfl fun metadata inSync => ?_
  dsimp only
  split
  · exact .pure sound trivial
  rename_i selected isSelected
  split
  · exact .pure sound trivial
  split
  · exact .pure sound trivial
  rename_i contains
  obtain ⟨_, found, knows⟩ := sound.knows inSync isText (by simpa using contains)
  cases isSelected.symm.trans found
  have name := knows.generationName
  have previous : GenerationName ((previousGeneration metadata.sector).getD selected) :=
    generationName_fieldOrSelected (inSync.sector ▸ sound.recoverable.previous) isSelected
      knows.selectedName
  refine (knows.ask .verify generation).bind ?_
  rintro (_ | _) _ sound ⟨knows, -, -⟩
  · exact .pure sound trivial
  refine (knows.checkpoint ⟨knows.selectedName, previous, name, name,
    (by decide : transactionClean ≤ transactionAbort)⟩ knows.selectable).bind ?_
  rintro (_ | written) _ sound step
  · exact .pure sound trivial
  obtain ⟨knows, -⟩ := step written rfl
  refine (knows.ask .markKnownGood generation).bind ?_
  rintro (_ | _) _ sound _ <;> exact .pure sound trivial

theorem keeps_program (command : ManagerCommand) (isText : IsText command.generation) :
    KeepsSound initial world command.program := by
  cases command with
  | registerImport => exact keeps_registerImportGeneration sound _
  | install => exact keeps_installGeneration sound isText
  | rollback => exact keeps_rollbackTo sound isText
  | markKnownGood => exact keeps_markKnownGood sound isText

end Sound

def TextMessages (messages : List Bytes) : Prop :=
  ∀ message ∈ messages, ∀ command, ManagerCommand.parse message = some command →
    IsText command.generation

theorem keeps_serveMessages (messages : List Bytes) (texts : TextMessages messages)
    (sound : world.Sound initial) : KeepsSound initial world (serveMessages messages) := by
  induction messages generalizing world with
  | nil => exact .pure sound trivial
  | cons message rest ih =>
    have others : TextMessages rest := fun other there =>
      texts other (List.mem_cons_of_mem _ there)
    unfold serveMessages
    split
    · exact .pure sound trivial
    split
    · rename_i command parsed
      exact (keeps_program sound command (texts _ List.mem_cons_self _ parsed)).bind
        fun _ _ sound _ => ih others sound
    · split
      · exact .pure sound trivial
      · exact ih others sound

end Commands

/-- The manager runs in surroundings that may fail in any way; it is cut off and started
again any number of times. -/
def ManagedFrom (admits : List Bytes → Prop) (initial : VertexDisk) :
    ManagerWorld Approvals → Prop :=
  Dialogue.Restarts (ManagerServes True AnyReply)
    (fun program => ∃ messages, admits messages ∧ program = serveMessages messages)
    ⟨initial, []⟩

/-- From a disk that selects a generation, and with names that are text, the selection is
always a verified one. -/
theorem selectsVerified_of_managedFrom (initial : VertexDisk) (bootstrap : String)
    (recovers : recoverVertexdiskGenerationSelection (some initial) bootstrap ≠ none)
    (selects : fixedStrAt initial.metadata metadataSelectedOffset false ≠ none)
    (world : ManagerWorld Approvals) (managed : ManagedFrom TextMessages initial world) :
    world.SelectsVerified initial := by
  obtain ⟨accepted, recoverable⟩ := recoverVertexdiskGenerationSelection_ne_none_iff.mp recovers
  obtain ⟨selected, field, isText⟩ := fixedStrAt_ne_none_iff.mp selects
  have starts : ManagerWorld.Sound initial ⟨initial, []⟩ :=
    ⟨accepted, recoverable, List.prefix_refl _, selected, field, isText, .inl field⟩
  have sound : ManagerWorld.Sound initial world := by
    refine managed.keeps starts ?_
    rintro _ before ⟨messages, texts, rfl⟩ sound
    exact keeps_serveMessages messages texts sound
  exact sound.selectsVerified

theorem selectedField_secondCheckpoint {metadata : GenerationMetadata} {first second : Checkpoint}
    (inSync : InSync disk metadata) (firstReadable : first.Readable)
    (secondReadable : second.Readable) :
    ManagerWorld.selectedField ((disk.writeSector metadata.sectorNumber
        (checkpointSector metadata.sector first)).writeSector metadata.sectorNumber
      (checkpointSector (checkpointSector metadata.sector first) second)) =
      some second.selected := by
  have once := inSync.writeSector (rewritten_checkpointSector firstReadable.fits)
  have twice := once.writeSector (rewritten_checkpointSector secondReadable.fits)
  unfold ManagerWorld.selectedField
  rw [← twice.sector]
  exact (fields_checkpointSector secondReadable).1

def refusedCheckpoint (state reason : Nat) : Checkpoint :=
  installCheckpoint (utf8 "gen:2") (utf8 "gen:2") (utf8 "gen:1") state reason (utf8 "gen:2")

theorem readable_refusedCheckpoint (state reason : Nat) :
    (refusedCheckpoint state reason).Readable := by
  have first : PaddedText (utf8 "gen:1") := ⟨by decide, by decide⟩
  have second : PaddedText (utf8 "gen:2") := ⟨by decide, by decide⟩
  exact ⟨(by decide : utf8 "gen:2" ≠ []), second, second, second, first⟩

theorem exists_managedFrom_refused {metadata : GenerationMetadata} (inSync : InSync disk metadata)
    (contains : containsGeneration metadata.sector (utf8 "gen:1") = true)
    (isSelected : selectedGeneration metadata.sector = some (utf8 "gen:2"))
    (knownGood : knownGoodGeneration metadata.sector = some (utf8 "gen:2")) :
    ∃ world, ManagedFrom TextMessages disk world ∧ world.kernel = [] ∧
      ManagerWorld.selectedField world.disk = some (utf8 "gen:2") := by
  have readable := readable_refusedCheckpoint
  let prepare := refusedCheckpoint transactionPrepare failureNone
  let abort := refusedCheckpoint transactionAbort failureVerificationFailed
  let last : VertexDisk := (disk.writeSector metadata.sectorNumber
      (checkpointSector metadata.sector prepare)).writeSector metadata.sectorNumber
    (checkpointSector (checkpointSector metadata.sector prepare) abort)
  have refused : Dialogue.Finishes (ManagerServes True AnyReply) (installGeneration (utf8 "gen:1"))
      ⟨disk, []⟩ (.error .verificationFailed) ⟨last, []⟩ :=
    finishes_installGeneration_refused inSync contains isSelected (by rw [knownGood]; rfl)
      (readable _ _).fits (readable _ _).fits (by rw [knownGood]; rfl) rfl
  have parsed : ManagerCommand.parse (utf8 "install gen:1") = some (.install (utf8 "gen:1")) := by
    decide +kernel
  have served := finishes_serveMessages_singleton (by decide) parsed refused
  refine ⟨⟨last, []⟩, .session .refl ⟨[utf8 "install gen:1"], ?_, rfl⟩ served.reaches, rfl,
    selectedField_secondCheckpoint inSync (readable _ _) (readable _ _)⟩
  intro message isMessage command isParsed
  rw [List.mem_singleton.mp isMessage, parsed] at isParsed
  cases isParsed
  exact ⟨"gen:1", rfl⟩

section

variable {image : Image}

theorem sectorOf_metadata_createdDisk :
    (createdDisk image).metadata = sectorOf (createdDisk image).bytes 1 := by
  unfold VertexDisk.metadata
  rw [metadataSection_createdDisk]

theorem inSync_createdDisk (magic : startsWith image 0 generationMetadataMagic = true)
    (version : readLe 2 image diskVersionOffset = vertexDiskVersion)
    (checksum : metadataChecksumValid image 0 diskSectorSize = true) :
    InSync (createdDisk image) ⟨(createdDisk image).metadata,
      (createdDisk image).metadataSection.1⟩ := by
  refine .of_accepted (accepted_createdDisk magic version checksum) ?_
  rwa [metadataChecksumValid_congr le_rfl fun _ inside => metadata_createdDisk _ inside]

theorem recovers_createdDisk (accepted : (createdDisk image).Accepted) {bootstrap : String}
    (recovers : recoverFromMetadata image bootstrap ≠ none) :
    recoverVertexdiskGenerationSelection (some (createdDisk image)) bootstrap ≠ none := by
  refine recoverVertexdiskGenerationSelection_ne_none_iff.mpr ⟨accepted, ?_⟩
  refine (recoverFromMetadata_ne_none_iff bootstrap).mp ?_
  rwa [recoverFromMetadata_congr fun _ inside => metadata_createdDisk _ inside]

end

def noneSelected : Image :=
  writeMetadataChecksum (clearBytes secondSelected metadataSelectedOffset diskStringLen)

theorem inSync_secondSelected :
    InSync (createdDisk secondSelected)
      ⟨(createdDisk secondSelected).metadata, (createdDisk secondSelected).metadataSection.1⟩ :=
  inSync_createdDisk (by decide +kernel) (by decide +kernel) (by decide +kernel)

theorem inSync_noneSelected :
    InSync (createdDisk noneSelected)
      ⟨(createdDisk noneSelected).metadata, (createdDisk noneSelected).metadataSection.1⟩ :=
  inSync_createdDisk (by decide +kernel) (by decide +kernel) (by decide +kernel)

/-- Where none is selected, the refused installation selects the second generation, which
the kernel never saw. -/
theorem not_selectsVerified_noneSelected :
    recoverVertexdiskGenerationSelection (some (createdDisk noneSelected)) "gen:1" ≠ none ∧
      ∃ world, ManagedFrom TextMessages (createdDisk noneSelected) world ∧
        ¬world.SelectsVerified (createdDisk noneSelected) := by
  refine ⟨recovers_createdDisk inSync_noneSelected.accepted (by decide +kernel), ?_⟩
  obtain ⟨world, managed, nothing, selected⟩ := exists_managedFrom_refused inSync_noneSelected
    (by rw [sectorOf_metadata_createdDisk]; decide +kernel)
    (by rw [sectorOf_metadata_createdDisk]; decide +kernel)
    (by rw [sectorOf_metadata_createdDisk]; decide +kernel)
  have unselected : ManagerWorld.selectedField (createdDisk noneSelected) = none := by
    unfold ManagerWorld.selectedField
    rw [sectorOf_metadata_createdDisk]
    decide +kernel
  refine ⟨world, managed, ?_⟩
  rintro ⟨-, -, same | ⟨generation, -, approved⟩⟩
  · rw [selected, unselected] at same
    cases same
  · have verified := approved.verified
    rw [nothing] at verified
    cases verified

/-- Where the second generation is selected it stays so. -/
theorem selectsVerified_secondSelected :
    ∃ world, ManagedFrom TextMessages (createdDisk secondSelected) world ∧
      ManagerWorld.selectedField world.disk = some (utf8 "gen:2") ∧
      world.SelectsVerified (createdDisk secondSelected) := by
  obtain ⟨world, managed, -, selected⟩ := exists_managedFrom_refused inSync_secondSelected
    (by rw [sectorOf_metadata_createdDisk]; decide +kernel)
    (by rw [sectorOf_metadata_createdDisk]; decide +kernel)
    (by rw [sectorOf_metadata_createdDisk]; decide +kernel)
  refine ⟨world, managed, selected, selectsVerified_of_managedFrom _ "gen:1" ?_ ?_ world managed⟩
  · exact recovers_createdDisk inSync_secondSelected.accepted (by decide +kernel)
  · rw [fixedStrAt_congr fun _ inside => metadata_createdDisk _ inside]
    decide +kernel

end VertexOS
