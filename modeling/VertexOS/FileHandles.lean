import VertexOS.ProcessSyscalls

/-!
# File handles over the life of a process

The number a process has for an open file consists of the slot and of the
generation of the slot, both in one machine word.  The generation of a slot is
raised by every open and lowered by nothing, not even by a restart.
-/

namespace VertexOS.FileHandles

open ByteStrings

variable (process : Process)

/-- The bits of a machine word above those that hold the slot. -/
def generationLimit : Nat := 2 ^ 56

def saturatingAdd (a b : Nat) : Nat := min (a + b) (2 ^ 64 - 1)

def nextGeneration (generation : Nat) : Nat :=
  if saturatingAdd generation 1 = 0 then 1 else saturatingAdd generation 1

def encodeFileHandle (index : Fin maxFileHandles) (generation : Nat) : Nat :=
  (generation <<< 8 % 2 ^ 64) ||| (index + 1)

def freeFileHandle : Option (Fin maxFileHandles) :=
  (List.finRange maxFileHandles).find? fun index => (process.fileHandles index).handle.isNone

def openFileHandle (description : FileDescriptionId) :
    Except IpcError (Nat × Process) :=
  match freeFileHandle process with
  | none => .error .vfsNoSpace
  | some index =>
    let generation := nextGeneration (process.fileHandles index).generation
    .ok (encodeFileHandle index generation,
      process.setFileHandle index ⟨generation, some description⟩)

/-- What happens to the handles of a process.  They are cleared when the process ends, faults,
is killed or is reaped. -/
inductive HandleEvent where
  | opens (description : FileDescriptionId)
  | closes (raw : Nat)
  | clears
  | starts (reload : Option ProcessContext)

def HandleEvent.Ends (raw : Nat) : HandleEvent → Prop
  | .opens _ => False
  | .closes closed => closed = raw
  | .clears => True
  | .starts reload => reload.isSome

def afterEvent : HandleEvent → Process
  | .opens description => ((openFileHandle process description).map Prod.snd).toOption.getD process
  | .closes raw => ((process.closeFileHandle raw).map Prod.snd).toOption.getD process
  | .clears => process.clearFileHandles
  | .starts (some context) => (process.reloaded context).started
  | .starts none => process.started

def afterEvents (events : List HandleEvent) : Process :=
  events.foldl afterEvent process

/-- The event is an open that takes this slot, counted as one. -/
def opensSlot (slot : Fin maxFileHandles) (process : Process) : HandleEvent → Nat
  | .opens _ => if freeFileHandle process = some slot then 1 else 0
  | _ => 0

def opensOf (slot : Fin maxFileHandles) : Process → List HandleEvent → Nat
  | _, [] => 0
  | process, event :: rest =>
    opensSlot slot process event + opensOf slot (afterEvent process event) rest

theorem nextGeneration_le (generation : Nat) : nextGeneration generation ≤ generation + 1 := by
  unfold nextGeneration saturatingAdd
  split <;> omega

theorem nextGeneration_pos (generation : Nat) : 0 < nextGeneration generation := by
  unfold nextGeneration
  split <;> omega

variable {generation : Nat} {slot : Fin maxFileHandles}

theorem nextGeneration_eq (small : nextGeneration generation < generationLimit) :
    nextGeneration generation = generation + 1 := by
  unfold nextGeneration saturatingAdd generationLimit at *
  split at small <;> split <;> omega

theorem encodeFileHandle_eq (index : Fin maxFileHandles) (small : generation < generationLimit) :
    encodeFileHandle index generation = generation * 256 + (index + 1) := by
  have slotSmall : (index : Nat) + 1 < 2 ^ 8 := by
    have := index.isLt
    unfold maxFileHandles at this
    omega
  have fits : generation <<< 8 < 2 ^ 64 := by
    rw [Nat.shiftLeft_eq]
    unfold generationLimit at small
    omega
  unfold encodeFileHandle
  rw [Nat.mod_eq_of_lt fits, ← Nat.shiftLeft_add_eq_or_of_lt slotSmall, Nat.shiftLeft_eq]

variable {process : Process} {description : FileDescriptionId}

theorem fileHandle_of_decode {raw index generation : Nat}
    (decoded : decodeFileHandle raw = .ok (index, generation)) :
    process.fileHandle raw =
      if inside : index < maxFileHandles then
        if (process.fileHandles ⟨index, inside⟩).generation ≠ generation then .error .vfsBadHandle
        else (process.fileHandles ⟨index, inside⟩).handle.elim (.error .vfsBadHandle)
          fun description => .ok (⟨index, inside⟩, description) else .error .vfsBadHandle := by
  unfold Process.fileHandle
  rw [decoded]
  rfl

theorem fileHandle_cases (process : Process) (raw : Nat) :
    (∃ index generation description, 0 < generation ∧ raw = generation * 256 + (Fin.val index + 1) ∧
        process.fileHandles index = ⟨generation, some description⟩ ∧
        process.fileHandle raw = .ok (index, description)) ∨
      process.fileHandle raw = .error .vfsBadHandle := by
  by_cases bad : raw = 0 ∨ raw % 256 = 0 ∨ raw / 256 = 0
  · refine .inr ?_
    unfold Process.fileHandle decodeFileHandle
    simp only [bad, if_true]
    rfl
  · have decoded : decodeFileHandle raw = .ok (raw % 256 - 1, raw / 256) := if_neg bad
    rw [fileHandle_of_decode decoded]
    split
    case isFalse => exact .inr rfl
    case isTrue inside =>
      split
      case isTrue => exact .inr rfl
      case isFalse same =>
        cases handle : (process.fileHandles ⟨raw % 256 - 1, inside⟩).handle with
        | none => exact .inr rfl
        | some description =>
          refine .inl ⟨_, raw / 256, description, by omega, ?_, ?_, rfl⟩
          · change raw = raw / 256 * 256 + (raw % 256 - 1 + 1)
            omega
          · rw [← Decidable.not_not.mp same, ← handle]

theorem fileHandle_eq_ok_iff (process : Process) (raw : Nat) (index : Fin maxFileHandles)
    (description : FileDescriptionId) :
    process.fileHandle raw = .ok (index, description) ↔
      ∃ generation, 0 < generation ∧ raw = generation * 256 + (index + 1) ∧
        process.fileHandles index = ⟨generation, some description⟩ := by
  constructor
  · intro accepted
    rcases fileHandle_cases process raw with ⟨i, generation, d, positive, number, slot, ok⟩ | error
    · rw [accepted] at ok
      cases ok
      exact ⟨generation, positive, number, slot⟩
    · rw [accepted] at error
      cases error
  · rintro ⟨generation, positive, rfl, slot⟩
    have slotSmall := index.isLt
    unfold maxFileHandles at slotSmall
    have slotPart : (generation * 256 + (index + 1)) % 256 = index + 1 := by omega
    have generationPart : (generation * 256 + (index + 1)) / 256 = generation := by omega
    have decoded : decodeFileHandle (generation * 256 + (index + 1)) =
        .ok (index.val, generation) := by
      simp [decodeFileHandle, slotPart, generationPart, positive.ne']
    rw [fileHandle_of_decode decoded, dif_pos index.isLt]
    simp [slot]

theorem openFileHandle_of_free {index : Fin maxFileHandles}
    (free : freeFileHandle process = some index) (description : FileDescriptionId) :
    openFileHandle process description =
      .ok (encodeFileHandle index (nextGeneration (process.fileHandles index).generation),
        process.setFileHandle index
          ⟨nextGeneration (process.fileHandles index).generation, some description⟩) := by
  unfold openFileHandle
  rw [free]

theorem handle_of_free {index : Fin maxFileHandles}
    (free : freeFileHandle process = some index) : (process.fileHandles index).handle = none := by
  have := List.find?_some free
  simpa using this

theorem slot_afterEvent (process : Process) (event : HandleEvent) (slot : Fin maxFileHandles) :
    (∃ description, event = .opens description ∧ freeFileHandle process = some slot ∧
        (afterEvent process event).fileHandles slot =
          ⟨nextGeneration (process.fileHandles slot).generation, some description⟩) ∨
      ((afterEvent process event).fileHandles slot = process.fileHandles slot ∧
        ∀ raw description, event.Ends raw → process.fileHandle raw ≠ .ok (slot, description)) ∨
      ((afterEvent process event).fileHandles slot = ⟨(process.fileHandles slot).generation, none⟩ ∧
        ∀ raw description, process.fileHandle raw = .ok (slot, description) → event.Ends raw) := by
  cases event with
  | opens description =>
    cases free : freeFileHandle process with
    | none =>
      refine .inr (.inl ⟨?_, fun raw description ends => ends.elim⟩)
      simp [afterEvent, openFileHandle, free, Except.map, Except.toOption]
    | some index =>
      by_cases same : index = slot
      · subst same
        refine .inl ⟨description, rfl, rfl, ?_⟩
        simp [afterEvent, openFileHandle_of_free free, Except.map, Except.toOption,
          Process.setFileHandle]
      · refine .inr (.inl ⟨?_, fun raw description ends => ends.elim⟩)
        simp [afterEvent, openFileHandle_of_free free, Except.map, Except.toOption,
          Process.setFileHandle, Function.update_of_ne (Ne.symm same)]
  | closes closed =>
    rcases fileHandle_cases process closed with ⟨index, _, description, _, _, _, accepted⟩ | rejected
    · by_cases same : index = slot
      · subst same
        refine .inr (.inr ⟨?_, fun raw other held => ?_⟩)
        · simp [afterEvent, Process.closeFileHandle, accepted, Except.map, Except.toOption,
            Process.setFileHandle]
        · obtain ⟨generation, _, closedIs, slotIs⟩ :=
            (fileHandle_eq_ok_iff process closed index description).mp accepted
          obtain ⟨generation', _, rawIs, slotIs'⟩ :=
            (fileHandle_eq_ok_iff process raw index other).mp held
          have generations : generation = generation' :=
            congrArg FileHandleSlot.generation (slotIs.symm.trans slotIs')
          exact closedIs.trans (generations ▸ rawIs.symm)
      · refine .inr (.inl ⟨?_, fun raw other ends held => ?_⟩)
        · simp [afterEvent, Process.closeFileHandle, accepted, Except.map, Except.toOption,
            Process.setFileHandle, Function.update_of_ne (Ne.symm same)]
        · cases ends
          rw [accepted] at held
          exact same (congrArg Prod.fst (Except.ok.inj held))
    · refine .inr (.inl ⟨?_, fun raw other ends held => ?_⟩)
      · simp [afterEvent, Process.closeFileHandle, rejected, Except.map, Except.toOption]
      · cases ends
        rw [rejected] at held
        cases held
  | clears => exact .inr (.inr ⟨rfl, fun _ _ _ => trivial⟩)
  | starts reload =>
    cases reload with
    | none => exact .inr (.inl ⟨rfl, fun _ _ ends => absurd ends (by simp [HandleEvent.Ends])⟩)
    | some context => exact .inr (.inr ⟨rfl, fun _ _ _ => rfl⟩)

/-- The opens ahead do not bring the generation of a slot to its limit. -/
def HasRoom (process : Process) (events : List HandleEvent) : Prop :=
  ∀ slot, (process.fileHandles slot).generation + opensOf slot process events < generationLimit

theorem HasRoom.tail {event : HandleEvent} {rest : List HandleEvent}
    (room : HasRoom process (event :: rest)) : HasRoom (afterEvent process event) rest := by
  intro slot
  have before := room slot
  rw [opensOf] at before
  rcases slot_afterEvent process event slot with ⟨d, rfl, free, after⟩ | ⟨after, _⟩ | ⟨after, _⟩
  · have := nextGeneration_le (process.fileHandles slot).generation
    simp only [opensSlot, free, if_true] at before
    rw [after]
    change nextGeneration _ + _ < _
    omega
  · rw [after]
    omega
  · rw [after]
    change (process.fileHandles slot).generation + _ < _
    omega

theorem HasRoom.append {earlier later : List HandleEvent}
    (room : HasRoom process (earlier ++ later)) : HasRoom (afterEvents process earlier) later := by
  induction earlier generalizing process with
  | nil => exact room
  | cons event rest ih => exact ih room.tail

theorem HasRoom.next {rest : List HandleEvent} (room : HasRoom process (.opens description :: rest))
    (free : freeFileHandle process = some slot) :
    nextGeneration (process.fileHandles slot).generation =
        (process.fileHandles slot).generation + 1 ∧
      (process.fileHandles slot).generation + 1 < generationLimit := by
  have bound := room slot
  simp only [opensOf, opensSlot, free, if_true] at bound
  have below : (process.fileHandles slot).generation + 1 < generationLimit := by omega
  exact ⟨nextGeneration_eq (Nat.lt_of_le_of_lt (nextGeneration_le _) below), below⟩

/-- The handle of this slot and generation is gone, and what the slot holds is newer. -/
def Dead (slot : Fin maxFileHandles) (generation : Nat) (process : Process) : Prop :=
  generation ≤ (process.fileHandles slot).generation ∧
    ((process.fileHandles slot).generation = generation → (process.fileHandles slot).handle = none)

theorem dead_afterEvents (events : List HandleEvent) :
    ∀ {process : Process}, HasRoom process events →
      Dead slot generation process → Dead slot generation (afterEvents process events) := by
  induction events with
  | nil => exact fun _ dead => dead
  | cons event rest ih =>
    intro process room dead
    refine ih room.tail ?_
    rcases slot_afterEvent process event slot with
      ⟨d, rfl, free, after⟩ | ⟨after, _⟩ | ⟨after, _⟩
    · -- an open makes the generation larger than that of the dead handle
      obtain ⟨next, _⟩ := room.next free
      have older := dead.1
      unfold Dead
      rw [after]
      exact ⟨by change _ ≤ nextGeneration _; omega,
        fun same => absurd same (by change nextGeneration _ ≠ _; omega)⟩
    · unfold Dead
      rw [after]
      exact dead
    · unfold Dead
      rw [after]
      exact ⟨dead.1, fun _ => rfl⟩

/-- A handle lives until the first event that ends it, and is dead from then on. -/
theorem live_afterEvents (positive : 0 < generation) (events : List HandleEvent) :
    ∀ {process : Process}, HasRoom process events →
      process.fileHandles slot = ⟨generation, some description⟩ →
      ((∃ event ∈ events, event.Ends (generation * 256 + (slot + 1))) ∧
          Dead slot generation (afterEvents process events)) ∨
        ((∀ event ∈ events, ¬event.Ends (generation * 256 + (slot + 1))) ∧
          (afterEvents process events).fileHandles slot = ⟨generation, some description⟩) := by
  induction events with
  | nil => exact fun _ live => .inr ⟨by simp, live⟩
  | cons event rest ih =>
    intro process room live
    have accepted : process.fileHandle (generation * 256 + (slot + 1)) =
        .ok (slot, description) :=
      (fileHandle_eq_ok_iff _ _ _ _).mpr ⟨generation, positive, rfl, live⟩
    rcases slot_afterEvent process event slot with
      ⟨d, _, free, _⟩ | ⟨after, spared⟩ | ⟨after, ended⟩
    · have empty := handle_of_free free
      rw [live] at empty
      cases empty
    · have goesOn : ¬event.Ends (generation * 256 + (slot + 1)) := fun ends =>
        spared _ description ends accepted
      rcases ih room.tail (after.trans live) with ⟨⟨ending, inside, ends⟩, dead⟩ | ⟨none, kept⟩
      · exact .inl ⟨⟨ending, List.mem_cons_of_mem _ inside, ends⟩, dead⟩
      · exact .inr ⟨List.forall_mem_cons.mpr ⟨goesOn, none⟩, kept⟩
    · refine .inl ⟨⟨event, List.mem_cons_self, ended _ description accepted⟩, ?_⟩
      refine dead_afterEvents rest room.tail ?_
      unfold Dead
      rw [after, live]
      exact ⟨Nat.le_refl _, fun _ => rfl⟩

theorem opened_of_live (events : List HandleEvent) :
    ∀ {process : Process}, HasRoom process events →
      (afterEvents process events).fileHandles slot = ⟨generation, some description⟩ →
      process.fileHandles slot = ⟨generation, some description⟩ ∨
        ∃ earlier later after, events = earlier ++ .opens description :: later ∧
          openFileHandle (afterEvents process earlier) description =
            .ok (generation * 256 + (slot + 1), after) := by
  induction events with
  | nil => exact fun _ live => .inl live
  | cons event rest ih =>
    intro process room live
    rcases ih room.tail live with before | ⟨earlier, later, after, rfl, opened⟩
    · rcases slot_afterEvent process event slot with
        ⟨d, rfl, free, after⟩ | ⟨after, _⟩ | ⟨after, _⟩
      · obtain ⟨next, below⟩ := room.next free
        obtain ⟨same, rfl⟩ : nextGeneration (process.fileHandles slot).generation = generation ∧
            d = description := by simpa using after.symm.trans before
        have opened := openFileHandle_of_free free d
        rw [encodeFileHandle_eq slot (next ▸ below), same] at opened
        exact .inr ⟨[], rest, _, rfl, opened⟩
      · exact .inl (after.symm.trans before)
      · cases after.symm.trans before
    · exact .inr ⟨event :: earlier, later, after, rfl, opened⟩

theorem not_accepted_of_dead (dead : Dead slot generation process) :
    process.fileHandle (generation * 256 + (slot + 1)) = .error .vfsBadHandle := by
  have slotSmall := slot.isLt
  unfold maxFileHandles at slotSmall
  rcases fileHandle_cases process (generation * 256 + (slot + 1)) with
    ⟨index, newer, description, _, number, holds, _⟩ | rejected
  · have indexSmall := index.isLt
    unfold maxFileHandles at indexSmall
    obtain rfl : index = slot := Fin.ext (by omega)
    have same : newer = generation := by omega
    have empty := dead.2 (by rw [holds, same])
    rw [holds] at empty
    cases empty
  · exact rejected

/-- Every number that an open returned is accepted for the file it was opened for until
something ends it, and rejected ever after.  A number that was not returned is rejected. -/
theorem file_handles_never_stale (process : Process) (events : List HandleEvent)
    (fresh : ∀ slot, process.fileHandles slot = ⟨0, none⟩)
    (few : ∀ slot, opensOf slot process events < generationLimit) :
    (∀ earlier description later raw after, events = earlier ++ .opens description :: later →
      openFileHandle (afterEvents process earlier) description = .ok (raw, after) →
        ((∀ event ∈ later, ¬event.Ends raw) ∧
            ∃ index, (afterEvents process events).fileHandle raw = .ok (index, description)) ∨
          ((∃ event ∈ later, event.Ends raw) ∧
            (afterEvents process events).fileHandle raw = .error .vfsBadHandle)) ∧
      ∀ raw, (∀ earlier description later after, events = earlier ++ .opens description :: later →
          openFileHandle (afterEvents process earlier) description ≠ .ok (raw, after)) →
        (afterEvents process events).fileHandle raw = .error .vfsBadHandle := by
  have room : HasRoom process events := fun slot => by
    rw [fresh slot]
    simpa using few slot
  constructor
  · rintro earlier description later raw after rfl opened
    have roomThere := room.append
    cases free : freeFileHandle (afterEvents process earlier) with
    | none => simp [openFileHandle, free] at opened
    | some slot =>
      obtain ⟨next, below⟩ := roomThere.next free
      rw [openFileHandle_of_free free, encodeFileHandle_eq slot (next ▸ below)] at opened
      obtain ⟨rfl, rfl⟩ := Prod.mk.inj (Except.ok.inj opened)
      have through : afterEvents process (earlier ++ .opens description :: later) =
          afterEvents (afterEvent (afterEvents process earlier) (.opens description)) later := by
        simp [afterEvents]
      have opensSlot : (afterEvent (afterEvents process earlier) (.opens description)).fileHandles
          slot = ⟨nextGeneration ((afterEvents process earlier).fileHandles slot).generation,
            some description⟩ := by
        simp [afterEvent, openFileHandle_of_free free, Except.map, Except.toOption,
          Process.setFileHandle]
      rw [through]
      rcases live_afterEvents (nextGeneration_pos _) later roomThere.tail opensSlot with
        ⟨ends, dead⟩ | ⟨goesOn, live⟩
      · exact .inr ⟨ends, not_accepted_of_dead dead⟩
      · exact .inl ⟨goesOn, slot,
          (fileHandle_eq_ok_iff _ _ _ _).mpr ⟨_, nextGeneration_pos _, rfl, live⟩⟩
  · intro raw never
    rcases fileHandle_cases (afterEvents process events) raw with
      ⟨slot, generation, description, _, rfl, holds, _⟩ | rejected
    · rcases opened_of_live events room holds with before | ⟨earlier, later, after, split, opened⟩
      · rw [fresh slot] at before
        cases before
      · exact absurd opened (never earlier description later after split)
    · exact rejected

/-- A service that opens a file, is restarted and opens another one in the same slot. -/
def reopeningService : Process :=
  Process.new ⟨2⟩ "client" ⟨2, 0, 0⟩ 0 0 .ready .new ⟨utf8 "/", rootPath_le⟩

theorem file_handles_never_stale_restart :
    (afterEvents reopeningService
      [.opens ⟨1⟩, .starts (some ⟨3, 0, 0⟩), .opens ⟨2⟩]).fileHandle 257 =
        .error .vfsBadHandle := by
  have life := (file_handles_never_stale reopeningService
    [.opens ⟨1⟩, .starts (some ⟨3, 0, 0⟩), .opens ⟨2⟩] (fun _ => rfl)
    (by decide +kernel)).1 [] ⟨1⟩ _ 257 _ rfl rfl
  rcases life with ⟨goesOn, _⟩ | ⟨_, rejected⟩
  · exact absurd rfl (goesOn (.starts (some ⟨3, 0, 0⟩)) (by simp))
  · exact rejected

end VertexOS.FileHandles
