import VertexOS.OperatorShell

/-!
# Command lines of the operator shell

A line is normalized before it is read: blanks are reduced to single spaces, and the first
word, the verb, is put in lower case.  Words are then found by their number.
-/

namespace VertexOS.OperatorShell

open ByteStrings

def isCommandSpace (byte : UInt8) : Bool :=
  byte = 32 || byte = 9 || byte = 13 || byte = 10

def foldVerb (inVerb : Bool) (byte : UInt8) : UInt8 :=
  if inVerb ∧ 65 ≤ byte ∧ byte ≤ 90 then byte + 32 else byte

@[simp]
theorem foldVerb_false : foldVerb false = id := by
  funext byte
  simp [foldVerb]

def nonempty (parts : List Bytes) : List Bytes := parts.filter (· ≠ [])

/-- The loop behind `wordAt`: skip spaces, then take what comes before the next one. -/
def scanWord (command : Bytes) : Nat → Option Bytes
  | 0 =>
    let line := command.dropWhile (· = 32)
    if line = [] then none else some (line.takeWhile (· ≠ 32))
  | requested + 1 =>
    let line := command.dropWhile (· = 32)
    if line = [] then none else scanWord (line.dropWhile (· ≠ 32)) requested

theorem nonempty_splitOn_takeWhile (line : Bytes) : nonempty (line.splitOn 32) =
    nonempty (line.takeWhile (· ≠ 32) :: (line.dropWhile (· ≠ 32)).splitOn 32) := by
  have inside : ∀ byte ∈ line.takeWhile (· ≠ 32), (byte == 32) = false := by
    intro byte member
    simpa using List.all_eq_true.mp List.all_takeWhile byte member
  have whole := List.takeWhile_append_dropWhile (p := (· ≠ 32)) (l := line)
  cases left : line.dropWhile (· ≠ 32) with
  | nil =>
    rw [left, List.append_nil] at whole
    rw [whole] at inside ⊢
    simp [List.splitOn, List.splitOnP_eq_singleton inside, nonempty, List.filter_cons]
  | cons space rest =>
    have isSpace : space = 32 := by
      have stops := List.head?_dropWhile_not (· ≠ 32) line
      rw [left] at stops
      simpa using stops
    subst isSpace
    rw [left] at whole
    nth_rewrite 1 [← whole]
    rw [List.splitOn, List.splitOnP_append_cons_of_forall_mem inside 32 rfl]
    simp [List.splitOn, List.splitOnP_cons_eq_if_modifyHead, nonempty, List.filter_cons]

theorem nonempty_splitOn_dropWhile (command : Bytes) :
    nonempty (command.splitOn 32) = nonempty ((command.dropWhile (· = 32)).splitOn 32) := by
  induction command with
  | nil => rfl
  | cons byte command ih =>
    by_cases space : byte = 32
    · simpa [List.splitOn, List.splitOnP_cons_eq_if_modifyHead, space, nonempty] using ih
    · simp [space]

theorem wordAt_eq_scanWord (command : Bytes) (requested : Nat) :
    wordAt command requested = scanWord command requested := by
  have words : wordAt command requested = (nonempty (command.splitOn 32))[requested]? := rfl
  rw [words, nonempty_splitOn_dropWhile]
  by_cases empty : command.dropWhile (· = 32) = []
  · cases requested <;> simp [scanWord, empty, nonempty]
  · have first : (command.dropWhile (· = 32)).takeWhile (· ≠ 32) ≠ [] := by
      have stops := List.head?_dropWhile_not (· = 32) command
      cases line : command.dropWhile (· = 32) with
      | nil => exact absurd line empty
      | cons byte rest =>
        rw [line] at stops
        simpa [List.takeWhile_cons] using stops
    rw [nonempty_splitOn_takeWhile, nonempty, List.filter_cons_of_pos (by simpa using first)]
    cases requested with
    | zero => simp [scanWord, empty]
    | succ requested =>
      rw [scanWord, if_neg empty]
      exact wordAt_eq_scanWord _ requested

section

variable (capacity : Nat)

def pushByte (output : Bytes) (byte : UInt8) : Except String Bytes :=
  if output.length < capacity then .ok (output ++ [byte]) else .error "operator command too large"

def normalizeFrom : (input output : Bytes) → (pendingSpace inVerb : Bool) → Except String Bytes
  | [], output, _, _ => .ok output
  | byte :: input, output, pendingSpace, inVerb =>
    if isCommandSpace byte then normalizeFrom input output (pendingSpace || output ≠ []) inVerb
    else do
      let output ← if pendingSpace then pushByte capacity output 32 else .ok output
      let inVerb := inVerb && !pendingSpace
      let output ← pushByte capacity output (foldVerb inVerb byte)
      normalizeFrom input output false inVerb

/-- The command in a buffer of the given size. -/
def normalizeCommand (input : Bytes) : Except String Bytes :=
  normalizeFrom capacity input [] false true

def fitted (output : Bytes) : Except String Bytes :=
  if output.length ≤ capacity then .ok output else .error "operator command too large"

def spaced (parts : List Bytes) : Bytes := (nonempty parts).flatMap (32 :: ·)

/-- What the loop still writes behind an output that has begun. -/
def remainder (input : Bytes) (pendingSpace inVerb : Bool) : Bytes :=
  let parts := input.splitOnP isCommandSpace
  if pendingSpace then spaced parts
  else (parts.headD []).map (foldVerb inVerb) ++ spaced parts.tail

variable {capacity} {output : Bytes}

theorem pushByte_bind (byte : UInt8) (next : Bytes → Except String Bytes) (more : Bytes)
    (continues : (output ++ [byte]).length ≤ capacity →
      next (output ++ [byte]) = fitted capacity (output ++ byte :: more)) :
    (pushByte capacity output byte).bind next = fitted capacity (output ++ byte :: more) := by
  unfold pushByte
  split
  · rename_i room
    exact continues (by simpa using room)
  · rename_i full
    have long : ¬(output ++ byte :: more).length ≤ capacity := by
      simp only [List.length_append, List.length_cons]
      omega
    rw [fitted, if_neg long]
    rfl

theorem normalizeFrom_eq (begun : output ≠ []) (fits : output.length ≤ capacity) (input : Bytes)
    (pendingSpace inVerb : Bool) :
    normalizeFrom capacity input output pendingSpace inVerb =
      fitted capacity (output ++ remainder input pendingSpace inVerb) := by
  induction input generalizing output pendingSpace inVerb with
  | nil => cases pendingSpace <;> simp [normalizeFrom, remainder, fitted, fits, spaced, nonempty]
  | cons byte input ih =>
    obtain ⟨word, parts, split⟩ := List.exists_cons_of_ne_nil
      (List.splitOnP_ne_nil isCommandSpace input)
    by_cases blank : isCommandSpace byte
    · rw [normalizeFrom, if_pos blank, ih begun fits]
      cases pendingSpace <;>
        simp [remainder, List.splitOnP_cons_eq_if_modifyHead, blank, begun, spaced, nonempty]
    · have goesOn : ∀ output : Bytes, ∀ inVerb,
          (pushByte capacity output (foldVerb inVerb byte)).bind
            (normalizeFrom capacity input · false inVerb) =
          fitted capacity (output ++ remainder (byte :: input) false inVerb) := by
        intro output inVerb
        have whole : remainder (byte :: input) false inVerb =
            foldVerb inVerb byte :: remainder input false inVerb := by
          simp [remainder, List.splitOnP_cons_eq_if_modifyHead, blank, split]
        rw [whole]
        apply pushByte_bind
        intro room
        rw [ih (by simp) room]
        simp
      rw [normalizeFrom, if_neg blank]
      cases pendingSpace with
      | false =>
        simp only [Bool.not_false, Bool.and_true]
        exact goesOn output inVerb
      | true =>
        have spacedWhole : remainder (byte :: input) true inVerb =
            32 :: remainder (byte :: input) false (inVerb && false) := by
          simp [remainder, List.splitOnP_cons_eq_if_modifyHead, blank, split, spaced, nonempty]
        rw [spacedWhole]
        apply pushByte_bind
        intro room
        have step := goesOn (output ++ [32]) (inVerb && false)
        rw [← List.append_cons] at step
        exact step

end

/-- The words of a line: its longest parts without a blank. -/
def lineWords (input : Bytes) : List Bytes := nonempty (input.splitOnP isCommandSpace)

def lowerVerb : List Bytes → List Bytes
  | [] => []
  | verb :: rest => verb.map (foldVerb true) :: rest

def joinWords : List Bytes → Bytes
  | [] => []
  | verb :: rest => verb ++ rest.flatMap (32 :: ·)

section

variable {capacity : Nat}

theorem normalizeCommand_eq (input : Bytes) :
    normalizeCommand capacity input =
      fitted capacity (joinWords (lowerVerb (lineWords input))) := by
  unfold normalizeCommand
  induction input with
  | nil => simp [normalizeFrom, fitted, lineWords, nonempty, lowerVerb, joinWords]
  | cons byte input ih =>
    obtain ⟨word, parts, split⟩ := List.exists_cons_of_ne_nil
      (List.splitOnP_ne_nil isCommandSpace input)
    by_cases blank : isCommandSpace byte
    · rw [normalizeFrom, if_pos blank]
      simpa [lineWords, List.splitOnP_cons_eq_if_modifyHead, blank, nonempty] using ih
    · have whole : joinWords (lowerVerb (lineWords (byte :: input))) =
          [] ++ foldVerb true byte :: remainder input false true := by
        simp [lineWords, List.splitOnP_cons_eq_if_modifyHead, blank, split, nonempty, lowerVerb,
          joinWords, remainder, spaced]
      rw [normalizeFrom, if_neg blank, whole]
      apply pushByte_bind
      intro room
      exact normalizeFrom_eq (by simp) room input false true

/-- Words are found again where a space stands between them. -/
theorem nonempty_splitOnP_joinWords {separates : UInt8 → Bool} (space : separates 32)
    {words : List Bytes}
    (free : ∀ word ∈ words, word ≠ [] ∧ ∀ byte ∈ word, separates byte = false) :
    nonempty ((joinWords words).splitOnP separates) = words := by
  cases words with
  | nil => simp [joinWords, nonempty]
  | cons verb rest =>
    induction rest generalizing verb with
    | nil =>
      obtain ⟨filled, inside⟩ := free verb List.mem_cons_self
      simp [joinWords, List.splitOnP_eq_singleton inside, nonempty, filled]
    | cons next rest ih =>
      obtain ⟨filled, inside⟩ := free verb List.mem_cons_self
      have shape : joinWords (verb :: next :: rest) = verb ++ 32 :: joinWords (next :: rest) := by
        simp [joinWords]
      have tail := ih next fun word member => free word (List.mem_cons_of_mem _ member)
      rw [shape, List.splitOnP_append_cons_of_forall_mem inside 32 space]
      simpa [nonempty, filled] using tail

theorem foldVerb_cases (byte : UInt8) :
    foldVerb true byte = byte ∨ 97 ≤ foldVerb true byte ∧ foldVerb true byte ≤ 122 := by
  unfold foldVerb
  grind

theorem lowerVerb_lowerVerb (words : List Bytes) :
    lowerVerb (lowerVerb words) = lowerVerb words := by
  cases words with
  | nil => rfl
  | cons verb rest =>
    have again : foldVerb true ∘ foldVerb true = foldVerb true := by
      funext byte
      rcases foldVerb_cases byte with same | bounds
      · simp [same]
      · rw [Function.comp, foldVerb, if_neg]
        grind
    simp [lowerVerb, again]

theorem not_isCommandSpace_of_mem_splitOnP {input part : Bytes}
    (member : part ∈ input.splitOnP isCommandSpace) :
    ∀ byte ∈ part, isCommandSpace byte = false := by
  induction input generalizing part with
  | nil => simp_all
  | cons first input ih =>
    obtain ⟨word, parts, split⟩ := List.exists_cons_of_ne_nil
      (List.splitOnP_ne_nil isCommandSpace input)
    rw [List.splitOnP_cons_eq_if_modifyHead, split, List.modifyHead_cons] at member
    rw [split] at ih
    grind

theorem lowerVerb_lineWords_free (input : Bytes) : ∀ word ∈ lowerVerb (lineWords input),
    word ≠ [] ∧ ∀ byte ∈ word, isCommandSpace byte = false := by
  have free : ∀ word ∈ lineWords input, word ≠ [] ∧ ∀ byte ∈ word, isCommandSpace byte = false := by
    intro word member
    obtain ⟨inside, filled⟩ := List.mem_filter.mp member
    exact ⟨of_decide_eq_true filled, not_isCommandSpace_of_mem_splitOnP inside⟩
  cases words : lineWords input with
  | nil => simp [lowerVerb]
  | cons verb rest =>
    rw [words, List.forall_mem_cons] at free
    refine List.forall_mem_cons.mpr ⟨⟨by simpa using free.1.1, ?_⟩, free.2⟩
    intro byte member
    obtain ⟨before, inVerb, rfl⟩ := List.mem_map.mp member
    rcases foldVerb_cases before with same | bounds
    · rw [same]
      exact free.1.2 before inVerb
    · unfold isCommandSpace
      grind

/-- A normalized command is normal, and its words are those of the line, with the verb in lower
case. -/
theorem normalizeCommand_spec {input output : Bytes}
    (ok : normalizeCommand capacity input = .ok output) :
    normalizeCommand capacity output = .ok output ∧
      ∀ index, scanWord output index = (lowerVerb (lineWords input))[index]? := by
  have free := lowerVerb_lineWords_free input
  rw [normalizeCommand_eq, fitted] at ok
  split at ok
  · rename_i fits
    cases ok
    constructor
    · rw [normalizeCommand_eq, lineWords, nonempty_splitOnP_joinWords (by decide) free,
        lowerVerb_lowerVerb, fitted, if_pos fits]
    · intro index
      rw [← wordAt_eq_scanWord]
      refine congrArg (·[index]?) (nonempty_splitOnP_joinWords (by decide) fun word member => ?_)
      refine ⟨(free word member).1, fun byte inWord => ?_⟩
      have blankless := (free word member).2 byte inWord
      unfold isCommandSpace at blankless
      grind
  · cases ok

theorem normalizeCommand_status :
    normalizeCommand 16 (utf8 " STATUS\tSvc:A  ") = .ok (utf8 "status Svc:A") ∧
      scanWord (utf8 "status Svc:A") 1 = some (utf8 "Svc:A") := by
  have ok : normalizeCommand 16 (utf8 " STATUS\tSvc:A  ") = .ok (utf8 "status Svc:A") := by
    decide +kernel
  exact ⟨ok, (normalizeCommand_spec ok).2 1⟩

end

end VertexOS.OperatorShell
