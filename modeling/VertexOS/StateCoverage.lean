import VertexOS.BootFileSystem
import VertexOS.HostedGrants
import VertexOS.PathScans

/-!
# Which roots cover a state volume

The host tool, the manifest parser and the kernel at boot each decide from the
text of a root whether it gives access to a state volume.  At run time a root
reaches what its path covers.
-/

namespace VertexOS.StateCoverage

open ByteStrings PathScans VertexIr

def stripPrefix (start text : Bytes) : Option Bytes :=
  if start <+: text then some (text.drop start.length) else none

def firstComponent (rest : Bytes) : Bytes := rest.takeWhile (· ≠ slash)

def stateMountComponent (stateId : String) : Bytes :=
  (stripPrefix (utf8 "state:") (utf8 stateId)).getD (utf8 stateId)

def stateVolumesCoveredByRoot (manifest : GenerationManifest) (root : String) :
    Except String (List StateVolume) :=
  if utf8 root = utf8 "/state" then .ok manifest.stateVolumes
  else
    match stripPrefix (utf8 "/state/") (utf8 root) with
    | none => .ok []
    | some rest =>
      let component := firstComponent rest
      if component = [] then .error ("state VFS root " ++ root ++ " has empty state component")
      else .ok (manifest.stateVolumes.filter fun state => stateMountComponent state.id = component)

inductive ParseError where
  | invalidReference
deriving DecidableEq, Repr

def stringLen : Nat := 64

/-- The check of the parser and of the kernel, which have the component of a volume each in its
own way. -/
def coveredByRootPath {ε : Type} (component : Except ε Bytes) (root : String) : Except ε Bool :=
  if utf8 root = utf8 "/state" then .ok true
  else
    match stripPrefix (utf8 "/state/") (utf8 root) with
    | none => .ok false
    | some rest => component.map fun component => firstComponent rest = component

def parserMountComponent (id : String) : Except ParseError Bytes :=
  match stripPrefix (utf8 "state:") (utf8 id) with
  | none => .error .invalidReference
  | some component =>
    if component = [] ∨ stringLen < component.length ∨ slash ∈ component ∨
        (0 : UInt8) ∈ component then .error .invalidReference
    else .ok component

def stateVolumeCoveredByRootPath (root id : String) : Except ParseError Bool :=
  coveredByRootPath (parserMountComponent id) root

def bootStateVolumeCoveredByRootPath (root id : String) : Except InitError Bool :=
  coveredByRootPath (stateVolumeMountComponent id) root

def valueNodePath (component : Bytes) : Bytes :=
  utf8 "/state/" ++ component ++ slash :: utf8 stateVolumeValueFileName

/-- The root reaches the value of the volume or a directory that contains it. -/
def reaches (root component : Bytes) : Bool :=
  [valueNodePath component, utf8 "/state/" ++ component, utf8 "/state", [slash]].any
    (vfsAuthorityPathCovers root)

theorem splitOn_eq_cons (rest : Bytes) :
    ∃ more, rest.splitOn slash = firstComponent rest :: more := by
  by_cases inside : slash ∈ rest
  · obtain ⟨name, tail, rfl, notIn⟩ := List.eq_append_cons_of_mem inside
    unfold firstComponent
    rw [takeWhile_name notIn, List.splitOn_append_cons_self_of_not_mem notIn]
    exact ⟨_, rfl⟩
  · have whole : rest.takeWhile (· ≠ slash) = rest :=
      List.takeWhile_eq_self_iff.mpr (no_separator inside)
    unfold firstComponent
    rw [whole, List.splitOn_eq_singleton inside]
    exact ⟨_, rfl⟩

theorem stripPrefix_eq_some {start text rest : Bytes} :
    stripPrefix start text = some rest ↔ text = start ++ rest := by
  unfold stripPrefix
  constructor
  · intro stripped
    split at stripped
    · obtain ⟨tail, rfl⟩ := ‹start <+: text›
      simpa using stripped
    · cases stripped
  · rintro rfl
    simp

theorem pathNames_state : pathNames (utf8 "/state") = [utf8 "state"] := by
  decide +kernel

theorem pathNames_below_state (rest : Bytes) :
    pathNames (utf8 "/state/" ++ rest) = utf8 "state" :: rest.splitOn slash := by
  have split : utf8 "/state/" ++ rest = slash :: (utf8 "state" ++ slash :: rest) := rfl
  unfold pathNames
  rw [split, if_neg (by simp), List.drop_one, List.tail_cons,
    List.splitOn_append_cons_self_of_not_mem (by decide +kernel)]

theorem eq_of_pathNames {path : Bytes} {names : List Bytes}
    (split : pathNames (slash :: path) = names) (nonempty : names ≠ []) :
    path = [slash].intercalate names := by
  unfold pathNames at split
  split at split
  · exact absurd split.symm nonempty
  · rw [← split]
    exact (List.intercalate_splitOn slash).symm

/-- What the checks say about a volume, by the names of the root. -/
def calledCovered (component : Bytes) : List Bytes → Bool
  | [] => false
  | [name] => name = utf8 "state"
  | name :: second :: _ => name = utf8 "state" ∧ second = component

theorem eq_of_calledCovered {component path : Bytes}
    (called : calledCovered component (pathNames (slash :: path)) = true) :
    slash :: path = utf8 "/state" ∨ ∃ rest, slash :: path = utf8 "/state/" ++ rest := by
  match split : pathNames (slash :: path), called with
  | [name], called =>
    obtain rfl : name = utf8 "state" := by simpa [calledCovered] using called
    have whole := eq_of_pathNames split (by simp)
    exact .inl (by rw [whole]; decide +kernel)
  | name :: second :: more, called =>
    obtain ⟨rfl, _⟩ : name = utf8 "state" ∧ second = component := by
      simpa [calledCovered] using called
    have whole := eq_of_pathNames split (by simp)
    rw [List.intercalate_cons_of_ne_nil (by simp)] at whole
    exact .inr ⟨_, congrArg (List.cons slash) whole⟩

theorem calledCovered_below (component rest : Bytes) :
    calledCovered component (pathNames (utf8 "/state/" ++ rest)) =
      decide (firstComponent rest = component) := by
  obtain ⟨more, split⟩ := splitOn_eq_cons rest
  rw [pathNames_below_state, split]
  simp [calledCovered]

theorem calledCovered_of_unstripped {component path root : Bytes} (absolute : root = slash :: path)
    (notState : root ≠ utf8 "/state") (none : stripPrefix (utf8 "/state/") root = none) :
    calledCovered component (pathNames root) = false := by
  by_contra called
  rw [absolute] at called
  rcases eq_of_calledCovered (Bool.not_eq_false _ ▸ called) with same | ⟨rest, below⟩
  · exact notState (absolute.trans same)
  · rw [stripPrefix_eq_some.mpr (absolute.trans below)] at none
    cases none

section

variable {root : String} {path component : Bytes} (absolute : utf8 root = slash :: path)

include absolute

theorem coveredByRootPath_eq {ε : Type} :
    coveredByRootPath (.ok component : Except ε Bytes) root =
      .ok (calledCovered component (pathNames (utf8 root))) := by
  unfold coveredByRootPath
  split
  · rename_i state
    rw [state, pathNames_state]
    simp [calledCovered]
  · rename_i notState
    split
    · rename_i none
      rw [calledCovered_of_unstripped absolute notState none]
    · rename_i rest stripped
      rw [stripPrefix_eq_some.mp stripped, calledCovered_below]
      rfl

theorem stateVolumesCoveredByRoot_eq {manifest : GenerationManifest} {state : StateVolume}
    (valid : VertexOS.validVfsRootPath (utf8 root) = true)
    (inside : state ∈ manifest.stateVolumes) (named : stateMountComponent state.id = component) :
    ∃ covered, stateVolumesCoveredByRoot manifest root = .ok covered ∧
      (state ∈ covered ↔ calledCovered component (pathNames (utf8 root)) = true) := by
  unfold stateVolumesCoveredByRoot
  split
  · rename_i isState
    rw [isState, pathNames_state]
    exact ⟨_, rfl, by simp [calledCovered, inside]⟩
  · rename_i notState
    split
    · rename_i none
      rw [calledCovered_of_unstripped absolute notState none]
      exact ⟨_, rfl, by simp⟩
    · rename_i rest stripped
      have below := stripPrefix_eq_some.mp stripped
      obtain ⟨more, split⟩ := splitOn_eq_cons rest
      have proper : validPathComponent (firstComponent rest) = true :=
        (valid_iff.mp valid).2.2 _ (by rw [below, pathNames_below_state, split]; simp)
      have nonempty : firstComponent rest ≠ [] := by
        intro empty
        rw [empty] at proper
        exact absurd proper (by decide)
      rw [if_neg nonempty, below, calledCovered_below]
      exact ⟨_, rfl, by simp [inside, named, eq_comm]⟩

end

theorem components_of_valid {id : String} {component : Bytes}
    (valid : stateVolumeMountComponent id = .ok component) :
    stateMountComponent id = component ∧ parserMountComponent id = .ok component ∧
      slash ∉ component := by
  unfold stateVolumeMountComponent at valid
  simp only [stateVolumePrefix] at valid
  by_cases kind : utf8 "state:" <+: utf8 id
  · simp only [kind, if_true] at valid
    have stripped : stripPrefix (utf8 "state:") (utf8 id) =
        some ((utf8 id).drop (utf8 "state:").length) := if_pos kind
    unfold stateMountComponent parserMountComponent
    rw [stripped]
    by_cases bad : (utf8 id).drop (utf8 "state:").length = [] ∨
        maxVfsNameBytes < ((utf8 id).drop (utf8 "state:").length).length ∨
        slash ∈ (utf8 id).drop (utf8 "state:").length ∨
        (0 : UInt8) ∈ (utf8 id).drop (utf8 "state:").length
    · simp only [bad, if_true] at valid
      cases valid
    · simp only [bad, if_false] at valid
      obtain rfl := Except.ok.inj valid
      exact ⟨rfl, if_neg bad, fun inside => bad (.inr (.inr (.inl inside)))⟩
  · simp only [kind, if_false] at valid
    cases valid

theorem reaches_iff {path component : Bytes} (notIn : slash ∉ component) :
    reaches (slash :: path) component = true ↔
      pathNames (slash :: path) <+: [utf8 "state", component, utf8 stateVolumeValueFileName] := by
  have value : pathNames (valueNodePath component) =
      [utf8 "state", component, utf8 stateVolumeValueFileName] := by
    unfold valueNodePath
    rw [List.append_assoc, pathNames_below_state,
      List.splitOn_append_cons_self_of_not_mem notIn,
      List.splitOn_eq_singleton (by decide +kernel)]
  have directory : pathNames (utf8 "/state/" ++ component) = [utf8 "state", component] := by
    rw [pathNames_below_state, List.splitOn_eq_singleton notIn]
  have covers : ∀ other names, pathNames (slash :: other) = names →
      (vfsAuthorityPathCovers (slash :: path) (slash :: other) = true ↔
        pathNames (slash :: path) <+: names) := by
    rintro other _ rfl
    exact vfsAuthorityPathCovers_iff_names path other
  have coversValue := covers _ _ value
  have coversDirectory := covers _ _ directory
  have coversState := covers _ _ pathNames_state
  have coversTop := covers [] [] rfl
  constructor
  · intro reached
    simp only [reaches, List.any_cons, List.any_nil, Bool.or_false, Bool.or_eq_true] at reached
    rcases reached with value | directory | state | top
    · exact coversValue.mp value
    · exact (coversDirectory.mp directory).trans ⟨[_], rfl⟩
    · exact (coversState.mp state).trans ⟨[_, _], rfl⟩
    · exact (coversTop.mp top).trans (List.nil_prefix)
  · intro below
    simp only [reaches, List.any_cons, Bool.or_eq_true]
    exact .inl (coversValue.mpr below)

/-- By the names of a root, the checks agree with what the root reaches unless the root is the
top, or lies below the directory of the volume and is not the value. -/
theorem calledCovered_eq_iff (names : List Bytes) (component value : Bytes) :
    (calledCovered component names = true ↔ names <+: [utf8 "state", component, value]) ↔
      names ≠ [] ∧ ∀ more, names = utf8 "state" :: component :: more → more = [] ∨ more = [value] := by
  match names with
  | [] => simp [calledCovered]
  | [name] => simp [calledCovered]
  | name :: second :: more =>
    have shorter : more <+: [value] ↔ more = [] ∨ more = [value] := by
      match more with
      | [] => simp
      | [other] => simp
      | other :: another :: rest => simp
    simp [calledCovered, List.cons_prefix_cons, shorter]

/-- The host tool, the parser and the kernel call a volume covered exactly when the root reaches
it, for the roots that are neither the top nor below the directory of the volume without being
its value. -/
theorem coverage_matches_reach_iff (manifest : GenerationManifest) (state : StateVolume)
    (root : String) (component : Bytes) (inside : state ∈ manifest.stateVolumes)
    (validRoot : VertexOS.validVfsRootPath (utf8 root) = true)
    (validId : stateVolumeMountComponent state.id = .ok component) :
    ((∃ covered, stateVolumesCoveredByRoot manifest root = .ok covered ∧
          (state ∈ covered ↔ reaches (utf8 root) component = true)) ∧
        stateVolumeCoveredByRootPath root state.id = .ok (reaches (utf8 root) component) ∧
        bootStateVolumeCoveredByRootPath root state.id = .ok (reaches (utf8 root) component)) ↔
      pathNames (utf8 root) ≠ [] ∧
        ∀ more, pathNames (utf8 root) = utf8 "state" :: component :: more →
          more = [] ∨ more = [utf8 stateVolumeValueFileName] := by
  obtain ⟨⟨path, absolute⟩, _⟩ := valid_iff.mp validRoot
  obtain ⟨host, parser, notIn⟩ := components_of_valid validId
  obtain ⟨covered, answer, listed⟩ := stateVolumesCoveredByRoot_eq absolute validRoot inside host
  have reach : reaches (utf8 root) component = true ↔ pathNames (utf8 root) <+:
      [utf8 "state", component, utf8 stateVolumeValueFileName] := by
    rw [absolute]
    exact reaches_iff notIn
  unfold stateVolumeCoveredByRootPath bootStateVolumeCoveredByRootPath
  rw [← calledCovered_eq_iff, ← reach, parser, validId, coveredByRootPath_eq absolute,
    coveredByRootPath_eq absolute]
  constructor
  · rintro ⟨_, same, _⟩
    rw [Except.ok.inj same]
  · intro agree
    have same := Bool.eq_iff_iff.mpr agree
    exact ⟨⟨covered, answer, listed.trans agree⟩, congrArg _ same, congrArg _ same⟩

def twoVolumes : GenerationManifest := Supervisor.twoOwners "state:a" "state:b"

def volumeA : StateVolume := Supervisor.ownVolume "state:a" "svc:left"

theorem coverage_matches_reach_directory :
    stateVolumeCoveredByRootPath "/state/a" "state:a" =
      .ok (reaches (utf8 "/state/a") (utf8 "a")) := by
  have names : pathNames (utf8 "/state/a") = [utf8 "state", utf8 "a"] := by decide +kernel
  have inside : volumeA ∈ twoVolumes.stateVolumes := List.mem_cons_self
  refine ((coverage_matches_reach_iff twoVolumes volumeA "/state/a" (utf8 "a") inside
    (by decide +kernel) (by decide +kernel)).mpr ?_).2.1
  rw [names]
  exact ⟨by simp, fun more same => .inl (by simpa using same.symm)⟩

/-- The top reaches every volume and is called a cover of none. -/
theorem top_reaches_uncovered :
    reaches (utf8 "/") (utf8 "a") = true ∧ volumeA ∈ twoVolumes.stateVolumes ∧
      (∃ covered, stateVolumesCoveredByRoot twoVolumes "/" = .ok covered ∧ volumeA ∉ covered) ∧
      stateVolumeCoveredByRootPath "/" volumeA.id = .ok false ∧
      bootStateVolumeCoveredByRootPath "/" volumeA.id = .ok false :=
  ⟨by decide +kernel, List.mem_cons_self, ⟨[], rfl, by simp⟩, by decide +kernel,
    by decide +kernel⟩

end VertexOS.StateCoverage
