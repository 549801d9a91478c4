import VertexOS.VfsResolution

/-!
# The scans that keep paths below a mount root

A path is scanned name by name, once for root paths and once for the paths of a
user.  Both scans accept what the splitting at separators says.
-/

namespace VertexOS.PathScans

open ByteStrings

/-- Scan the names that are left, for as many of them as there are steps. -/
def namesValid : Nat → Bytes → Bool
  | 0, _ => true
  | steps + 1, rest =>
    if rest = [] then true
    else
      let name := rest.takeWhile (· ≠ slash)
      if validPathComponent name then namesValid steps (rest.drop (name.length + 1)) else false

def validVfsRootPath (path : Bytes) : Bool :=
  if path = [] ∨ path.head? ≠ some slash ∨ (1 < path.length ∧ path.getLast? = some slash) then false
  else if path = [slash] then true
  else namesValid path.length (path.drop 1)

def validateVfsAbsolutePath (path : Bytes) : Except IpcError Unit :=
  if path.length < 2 ∨ path.head? ≠ some slash ∨ path.getLast? = some slash then .error .vfsBadPath
  else if namesValid path.length (path.drop 1) then .ok ()
  else .error .vfsBadPath

def fromRootPath (path : Bytes) : Except IpcError VfsPath :=
  if fits : path.length ≤ maxVfsPathBytes then
    if validVfsRootPath path then .ok ⟨path, fits⟩ else .error .vfsBadPath
  else .error .vfsBadPath

def resolveVfsPathUnderRoot (root : VfsPath) (path : Bytes) : Except IpcError VfsPath :=
  if path = [slash] then .ok root
  else
    match validateVfsAbsolutePath path with
    | .error error => .error error
    | .ok () =>
      if root.bytes = [slash] then fromRootPath path
      else if fits : (root.bytes ++ path).length ≤ maxVfsPathBytes then
        .ok ⟨root.bytes ++ path, fits⟩
      else .error .vfsBadPath

def currentProcessMountRoot (runtime : RuntimeState) : Except IpcError VfsPath :=
  runtime.processes.currentProcess.elim (.error .vfsPermission) fun process => .ok process.mountRoot

def resolveProcessVfsPath (runtime : RuntimeState) (path : Bytes) : Except IpcError VfsPath :=
  if path = [slash] then currentProcessMountRoot runtime
  else
    match validateVfsAbsolutePath path with
    | .error error => .error error
    | .ok () =>
      match currentProcessMountRoot runtime with
      | .error error => .error error
      | .ok root =>
        if root.bytes = [slash] then fromRootPath path
        else if fits : (root.bytes ++ path).length ≤ maxVfsPathBytes then
          .ok ⟨root.bytes ++ path, fits⟩
        else .error .vfsBadPath

theorem name_cases {rest : Bytes} (ends : rest.getLast? ≠ some slash) :
    slash ∉ rest ∨ ∃ name tail, slash ∉ name ∧ rest = name ++ slash :: tail ∧ tail ≠ [] ∧
      tail.getLast? ≠ some slash := by
  by_cases inside : slash ∈ rest
  · obtain ⟨name, tail, rfl, notIn⟩ := List.eq_append_cons_of_mem inside
    refine .inr ⟨name, tail, notIn, rfl, ?_⟩
    cases tail with
    | nil => simp at ends
    | cons byte more => simpa using ends
  · exact .inl inside

theorem no_separator {name : Bytes} (notIn : slash ∉ name) :
    ∀ byte ∈ name, decide (byte ≠ slash) = true := by
  intro byte inside
  exact decide_eq_true fun same => notIn (same ▸ inside)

theorem takeWhile_name {name : Bytes} (notIn : slash ∉ name) (tail : Bytes) :
    (name ++ slash :: tail).takeWhile (· ≠ slash) = name := by
  rw [List.takeWhile_append_of_pos (no_separator notIn)]
  simp

theorem namesValid_eq {steps : Nat} {rest : Bytes} (nonempty : rest ≠ [])
    (ends : rest.getLast? ≠ some slash) (enough : rest.length ≤ steps) :
    namesValid steps rest = (rest.splitOn slash).all validPathComponent := by
  induction steps generalizing rest with
  | zero => exact absurd (List.eq_nil_of_length_eq_zero (by omega)) nonempty
  | succ steps ih =>
    rw [namesValid, if_neg nonempty]
    rcases name_cases ends with oneName | ⟨name, tail, notIn, rfl, more, tailEnds⟩
    · have whole : rest.takeWhile (· ≠ slash) = rest :=
        List.takeWhile_eq_self_iff.mpr (no_separator oneName)
      rw [List.splitOn_eq_singleton oneName]
      simp only [whole, List.all_cons, List.all_nil]
      cases steps <;> simp [namesValid]
    · have rest_tail : (name ++ slash :: tail).drop (name.length + 1) = tail := by
        rw [List.drop_length_add_append]
        rfl
      have left : tail.length ≤ steps := by
        simp only [List.length_append, List.length_cons] at enough
        omega
      rw [List.splitOn_append_cons_self_of_not_mem notIn]
      simp only [takeWhile_name notIn, rest_tail, ih more tailEnds left, List.all_cons]
      cases validPathComponent name <;> rfl

theorem namesValid_path {path : Bytes} (long : 2 ≤ path.length)
    (ends : path.getLast? ≠ some slash) :
    namesValid path.length (path.drop 1) =
      ((path.drop 1).splitOn slash).all validPathComponent := by
  obtain ⟨first, second, more, rfl⟩ : ∃ first second more, path = first :: second :: more := by
    match path, long with
    | first :: second :: more, _ => exact ⟨first, second, more, rfl⟩
  exact namesValid_eq (by simp) (by simpa using ends) (by simp)

variable (path : Bytes)

theorem validVfsRootPath_eq : validVfsRootPath path = VertexOS.validVfsRootPath path := by
  unfold validVfsRootPath VertexOS.validVfsRootPath
  by_cases bad : path.head? ≠ some slash ∨ (1 < path.length ∧ path.getLast? = some slash)
  · rw [if_pos (.inr bad), if_pos bad]
  · have nonempty : path ≠ [] := fun empty => bad (.inl (by simp [empty]))
    rw [if_neg (fun h => h.elim nonempty bad), if_neg bad]
    by_cases root : path = [slash]
    · rw [if_pos root, if_pos root]
    · have long : 2 ≤ path.length := by
        match path, nonempty with
        | [byte], _ => exact absurd (by simpa using bad) root
        | _ :: _ :: _, _ => simp
      rw [if_neg root, if_neg root, namesValid_path long fun ends => bad (.inr ⟨long, ends⟩)]

theorem validateVfsAbsolutePath_eq :
    validateVfsAbsolutePath path = VertexOS.validateVfsAbsolutePath path := by
  unfold validateVfsAbsolutePath VertexOS.validateVfsAbsolutePath
  by_cases bad : path.length < 2 ∨ path.head? ≠ some slash ∨ path.getLast? = some slash
  · rw [if_pos bad, if_neg]
    rintro ⟨long, valid⟩
    unfold VertexOS.validVfsRootPath at valid
    rw [if_pos] at valid
    · cases valid
    · rcases bad with short | start | ends
      · omega
      · exact .inl start
      · exact .inr ⟨long, ends⟩
  · obtain ⟨long, start, ends⟩ := by simpa only [not_or, Nat.not_lt] using bad
    have notRoot : path ≠ [slash] := fun root => by simp [root] at long
    have same : VertexOS.validVfsRootPath path =
        ((path.drop 1).splitOn slash).all validPathComponent := by
      unfold VertexOS.validVfsRootPath
      rw [if_neg (fun h => h.elim start fun h => ends h.2), if_neg notRoot]
    rw [if_neg bad, namesValid_path long ends, ← same]
    simp [long]

theorem fromRootPath_eq : fromRootPath path = VfsPath.fromRootPath path := by
  unfold fromRootPath VfsPath.fromRootPath
  rw [validVfsRootPath_eq]
  by_cases fits : path.length ≤ maxVfsPathBytes <;>
    by_cases valid : VertexOS.validVfsRootPath path = true <;> simp [fits, valid]

theorem resolveVfsPathUnderRoot_eq (root : VfsPath) (path : Bytes) :
    resolveVfsPathUnderRoot root path = VertexOS.resolveVfsPathUnderRoot root path := by
  unfold resolveVfsPathUnderRoot VertexOS.resolveVfsPathUnderRoot
  rw [validateVfsAbsolutePath_eq, fromRootPath_eq]
  split
  · rfl
  · cases VertexOS.validateVfsAbsolutePath path <;> rfl

theorem resolveProcessVfsPath_of_current {runtime : RuntimeState} {process : Process}
    (current : runtime.processes.currentProcess = some process) (path : Bytes) :
    resolveProcessVfsPath runtime path = resolveVfsPathUnderRoot process.mountRoot path := by
  unfold resolveProcessVfsPath resolveVfsPathUnderRoot currentProcessMountRoot
  rw [current]
  rfl

theorem resolveProcessVfsPath_eq (runtime : RuntimeState) (path : Bytes) :
    resolveProcessVfsPath runtime path = runtime.resolveProcessVfsPath path := by
  unfold RuntimeState.resolveProcessVfsPath
  cases current : runtime.processes.currentProcess with
  | some process =>
    rw [resolveProcessVfsPath_of_current current, resolveVfsPathUnderRoot_eq]
    unfold VertexOS.resolveVfsPathUnderRoot
    by_cases root : path = [slash]
    · simp [root]
    · rw [if_neg root, if_pos root]
      cases VertexOS.validateVfsAbsolutePath path with
      | error error => rfl
      | ok => exact (if_neg root).symm
  | none =>
    unfold resolveProcessVfsPath currentProcessMountRoot
    rw [current, validateVfsAbsolutePath_eq]
    by_cases root : path = [slash]
    · simp [root]
    · rw [if_neg root, if_pos root]
      cases VertexOS.validateVfsAbsolutePath path <;> rfl

def pathNames (path : Bytes) : List Bytes :=
  if path = [slash] then [] else (path.drop 1).splitOn slash

theorem intercalate_append {front back : List Bytes} (someFront : front ≠ [])
    (someBack : back ≠ []) :
    [slash].intercalate (front ++ back) =
      [slash].intercalate front ++ slash :: [slash].intercalate back := by
  induction front with
  | nil => exact absurd rfl someFront
  | cons name rest ih =>
    rw [List.cons_append, List.intercalate_cons_of_ne_nil (by simp [someBack])]
    by_cases last : rest = []
    · simp [last]
    · rw [ih last, List.intercalate_cons_of_ne_nil last]
      simp

theorem vfsAuthorityPathCovers_iff_names (root path : Bytes) :
    vfsAuthorityPathCovers (slash :: root) (slash :: path) = true ↔
      pathNames (slash :: root) <+: pathNames (slash :: path) := by
  by_cases top : root = []
  · simp [top, vfsAuthorityPathCovers, pathNames]
  rw [vfsAuthorityPathCovers_iff_append (by simp [top])]
  have rootNames : pathNames (slash :: root) = root.splitOn slash := by simp [pathNames, top]
  by_cases pathTop : path = []
  · simp [pathTop, pathNames, List.splitOn_ne_nil, top, Ne.symm top]
  have names : pathNames (slash :: path) = path.splitOn slash := by simp [pathNames, pathTop]
  rw [rootNames, names]
  constructor
  · rintro (same | ⟨rest, joined⟩)
    · rw [List.cons.inj same |>.2]
    · rw [(List.cons.inj joined).2]
      exact ⟨_, (List.splitOn_append_cons_self root rest).symm⟩
  · rintro ⟨more, split⟩
    have whole : [slash].intercalate (root.splitOn slash ++ more) = path := by
      rw [split, List.intercalate_splitOn]
    by_cases last : more = []
    · rw [last, List.append_nil, List.intercalate_splitOn] at whole
      exact .inl (by rw [whole])
    · rw [intercalate_append (List.splitOn_ne_nil _ _) last, List.intercalate_splitOn] at whole
      exact .inr ⟨_, by rw [← whole, List.cons_append]⟩

theorem valid_iff {path : Bytes} :
    VertexOS.validVfsRootPath path = true ↔
      (∃ rest, path = slash :: rest) ∧ (path ≠ [slash] → path.getLast? ≠ some slash) ∧
        ∀ name ∈ pathNames path, validPathComponent name = true := by
  unfold VertexOS.validVfsRootPath pathNames
  cases path with
  | nil => simp
  | cons first rest =>
    by_cases top : first = slash
    · subst top
      by_cases empty : rest = []
      · simp [empty]
      · have long : 0 < rest.length := List.length_pos_iff.mpr empty
        simp [empty, long]
    · simp [top]

theorem valid_append {root path : Bytes} (validRoot : VertexOS.validVfsRootPath root = true)
    (notTop : root ≠ [slash]) (validPath : VertexOS.validVfsRootPath path = true)
    (long : path ≠ [slash]) : VertexOS.validVfsRootPath (root ++ path) = true := by
  obtain ⟨⟨rootRest, rfl⟩, _, rootNames⟩ := valid_iff.mp validRoot
  obtain ⟨⟨pathRest, rfl⟩, pathEnds, pathNames'⟩ := valid_iff.mp validPath
  refine valid_iff.mpr ⟨⟨rootRest ++ slash :: pathRest, rfl⟩, fun _ => ?_, ?_⟩
  · rw [List.getLast?_append_of_ne_nil _ (by simp)]
    exact pathEnds long
  · have joined : pathNames (slash :: rootRest ++ slash :: pathRest) =
        pathNames (slash :: rootRest) ++ pathNames (slash :: pathRest) := by
      simp [pathNames, notTop, long, List.splitOn_append_cons_self]
    intro name inside
    rw [joined] at inside
    exact (List.mem_append.mp inside).elim (rootNames name) (pathNames' name)

def joinPath (parent child : Bytes) : Bytes :=
  if parent = [slash] then slash :: child else parent ++ slash :: child

theorem exists_last_name {path : Bytes} (inside : slash ∈ path) :
    ∃ front child, slash ∉ child ∧ path = front ++ slash :: child := by
  obtain ⟨child, front, backwards, notIn⟩ :=
    List.eq_append_cons_of_mem (List.mem_reverse.mpr inside)
  refine ⟨front.reverse, child.reverse, by simpa using notIn, ?_⟩
  simpa using congrArg List.reverse backwards

theorem rtakeWhile_name {child : Bytes} (notIn : slash ∉ child) (front : Bytes) :
    (front ++ slash :: child).rtakeWhile (· ≠ slash) = child := by
  have backwards : (front ++ slash :: child).reverse = child.reverse ++ slash :: front.reverse := by
    simp
  unfold List.rtakeWhile
  rw [backwards, takeWhile_name (by simpa using notIn), List.reverse_reverse]

theorem splitVfsParentChild_join {path : Bytes} (valid : VertexOS.validVfsRootPath path = true)
    (notTop : path ≠ [slash]) :
    ∃ parent child, splitVfsParentChild path = .ok (parent, child) ∧
      joinPath parent child = path := by
  obtain ⟨⟨rest, starts⟩, _, names⟩ := valid_iff.mp valid
  obtain ⟨front, child, notIn, rfl⟩ : ∃ front child, slash ∉ child ∧ path = front ++ slash :: child :=
    exists_last_name (by simp [starts])
  have long : 2 ≤ (front ++ slash :: child).length := by
    by_contra short
    simp only [List.length_append, List.length_cons, Nat.not_le] at short
    have emptyFront : front = [] := List.eq_nil_of_length_eq_zero (by omega)
    have emptyChild : child = [] := List.eq_nil_of_length_eq_zero (by omega)
    simp [emptyFront, emptyChild] at notTop
  have absolute : VertexOS.validateVfsAbsolutePath (front ++ slash :: child) = .ok () :=
    if_pos ⟨long, valid⟩
  refine ⟨if front = [] then [slash] else front, child, ?_, ?_⟩
  · have place : (front ++ slash :: child).length - child.length - 1 = front.length := by
      simp only [List.length_append, List.length_cons]
      omega
    unfold splitVfsParentChild
    simp only [absolute, rtakeWhile_name notIn, place, List.take_left]
    rfl
  · by_cases top : front = []
    · simp [joinPath, top]
    · -- two separators in a row would enclose an empty name
      have notSlash : front ≠ [slash] := by
        rintro rfl
        have bad : validPathComponent [] = true := names [] (by
          simp [pathNames, List.splitOn_cons_eq_if_modifyHead])
        exact absurd bad (by decide)
      simp [joinPath, top, notSlash]

theorem resolved_valid_covered {root resolved : VfsPath} {path : Bytes}
    (valid : VertexOS.validVfsRootPath root.bytes = true)
    (answer : resolveVfsPathUnderRoot root path = .ok resolved) :
    VertexOS.validVfsRootPath resolved.bytes = true ∧
      vfsAuthorityPathCovers root.bytes resolved.bytes = true := by
  unfold resolveVfsPathUnderRoot at answer
  rw [validateVfsAbsolutePath_eq] at answer
  split at answer
  · obtain rfl := Except.ok.inj answer
    obtain ⟨rest, starts⟩ := (valid_iff.mp valid).1
    refine ⟨valid, ?_⟩
    unfold vfsAuthorityPathCovers
    split <;> simp [starts]
  · rename_i notTop
    split at answer
    · cases answer
    · rename_i absolute
      have validPath : VertexOS.validVfsRootPath path = true := by
        unfold VertexOS.validateVfsAbsolutePath at absolute
        split at absolute
        · rename_i both
          exact both.2
        · cases absolute
      obtain ⟨⟨rest, rfl⟩, _⟩ := valid_iff.mp validPath
      split at answer
      · rename_i top
        unfold fromRootPath at answer
        split at answer
        · rw [validVfsRootPath_eq, if_pos validPath] at answer
          obtain rfl := Except.ok.inj answer
          exact ⟨validPath, by simp [vfsAuthorityPathCovers, top]⟩
        · cases answer
      · rename_i below
        split at answer
        · obtain rfl := Except.ok.inj answer
          exact ⟨valid_append valid below validPath notTop,
            (vfsAuthorityPathCovers_iff_append below).mpr (.inr ⟨rest, rfl⟩)⟩
        · cases answer

/-- What the running process reaches below its mount root: every path that is resolved is a
root path of proper names, covered by the mount root, and is made of its parent and child. -/
theorem resolved_below_mountRoot (runtime : RuntimeState) (process : Process) (path : Bytes)
    (current : runtime.processes.currentProcess = some process)
    (valid : validVfsRootPath process.mountRoot.bytes = true) :
    resolveProcessVfsPath runtime path = resolveVfsPathUnderRoot process.mountRoot path ∧
      ∀ resolved, resolveVfsPathUnderRoot process.mountRoot path = .ok resolved →
        validVfsRootPath resolved.bytes = true ∧
        (∀ name ∈ pathNames resolved.bytes, name ≠ [] ∧ name ≠ utf8 "." ∧ name ≠ utf8 "..") ∧
        vfsAuthorityPathCovers process.mountRoot.bytes resolved.bytes = true ∧
        (resolved.bytes ≠ [slash] → ∃ parent child,
          splitVfsParentChild resolved.bytes = .ok (parent, child) ∧
            joinPath parent child = resolved.bytes) := by
  refine ⟨resolveProcessVfsPath_of_current current path, fun resolved answer => ?_⟩
  rw [validVfsRootPath_eq] at valid ⊢
  obtain ⟨validResolved, covered⟩ := resolved_valid_covered valid answer
  refine ⟨validResolved, fun name inside => ?_, covered, splitVfsParentChild_join validResolved⟩
  have proper := (valid_iff.mp validResolved).2.2 name inside
  simp only [validPathComponent, decide_eq_true_eq] at proper
  exact ⟨proper.1, proper.2.2.1, proper.2.2.2.1⟩

def servedKernel : RuntimeState :=
  { RuntimeState.new with
    processes := ⟨[Process.new ⟨2⟩ "client" ⟨2, 0, 0⟩ 0 0 .running .new ⟨utf8 "/srv", by decide⟩],
      some ⟨2⟩, 3⟩ }

theorem resolved_below_mountRoot_served :
    vfsAuthorityPathCovers (utf8 "/srv") (utf8 "/srv/log") = true ∧
      ∃ parent child, splitVfsParentChild (utf8 "/srv/log") = .ok (parent, child) ∧
        joinPath parent child = utf8 "/srv/log" := by
  obtain ⟨_, _, covered, split⟩ := (resolved_below_mountRoot servedKernel _ (utf8 "/log") rfl
    (by decide +kernel)).2 ⟨utf8 "/srv/log", by decide +kernel⟩ (by decide +kernel)
  exact ⟨covered, split (by decide +kernel)⟩

/-- The root of the file system has no parent and no name in it. -/
theorem splitVfsParentChild_top :
    ∃ root : VfsPath, validVfsRootPath root.bytes = true ∧
      resolveVfsPathUnderRoot root [slash] = .ok root ∧
      splitVfsParentChild root.bytes = .error .vfsBadPath :=
  ⟨⟨[slash], by decide⟩, rfl, rfl, rfl⟩

end VertexOS.PathScans
