import VertexOS.FailingCalls
import VertexOS.VertexFsImage
import Mathlib.Data.Fintype.Card
import Mathlib.Logic.Relation
import Mathlib.Order.WellFounded

/-!
# The check of VertexFS images by the host tool

The host tool decodes the tables of an image into maps from inode numbers and puts
the path of every file into its report.  The path is found by following the parents,
which nothing bounds.
-/

namespace VertexOS.HostVertexFs

open ByteStrings ByteImages FailingCalls

variable (bytes : Bytes)

structure Inode extends VertexFsInode where
  name : Bytes
deriving DecidableEq

structure DirectoryEntry where
  parent : Nat
  child : Nat
  kind : Nat
  name : Bytes
deriving DecidableEq

structure FileReport where
  path : Bytes
  len : Nat
  checksum : Nat
  firstSector : Nat
  sectorCount : Nat
deriving DecidableEq

structure Report where
  format : VertexFsFormat
  generation : Bytes
  featureFlags : Nat
  directories : Nat
  files : List FileReport
deriving DecidableEq

def label (layout : VertexFsLayout) : String :=
  match layout.format with
  | .v1 => "VertexFS"
  | .v2 => "VertexFS v2"

def imageOf : Image := fun address => bytes.getD address 0

def looksLikeV2 : Bool :=
  vertexFsLayoutV2.superblockMagic <+: bytes ∨ (bytes.drop 16).take 2 = leBytes 2 2

def fixedStringAtLen (image : Image) (offset maxLen : Nat) : Except String Bytes := do
  let text := (readBytes image offset maxLen).takeWhile (· ≠ 0)
  refuseIf (text = []) "VertexFS fixed string is empty"
  refuseIf ((fromUtf8? text).isNone) "VertexFS fixed string is not UTF-8"
  return text

section

variable (layout : VertexFsLayout) (image : Image)

def parseHeader (part : VertexFsSection) (magic : Bytes) (what : String) : Except String Unit := do
  let rejected := label layout ++ " " ++ what ++ " rejected: "
  refuseIf (¬vertexFsMagicMatches image part magic) (rejected ++ "bad magic")
  refuseIf (readLe 2 image (part.address 16) ≠ layout.version ∨ ¬vertexFsChecksumValid image part)
    (rejected ++ "metadata invalid")

def parseSuperblock (length : Nat) : Except String Bytes := do
  let rejected := label layout ++ " superblock rejected: "
  refuseIf (length ≠ vertexFsImageBytes) (label layout ++ " image size is " ++ toString length ++
    "; expected " ++ toString vertexFsImageBytes)
  refuseIf (¬vertexFsMagicMatches image vertexFsSuperblock layout.superblockMagic)
    (rejected ++ "bad magic")
  refuseIf (readLe 2 image 16 ≠ layout.version) (rejected ++ "unsupported version")
  refuseIf (readLe 2 image 18 ≠ vertexFsSectorSize) (rejected ++ "unsupported sector size")
  refuseIf (¬vertexFsChecksumValid image vertexFsSuperblock) (rejected ++ "checksum mismatch")
  refuseIf (readLe 4 image 24 ≠ vertexFsSectors) (rejected ++ "unsupported sector count")
  refuseIf (readLe 4 image 28 ≠ layout.featureFlags) (rejected ++ "unsupported feature flags")
  -- the second format has the name of the volume before the generation
  if layout.format = .v2 then
    let _ ← fixedStringAtLen image 32 64
  refuseIf (¬([layout.inodeTable, layout.directory, layout.freeMap, layout.journal,
      layout.data].zipIdx.all fun (part, index) => layout.sectionMatches image index part))
    (rejected ++ "unsupported section layout")
  fixedStringAtLen image layout.generationOffset 64

def readInode (index : Nat) : Except String Inode := do
  let name ← fixedStringAtLen image (layout.inodeOffset index + 36) vertexFsInodeNameBytes
  return { layout.readInode image index with name }

def inodeWith (inodes : List Inode) (id : Nat) : Option Inode :=
  inodes.find? fun inode => inode.id = id

def addInode (inodes : List Inode) (index : Nat) : Except String (List Inode) := do
  let inode ← readInode layout image index
  refuseIf (inodeWith inodes inode.id).isSome
    (label layout ++ " inode table rejected: duplicate inode id")
  return inodes ++ [inode]

def parseInodeTable : Except String (List Inode) := do
  parseHeader layout image layout.inodeTable layout.inodeMagic "inode table"
  let count := layout.inodeTableCount image
  refuseIf (vertexFsBaseInodeCount + layout.dynamicFileCapacity < count)
    (label layout ++ " inode table rejected: inode count exceeds section")
  let inodes ← (List.range count).foldlM (addInode layout image) []
  let root ← known (inodeWith inodes vertexFsInodeRoot)
    (label layout ++ " inode table rejected: missing root inode")
  refuseIf (root.kind ≠ vertexFsKindDir ∨ root.parent ≠ 0 ∨ root.name ≠ utf8 "/")
    (label layout ++ " inode table rejected: invalid root inode")
  return inodes

def readDirectoryEntry (index : Nat) : Except String DirectoryEntry := do
  let offset := layout.directoryOffset index
  let name ← fixedStringAtLen image (offset + 12) vertexFsDirectoryNameBytes
  return ⟨readLe 4 image offset, readLe 4 image (offset + 4), readLe 2 image (offset + 8), name⟩

def directoryCapacity : Nat :=
  match layout.format with
  | .v1 => layout.directoryDynamicFileCapacity
  | .v2 => layout.dynamicFileCapacity

def parseDirectory : Except String (List DirectoryEntry) := do
  parseHeader layout image layout.directory layout.directoryMagic "directory block"
  let count := layout.directoryCount image
  refuseIf (vertexFsBaseDirectoryCount + directoryCapacity layout < count)
    (label layout ++ " directory block rejected: entry count exceeds section")
  (List.range count).mapM (readDirectoryEntry layout image)

def parseJournal : Except String (Option VertexFsJournalRecord) := do
  let part := layout.journal
  let rejected := label layout ++ " journal rejected: "
  parseHeader layout image part layout.journalMagic "journal"
  let state := readLe 2 image (part.address 18)
  if state = vertexFsJournalStateClean then return none
  refuseIf (state ≠ vertexFsJournalStatePending) (rejected ++ "unsupported state")
  let targetInode := readLe 4 image (part.address 24)
  let payloadLen := readLe 4 image (part.address 28)
  let payloadChecksum := readLe 4 image (part.address 32)
  refuseIf (layout.format = .v2 ∧ (readLe 8 image (part.address 40) = 0 ∨
      readLe 4 image (part.address 48) ≠ targetInode ∨
      readLe 4 image (part.address 52) ≠ payloadLen ∨
      readLe 4 image (part.address 56) ≠ payloadChecksum)) (rejected ++ "replay record mismatch")
  refuseIf (vertexFsSectorSize < vertexFsJournalPayloadOffset + payloadLen)
    (rejected ++ "payload out of bounds")
  let payload := readBytes image (part.address vertexFsJournalPayloadOffset) payloadLen
  refuseIf (vertexFsChecksum32 payload ≠ payloadChecksum) (rejected ++ "payload checksum mismatch")
  return some { targetInode, payload }

def parseFreeMap : Except String (List Bool) := do
  let part := layout.freeMap
  let rejected := label layout ++ " free-space map rejected: "
  parseHeader layout image part layout.freeMapMagic "free-space map"
  refuseIf (readLe 2 image (part.address 18) ≠ vertexFsSectors) (rejected ++ "sector count mismatch")
  let stored := readBytes image (part.address vertexFsFreeMapOffset) vertexFsSectors
  refuseIf (¬stored.all fun byte => byte = 0 ∨ byte = 1) (rejected ++ "invalid allocation byte")
  let map := stored.map fun byte => decide (byte = 1)
  refuseIf (¬(map.take layout.data.firstSector).all id) (rejected ++ "metadata sector marked free")
  return map

end

def verifyEntry (inodes : List Inode) (names : List (Nat × Bytes)) (entry : DirectoryEntry) :
    Except String (List (Nat × Bytes)) := do
  let rejected := "VertexFS directory block rejected: "
  let parent ← known (inodeWith inodes entry.parent) (rejected ++ "missing parent inode")
  refuseIf (parent.kind ≠ vertexFsKindDir) (rejected ++ "parent is not directory")
  let child ← known (inodeWith inodes entry.child) (rejected ++ "missing child inode")
  refuseIf (child.parent ≠ entry.parent ∨ child.name ≠ entry.name ∨ child.kind ≠ entry.kind)
    (rejected ++ "child inode mismatch")
  refuseIf ((entry.parent, entry.name) ∈ names) (rejected ++ "duplicate child name")
  return (entry.parent, entry.name) :: names

def verifyDirectoryGraph (inodes : List Inode) (directory : List DirectoryEntry) :
    Except String Unit := do
  let _ ← directory.foldlM (verifyEntry inodes) []
  refuseIf (¬inodes.all fun inode => inode.id = vertexFsInodeRoot ∨
      directory.any fun entry => entry.child = inode.id)
    "VertexFS directory block rejected: orphan inode"

def verifyJournal (inodes : List Inode) (journal : Option VertexFsJournalRecord) :
    Except String Unit :=
  match journal with
  | none => .ok ()
  | some record => do
    let rejected := "VertexFS journal rejected: "
    let inode ← known (inodeWith inodes record.targetInode) (rejected ++ "missing target inode")
    refuseIf (inode.kind ≠ vertexFsKindFile) (rejected ++ "target is not a file")
    refuseIf (vertexFsSectorSize - vertexFsJournalPayloadOffset < record.payload.length)
      (rejected ++ "payload too large")
    refuseIf (inode.sectorCount * vertexFsSectorSize < record.payload.length)
      (rejected ++ "payload exceeds target extent")

/-- What the tool knows of an image before it looks at the files. -/
structure Tables where
  layout : VertexFsLayout
  image : Image
  generation : Bytes
  inodes : List Inode
  journal : Option VertexFsJournalRecord
  freeMap : List Bool

def layoutOf : VertexFsLayout :=
  if looksLikeV2 bytes then vertexFsLayoutV2 else vertexFsLayoutV1

def parseTables : Except String Tables := do
  let layout := layoutOf bytes
  let image := imageOf bytes
  let generation ← parseSuperblock layout image bytes.length
  let inodes ← parseInodeTable layout image
  let directory ← parseDirectory layout image
  let journal ← parseJournal layout image
  let freeMap ← parseFreeMap layout image
  verifyDirectoryGraph inodes directory
  verifyJournal inodes journal
  return { layout, image, generation, inodes, journal, freeMap }

namespace Tables

variable (tables : Tables)

/-- The sectors of an extent: none of them is used, and all are marked as allocated. -/
def useSector (used : List Nat) (sector : Nat) : Except String (List Nat) := do
  let rejected := label tables.layout ++ " free-space verification rejected "
  refuseIf (sector ∈ used) (rejected ++ "overlapping file extents")
  refuseIf (tables.freeMap[sector]? ≠ some true) (rejected ++ "allocated extent marked free")
  return sector :: used

def replayPayload (inode : Inode) : Option Bytes :=
  (tables.journal.filter fun record => record.targetInode = inode.id).map
    VertexFsJournalRecord.payload

def fileExtentStartsWith (inode : Inode) (payload : Bytes) : Bool :=
  let start := inode.firstSector * vertexFsSectorSize
  start + payload.length ≤ vertexFsImageBytes ∧
    readBytes tables.image start payload.length = payload

/-- What is checked of one inode before its path: the sectors used then, and of a file what
the report says about it. -/
def checkInode (used : List Nat) (inode : Inode) :
    Except String (List Nat × Option Bytes) := do
  let rejected := label tables.layout ++ " inode table rejected: "
  let data := tables.layout.data
  if inode.kind = vertexFsKindDir then do
    refuseIf (inode.size ≠ 0 ∨ inode.firstSector ≠ 0 ∨ inode.sectorCount ≠ 0)
      (rejected ++ "directory has file extent")
    return (used, none)
  else if inode.kind = vertexFsKindFile then do
    refuseIf (inode.sectorCount = 0) (rejected ++ "file has no extent")
    refuseIf (2 ^ 64 ≤ inode.endSector) (rejected ++ "extent overflow")
    refuseIf (inode.firstSector < data.firstSector ∨
      data.firstSector + data.sectorCount < inode.endSector)
      (rejected ++ "file extent outside data section")
    refuseIf (inode.sectorCount * vertexFsSectorSize < inode.size)
      (rejected ++ "file length exceeds extent")
    let used ← (List.range' inode.firstSector inode.sectorCount).foldlM tables.useSector used
    let stored := inode.stored tables.image
    let replay := tables.replayPayload inode
    refuseIf (vertexFsChecksum32 stored ≠ inode.checksum ∧
        ¬replay.any (tables.fileExtentStartsWith inode))
      (rejected ++ "file checksum mismatch")
    return (used, some (replay.getD stored))
  else .error (rejected ++ "unsupported inode kind")

/-- The path of an inode; no answer means that the steps ran out. -/
def inodePath : Nat → Nat → Option (Except String Bytes)
  | 0, _ => none
  | steps + 1, id =>
    match inodeWith tables.inodes id with
    | none => some (.error "VertexFS path lookup rejected: missing inode")
    | some inode =>
      if inode.id = vertexFsInodeRoot then some (.ok (utf8 "/"))
      else (inodePath steps inode.parent).map fun answer => answer.map fun parent =>
        if parent = utf8 "/" then slash :: inode.name else parent ++ slash :: inode.name

def verifyFileExtents (steps : Nat) : List Nat → List Inode →
    Option (Except String (List FileReport))
  | _, [] => some (.ok [])
  | used, inode :: rest =>
    match tables.checkInode used inode with
    | .error message => some (.error message)
    | .ok (used, none) => verifyFileExtents steps used rest
    | .ok (used, some payload) =>
      match tables.inodePath steps inode.id with
      | none => none
      | some (.error message) => some (.error message)
      | some (.ok path) =>
        (verifyFileExtents steps used rest).map fun answer => answer.map fun reports =>
          ⟨path, payload.length, vertexFsChecksum32 payload, inode.firstSector,
            inode.sectorCount⟩ :: reports

def values : List Inode := tables.inodes.insertionSort fun first second => first.id ≤ second.id

def report (files : List FileReport) : Report where
  format := tables.layout.format
  generation := tables.generation
  featureFlags := tables.layout.featureFlags
  directories := tables.inodes.countP fun inode => inode.kind = vertexFsKindDir
  files := files.insertionSort fun first second => first.path ≤ second.path

end Tables

def verify (steps : Nat) (bytes : Bytes) : Option (Except String Report) :=
  match parseTables bytes with
  | .error message => some (.error message)
  | .ok tables =>
    (tables.verifyFileExtents steps [] tables.values).map fun answer => answer.map tables.report

inductive ReachesRoot (inodes : List Inode) : Nat → Prop
  | root {inode : Inode} (found : inodeWith inodes vertexFsInodeRoot = some inode) :
      ReachesRoot inodes vertexFsInodeRoot
  | parent {id : Nat} {inode : Inode} (found : inodeWith inodes id = some inode)
      (above : ReachesRoot inodes inode.parent) : ReachesRoot inodes id

def HasParents (inodes : List Inode) : Prop :=
  ∀ id inode, inodeWith inodes id = some inode → id ≠ vertexFsInodeRoot →
    (inodeWith inodes inode.parent).isSome

/-- The inode `child`, which is not the root, names `parent` as its parent. -/
def IsParent (inodes : List Inode) (child parent : Nat) : Prop :=
  child ≠ vertexFsInodeRoot ∧ ∃ inode, inodeWith inodes child = some inode ∧ inode.parent = parent

/-- The parent links of the inode table have no cycle. -/
def Acyclic (inodes : List Inode) : Prop :=
  ∀ id, ¬Relation.TransGen (IsParent inodes) id id

variable {inodes : List Inode} {inode : Inode} {tables : Tables}

theorem id_of_inodeWith {id : Nat} (found : inodeWith inodes id = some inode) : inode.id = id := by
  simpa using List.find?_some found

theorem inodeWith_of_mem (inside : inode ∈ inodes) : (inodeWith inodes inode.id).isSome := by
  rw [inodeWith, List.find?_isSome]
  exact ⟨inode, inside, by simp⟩

/-- A table is finite, so links without a cycle and without a gap end in the root. -/
theorem Acyclic.reachesRoot (acyclic : Acyclic inodes) (parents : HasParents inodes)
    (inside : inode ∈ inodes) : ReachesRoot inodes inode.id := by
  let above := fun parent child : {inode // inode ∈ inodes} =>
    Relation.TransGen (IsParent inodes) child.1.id parent.1.id
  have : Finite {inode // inode ∈ inodes} := List.finite_toSet inodes
  have : IsTrans _ above := ⟨fun _ _ _ first second => second.trans first⟩
  have : Std.Irrefl above := ⟨fun inode => acyclic inode.1.id⟩
  refine (Finite.wellFounded_of_trans_of_irrefl above).induction
    (C := fun inode => ReachesRoot inodes inode.1.id) ⟨inode, inside⟩ ?_
  rintro ⟨child, inside⟩ ih
  obtain ⟨first, found⟩ := Option.isSome_iff_exists.mp (inodeWith_of_mem inside)
  by_cases isRoot : child.id = vertexFsInodeRoot
  · rw [isRoot] at found ⊢
    exact .root found
  · obtain ⟨parent, isParent⟩ := Option.isSome_iff_exists.mp (parents _ first found isRoot)
    refine .parent found ?_
    rw [← id_of_inodeWith isParent]
    refine ih ⟨parent, List.mem_of_find?_eq_some isParent⟩ (.single ⟨isRoot, first, found, ?_⟩)
    exact (id_of_inodeWith isParent).symm

theorem ReachesRoot.not_cycle {id : Nat} (reaches : ReachesRoot inodes id) :
    ¬Relation.TransGen (IsParent inodes) id id := by
  induction reaches with
  | root =>
    intro cycle
    obtain ⟨_, ⟨notRoot, -⟩, -⟩ := Relation.TransGen.head'_iff.mp cycle
    exact notRoot rfl
  | parent found _ ih =>
    intro cycle
    obtain ⟨_, ⟨notRoot, inode, found', rfl⟩, back⟩ := Relation.TransGen.head'_iff.mp cycle
    cases found.symm.trans found'
    exact ih (.tail' back ⟨notRoot, _, found, rfl⟩)

theorem acyclic_of_reachesRoot (reach : ∀ inode ∈ inodes, ReachesRoot inodes inode.id) :
    Acyclic inodes := by
  intro id cycle
  obtain ⟨_, ⟨-, inode, found, -⟩, -⟩ := Relation.TransGen.head'_iff.mp cycle
  have reaches := reach inode (List.mem_of_find?_eq_some found)
  rw [id_of_inodeWith found] at reaches
  exact reaches.not_cycle cycle

theorem parent_of_verifyEntry {names after : List (Nat × Bytes)}
    {entry : DirectoryEntry} (passed : verifyEntry inodes names entry = .ok after) :
    ∃ child, inodeWith inodes entry.child = some child ∧ (inodeWith inodes child.parent).isSome := by
  unfold verifyEntry at passed
  simp only [outcome_bind_ok, known_ok, refuseIf_ok] at passed
  obtain ⟨parent, parentFound, _, _, child, childFound, _, matches', _⟩ := passed
  rw [not_or] at matches'
  refine ⟨child, childFound, ?_⟩
  rw [Decidable.not_not.mp matches'.1, parentFound]
  rfl

theorem parents_of_verifyEntries (directory : List DirectoryEntry) :
    ∀ {names after : List (Nat × Bytes)}, directory.foldlM (verifyEntry inodes) names = .ok after →
      ∀ entry ∈ directory, ∃ child, inodeWith inodes entry.child = some child ∧
        (inodeWith inodes child.parent).isSome := by
  induction directory with
  | nil => simp
  | cons first rest ih =>
    intro names after passed
    rw [List.foldlM_cons] at passed
    obtain ⟨middle, firstPassed, restPassed⟩ := outcome_bind_ok.mp passed
    exact List.forall_mem_cons.mpr ⟨parent_of_verifyEntry firstPassed, ih restPassed⟩

theorem hasParents_of_verifyDirectoryGraph {directory : List DirectoryEntry}
    (passed : verifyDirectoryGraph inodes directory = .ok ()) : HasParents inodes := by
  unfold verifyDirectoryGraph at passed
  simp only [outcome_bind_ok, refuseIf_ok] at passed
  obtain ⟨_, entries, orphans⟩ := passed
  intro id inode found notRoot
  have member := List.all_eq_true.mp (Decidable.not_not.mp orphans) inode
    (List.mem_of_find?_eq_some found)
  have listed : ∃ entry ∈ directory, entry.child = id := by
    simpa [id_of_inodeWith found, notRoot] using member
  obtain ⟨entry, inside, rfl⟩ := listed
  obtain ⟨child, childFound, above⟩ := parents_of_verifyEntries directory entries entry inside
  rw [found] at childFound
  cases childFound
  exact above

theorem hasParents_of_parseTables {bytes : Bytes}
    (parsed : parseTables bytes = .ok tables) : HasParents tables.inodes := by
  unfold parseTables at parsed
  simp only [outcome_bind_ok] at parsed
  obtain ⟨_, _, inodes, _, directory, _, _, _, _, _, ⟨⟩, graph, _, _, done⟩ := parsed
  cases done
  exact hasParents_of_verifyDirectoryGraph graph

namespace Tables

theorem reachesRoot_of_inodePath (parents : HasParents tables.inodes) (steps : Nat) :
    ∀ {id : Nat} {answer : Except String Bytes}, (inodeWith tables.inodes id).isSome →
      tables.inodePath steps id = some answer →
      ReachesRoot tables.inodes id ∧ ∃ path, answer = .ok path := by
  induction steps with
  | zero =>
    intro id answer _ found
    cases found
  | succ steps ih =>
    intro id answer inside found
    obtain ⟨inode, isInode⟩ := Option.isSome_iff_exists.mp inside
    simp only [inodePath, isInode] at found
    split at found
    · rename_i isRoot
      rw [id_of_inodeWith isInode] at isRoot
      subst isRoot
      cases found
      exact ⟨.root isInode, _, rfl⟩
    · rename_i notRoot
      rw [id_of_inodeWith isInode] at notRoot
      obtain ⟨above, aboveFound, rfl⟩ := Option.map_eq_some_iff.mp found
      obtain ⟨reaches, path, rfl⟩ := ih (parents id inode isInode notRoot) aboveFound
      exact ⟨.parent isInode reaches, _, rfl⟩

theorem inodePath_of_reachesRoot {id : Nat} (reaches : ReachesRoot tables.inodes id) :
    ∃ enough, ∀ steps, enough ≤ steps → ∃ path, tables.inodePath steps id = some (.ok path) := by
  induction reaches with
  | root found =>
    refine ⟨1, fun steps most => ?_⟩
    obtain ⟨steps, rfl⟩ := Nat.exists_eq_add_of_le' most
    simp [inodePath, found, id_of_inodeWith found]
  | @parent id inode found _ ih =>
    obtain ⟨enough, paths⟩ := ih
    refine ⟨enough + 1, fun steps most => ?_⟩
    obtain ⟨steps, rfl⟩ := Nat.exists_eq_add_of_le' most
    obtain ⟨above, aboveFound⟩ := paths (steps + enough) (by omega)
    rw [show steps + (enough + 1) = (steps + enough) + 1 by omega]
    simp only [inodePath, found, aboveFound]
    split
    · exact ⟨_, rfl⟩
    · exact ⟨_, rfl⟩

variable (tables) in
/-- The inodes in front of the first one that fails, with what is reported of the files. -/
def passing : List Nat → List Inode → List (Inode × Option Bytes)
  | _, [] => []
  | used, inode :: rest =>
    match tables.checkInode used inode with
    | .error _ => []
    | .ok (used, file) => (inode, file) :: passing used rest

variable (tables) in
/-- No inode fails. -/
def AllPass : Prop :=
  (tables.passing [] tables.values).length = tables.values.length

/-- The files in front of the first failure reach the root. -/
def FilesReach (tables : Tables) (used : List Nat) (inodes : List Inode) : Prop :=
  ∀ checked ∈ tables.passing used inodes, checked.2.isSome →
    ReachesRoot tables.inodes checked.1.id

theorem passing_error {used : List Nat} {inode : Inode} {message : String} (rest : List Inode)
    (failed : tables.checkInode used inode = .error message) :
    tables.passing used (inode :: rest) = [] := by
  rw [passing, failed]

theorem passing_ok {used after : List Nat} {inode : Inode} {file : Option Bytes}
    (rest : List Inode) (passed : tables.checkInode used inode = .ok (after, file)) :
    tables.passing used (inode :: rest) = (inode, file) :: tables.passing after rest := by
  rw [passing, passed]

theorem mem_of_passing (inodes : List Inode) :
    ∀ {used : List Nat}, ∀ checked ∈ tables.passing used inodes, checked.1 ∈ inodes := by
  induction inodes with
  | nil => simp [passing]
  | cons inode rest ih =>
    intro used checked isChecked
    unfold passing at isChecked
    split at isChecked
    · cases isChecked
    · rcases List.mem_cons.mp isChecked with rfl | later
      · exact List.mem_cons_self ..
      · exact List.mem_cons_of_mem _ (ih checked later)

theorem verifyFileExtents_of_filesReach (inodes : List Inode) :
    ∀ {used : List Nat}, tables.FilesReach used inodes →
      ∃ enough, ∀ steps, enough ≤ steps →
        ∃ answer, tables.verifyFileExtents steps used inodes = some answer := by
  induction inodes with
  | nil => exact fun _ => ⟨0, fun _ _ => ⟨_, rfl⟩⟩
  | cons inode rest ih =>
    intro used reach
    match checked : tables.checkInode used inode with
    | .error message => exact ⟨0, fun steps _ => ⟨_, by rw [verifyFileExtents, checked]⟩⟩
    | .ok (after, file) =>
      unfold FilesReach at reach
      rw [passing_ok rest checked] at reach
      obtain ⟨here, later⟩ := List.forall_mem_cons.mp reach
      obtain ⟨enough, ends⟩ := ih later
      match file with
      | none =>
        refine ⟨enough, fun steps most => ?_⟩
        rw [verifyFileExtents, checked]
        exact ends steps most
      | some payload =>
        obtain ⟨forPath, paths⟩ := inodePath_of_reachesRoot (here rfl)
        refine ⟨max enough forPath, fun steps most => ?_⟩
        obtain ⟨path, found⟩ := paths steps (le_trans (le_max_right _ _) most)
        obtain ⟨answer, rested⟩ := ends steps (le_trans (le_max_left _ _) most)
        rw [verifyFileExtents, checked]
        simp only [found, rested]
        exact ⟨_, rfl⟩

/-- An answer means that the files in front of the first failure reach the root. -/
theorem filesReach_of_verifyFileExtents (parents : HasParents tables.inodes) {steps : Nat}
    (inodes : List Inode) : ∀ {used : List Nat} {answer : Except String (List FileReport)},
      (∀ inode ∈ inodes, (inodeWith tables.inodes inode.id).isSome) →
      tables.verifyFileExtents steps used inodes = some answer →
      tables.FilesReach used inodes ∧
        ((∃ reports, answer = .ok reports) ↔
          (tables.passing used inodes).length = inodes.length) := by
  induction inodes with
  | nil =>
    intro used answer _ found
    cases found
    exact ⟨by simp [FilesReach, passing], by simp [passing]⟩
  | cons inode rest ih =>
    intro used answer listed found
    obtain ⟨here, later⟩ := List.forall_mem_cons.mp listed
    match checked : tables.checkInode used inode with
    | .error message =>
      rw [verifyFileExtents, checked] at found
      cases found
      unfold FilesReach
      rw [passing_error rest checked]
      exact ⟨by simp, by simp⟩
    | .ok (after, none) =>
      rw [verifyFileExtents, checked] at found
      obtain ⟨reach, accepted⟩ := ih later found
      unfold FilesReach
      rw [passing_ok rest checked]
      refine ⟨List.forall_mem_cons.mpr ⟨by simp, reach⟩, accepted.trans ?_⟩
      simp
    | .ok (after, some payload) =>
      rw [verifyFileExtents, checked] at found
      unfold FilesReach
      rw [passing_ok rest checked]
      cases path : tables.inodePath steps inode.id with
      | none => simp [path] at found
      | some pathAnswer =>
        obtain ⟨reaches, path, rfl⟩ := reachesRoot_of_inodePath parents steps here path
        simp only [path] at found
        obtain ⟨restAnswer, restFound, rfl⟩ := Option.map_eq_some_iff.mp found
        obtain ⟨reach, accepted⟩ := ih later restFound
        refine ⟨List.forall_mem_cons.mpr ⟨fun _ => reaches, reach⟩, ?_⟩
        rw [List.length_cons, List.length_cons, Nat.add_right_cancel_iff, ← accepted]
        cases restAnswer <;> simp [Except.map]

end Tables

/-- The check of an image ends, and what it accepts is a tree. -/
def ChecksTree : Prop :=
  (∃ steps answer, verify steps bytes = some answer) ∧
    ∀ steps report, verify steps bytes = some (.ok report) →
      ∀ inodes, parseInodeTable (layoutOf bytes) (imageOf bytes) = .ok inodes →
        ∀ inode ∈ inodes, ReachesRoot inodes inode.id

theorem parseInodeTable_of_parseTables {bytes : Bytes} (parsed : parseTables bytes = .ok tables) :
    parseInodeTable (layoutOf bytes) (imageOf bytes) = .ok tables.inodes := by
  unfold parseTables at parsed
  simp only [outcome_bind_ok] at parsed
  obtain ⟨_, _, inodes, found, _, _, _, _, _, _, _, _, _, _, done⟩ := parsed
  cases done
  exact found

theorem Tables.mem_values : inode ∈ tables.values ↔ inode ∈ tables.inodes :=
  List.mem_insertionSort _

/-- The check ends with a tree or an error exactly where the files in front of the first inode
that fails reach the root, and all inodes do if none fails. -/
theorem checksTree_iff_reach (bytes : Bytes) :
    ChecksTree bytes ↔ ∀ tables, parseTables bytes = .ok tables →
      tables.FilesReach [] tables.values ∧
        (tables.AllPass → ∀ inode ∈ tables.inodes, ReachesRoot tables.inodes inode.id) := by
  constructor
  · rintro ⟨⟨steps, answer, ended⟩, tree⟩ tables parsed
    have listed : ∀ inode ∈ tables.values, (inodeWith tables.inodes inode.id).isSome :=
      fun inode inside => inodeWith_of_mem (Tables.mem_values.mp inside)
    have atSteps : verify steps bytes = (tables.verifyFileExtents steps [] tables.values).map
        fun answer => answer.map tables.report := by
      rw [verify, parsed]
    obtain ⟨files, extents, rfl⟩ := Option.map_eq_some_iff.mp (atSteps.symm.trans ended)
    obtain ⟨reach, accepted⟩ := Tables.filesReach_of_verifyFileExtents
      (hasParents_of_parseTables parsed) tables.values listed extents
    refine ⟨reach, fun all => ?_⟩
    obtain ⟨reports, rfl⟩ := accepted.mpr all
    exact tree steps _ ended _ (parseInodeTable_of_parseTables parsed)
  · intro trees
    cases parsed : parseTables bytes with
    | error message =>
      refine ⟨⟨0, _, by rw [verify, parsed]⟩, fun steps report accepted => ?_⟩
      rw [verify, parsed] at accepted
      cases accepted
    | ok tables =>
      obtain ⟨reach, all⟩ := trees tables parsed
      have listed : ∀ inode ∈ tables.values, (inodeWith tables.inodes inode.id).isSome :=
        fun inode inside => inodeWith_of_mem (Tables.mem_values.mp inside)
      refine ⟨?_, fun steps report accepted inodes found => ?_⟩
      · obtain ⟨enough, ends⟩ := Tables.verifyFileExtents_of_filesReach tables.values reach
        obtain ⟨answer, ended⟩ := ends enough le_rfl
        exact ⟨enough, _, by rw [verify, parsed]; simp only [ended]; rfl⟩
      · rw [parseInodeTable_of_parseTables parsed] at found
        cases found
        rw [verify, parsed] at accepted
        obtain ⟨files, extents, isReport⟩ := Option.map_eq_some_iff.mp accepted
        have passed := (Tables.filesReach_of_verifyFileExtents
          (hasParents_of_parseTables parsed) tables.values listed extents).2
        refine all (passed.mp ?_)
        cases files with
        | error message => cases isReport
        | ok reports => exact ⟨_, rfl⟩

/-- An inode table without a cycle of parent links is checked as it should be, and of the tables
that pass every other check, only such a table is. -/
theorem checksTree_of_acyclic (bytes : Bytes) :
    ((∀ inodes, parseInodeTable (layoutOf bytes) (imageOf bytes) = .ok inodes → Acyclic inodes) →
      ChecksTree bytes) ∧
    ∀ tables, parseTables bytes = .ok tables → tables.AllPass →
      (ChecksTree bytes ↔ Acyclic tables.inodes) := by
  have tree : ∀ tables, parseTables bytes = .ok tables → Acyclic tables.inodes →
      ChecksTree bytes := by
    intro tables parsed acyclic
    have reach : ∀ inode ∈ tables.inodes, ReachesRoot tables.inodes inode.id :=
      fun _ => acyclic.reachesRoot (hasParents_of_parseTables parsed)
    refine (checksTree_iff_reach bytes).mpr fun others parsed' => ?_
    cases parsed.symm.trans parsed'
    exact ⟨fun checked isChecked _ => reach _ (Tables.mem_values.mp
      (Tables.mem_of_passing _ checked isChecked)), fun _ => reach⟩
  refine ⟨fun acyclic => ?_, fun tables parsed pass => ⟨fun checks => ?_, tree tables parsed⟩⟩
  · cases parsed : parseTables bytes with
    | error message =>
      refine (checksTree_iff_reach bytes).mpr fun tables parsed' => ?_
      cases parsed.symm.trans parsed'
    | ok tables => exact tree tables parsed (acyclic _ (parseInodeTable_of_parseTables parsed))
  · exact acyclic_of_reachesRoot (((checksTree_iff_reach bytes).mp checks tables parsed).2 pass)

def header (magic : Bytes) (number checksum : Nat) : Bytes :=
  magic ++ leBytes 2 1 ++ leBytes 2 number ++ leBytes 4 checksum

def directoryInodeRows (id parent : Nat) (name : String) : List Bytes :=
  [leBytes 4 id ++ leBytes 2 1, leBytes 4 parent ++ utf8 name]

def directoryEntryRows (parent child : Nat) (name : String) : List Bytes :=
  [leBytes 4 parent ++ leBytes 4 child ++ leBytes 4 1 ++ utf8 name, []]

section Nested

variable (above : Nat)

/-- The sectors of an image with the directory `a` below inode `above` and `b` below `a`. -/
def nestedSectors : List (List Bytes) :=
  let layout := vertexFsLayoutV1
  let place := fun first count => leBytes 8 first ++ leBytes 8 count
  [[header layout.superblockMagic 512 25761 ++ leBytes 4 64 ++ leBytes 4 15, utf8 "g", [], [],
      place 1 2 ++ place 3 2, place 5 1 ++ place 6 1, place 7 57],
    header layout.inodeMagic 3 (40846 + 129 * above) :: directoryInodeRows 1 0 "/" ++
      directoryInodeRows 2 above "a" ++ directoryInodeRows 3 2 "b", [],
    header layout.directoryMagic 2 (18417 + 33 * above) :: directoryEntryRows above 2 "a" ++
      directoryEntryRows 2 3 "b", [],
    [header layout.freeMapMagic 64 4676, List.replicate 7 1],
    [header layout.journalMagic 0 5770]]

def nestedImage : Image := fun address =>
  (((nestedSectors above).getD (address / 512) []).getD (address % 512 / 32) []).getD
    (address % 32) 0

def nestedBytes : Bytes := readBytes (nestedImage above) 0 vertexFsImageBytes

def nestedInodes : List Inode :=
  [⟨⟨1, 1, 0, 0, 0, 0, 0⟩, utf8 "/"⟩, ⟨⟨2, 1, 0, 0, 0, 0, above⟩, utf8 "a"⟩,
    ⟨⟨3, 1, 0, 0, 0, 0, 2⟩, utf8 "b"⟩]

theorem getElem?_nestedBytes {address : Nat} (inside : address < vertexFsImageBytes) :
    (nestedBytes above)[address]? = some (nestedImage above address) := by
  rw [nestedBytes, readBytes_getElem inside, Nat.zero_add]

theorem imageOf_nestedBytes : imageOf (nestedBytes above) = nestedImage above := by
  funext address
  unfold imageOf
  rw [List.getD_eq_getElem?_getD]
  by_cases inside : address < vertexFsImageBytes
  · rw [getElem?_nestedBytes above inside]
    rfl
  · have past : (nestedSectors above).length ≤ address / 512 := by
      unfold vertexFsImageBytes vertexFsSectorSize vertexFsSectors at inside
      simp only [nestedSectors, List.length_cons, List.length_nil]
      omega
    have empty : (nestedSectors above).getD (address / 512) [] = [] := by
      rw [List.getD_eq_getElem?_getD, List.getElem?_eq_none past]
      rfl
    rw [List.getElem?_eq_none (by simpa [nestedBytes] using inside), nestedImage, empty]
    simp

variable (isParent : above = 1 ∨ above = 3)
include isParent

theorem layoutOf_nestedBytes : layoutOf (nestedBytes above) = vertexFsLayoutV1 := by
  have atNine : (nestedBytes above)[9]? = some 49 := by
    rw [getElem?_nestedBytes above (by decide)]
    rcases isParent with rfl | rfl <;> decide +kernel
  have atSixteen : (nestedBytes above)[16]? = some 1 := by
    rw [getElem?_nestedBytes above (by decide)]
    rcases isParent with rfl | rfl <;> decide +kernel
  have old : looksLikeV2 (nestedBytes above) = false := by
    by_contra new
    simp only [looksLikeV2, decide_eq_false_iff_not, not_not] at new
    rcases new with ⟨rest, magic⟩ | version
    · rw [← magic, List.getElem?_append_left (by decide)] at atNine
      exact absurd atNine (by decide +kernel)
    · have first := congrArg (·[0]?) version
      simp only [List.getElem?_take, List.getElem?_drop, atSixteen] at first
      exact absurd first (by decide +kernel)
  rw [layoutOf, old]
  rfl

/-- Every check of the image passes, whether `a` is below the root or below `b`. -/
theorem parseTables_nestedBytes :
    ∃ tables, parseTables (nestedBytes above) = .ok tables ∧
      tables.inodes = nestedInodes above ∧ tables.AllPass := by
  have run : (parseTables (nestedBytes above)).map (fun tables =>
      (tables.inodes, (tables.passing [] tables.values).length, tables.values.length)) =
        .ok (nestedInodes above, 3, 3) := by
    have length : (nestedBytes above).length = 32768 := readBytes_length ..
    simp only [parseTables, layoutOf_nestedBytes above isParent, imageOf_nestedBytes, length]
    rcases isParent with rfl | rfl
    · decide +kernel
    · decide +kernel
  generalize parseTables (nestedBytes above) = outcome at run
  cases outcome with
  | error message => cases run
  | ok tables =>
    obtain ⟨inodes, passed⟩ := Prod.mk.inj (Except.ok.inj run)
    obtain ⟨passed, all⟩ := Prod.mk.inj passed
    exact ⟨tables, rfl, inodes, passed.trans all.symm⟩

end Nested

/-- Of the directories `a` and `b` each is the parent of the other, and the image is accepted. -/
theorem not_checksTree_cyclic : ¬ChecksTree (nestedBytes 3) := by
  obtain ⟨tables, parsed, inodes, pass⟩ := parseTables_nestedBytes 3 (.inr rfl)
  intro checks
  have reaches := ((checksTree_iff_reach _).mp checks tables parsed).2 pass
  rw [inodes] at reaches
  have up : IsParent (nestedInodes 3) 2 3 := ⟨by decide, (nestedInodes 3)[1], rfl, rfl⟩
  have back : IsParent (nestedInodes 3) 3 2 := ⟨by decide, (nestedInodes 3)[2], rfl, rfl⟩
  exact acyclic_of_reachesRoot reaches 2 (.tail (.single up) back)

/-- With `a` below the root the links have no cycle. -/
theorem checksTree_of_acyclic_nested :
    Acyclic (nestedInodes 1) ∧ ChecksTree (nestedBytes 1) := by
  obtain ⟨tables, parsed, inodes, pass⟩ := parseTables_nestedBytes 1 (.inl rfl)
  have acyclic : Acyclic (nestedInodes 1) := by
    refine acyclic_of_reachesRoot ?_
    have root : ReachesRoot (nestedInodes 1) 1 := .root rfl
    have below : ReachesRoot (nestedInodes 1) 2 := .parent rfl root
    intro inode inside
    simp only [nestedInodes, List.mem_cons, List.not_mem_nil, or_false] at inside
    rcases inside with rfl | rfl | rfl
    · exact root
    · exact below
    · exact .parent rfl below
  refine ⟨acyclic, ((checksTree_of_acyclic _).2 tables parsed pass).mpr ?_⟩
  rw [inodes]
  exact acyclic

end VertexOS.HostVertexFs
