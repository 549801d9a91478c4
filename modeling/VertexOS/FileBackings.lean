import VertexOS.FileEffects
import VertexOS.VertexFsPages

/-!
# Memory files and VertexFS files

Both backings of a file keep a buffer of 512 bytes and a length; the VertexFS file
goes through its page.  They differ where the file grows: VertexFS clears what a
truncation cuts off, a memory file keeps it.
-/

namespace VertexOS

open ByteStrings ByteImages FailingCalls

structure FileView where
  bytes : Image
  len : Nat

namespace FileView

variable (view : FileView)

def Same (view other : FileView) : Prop :=
  view.len = other.len ∧ ∀ cursor < view.len, view.bytes cursor = other.bytes cursor

def Cleared : Prop := ∀ cursor, view.len ≤ cursor → view.bytes cursor = 0

def part (offset maxLen : Nat) : Bytes :=
  readBytes view.bytes (min offset view.len) (min (view.len - min offset view.len) maxLen)

def overwrite (offset : Nat) (data : Bytes) : FileView :=
  ⟨writeBytes view.bytes offset data, max view.len (offset + data.length)⟩

/-- A write that leaves the file alone without data. -/
def write (offset : Nat) (data : Bytes) : FileView :=
  if data = [] then view else view.overwrite offset data

/-- A new end, with whatever the buffer holds before it. -/
def resize (len : Nat) : FileView := ⟨view.bytes, len⟩

/-- A new end, with zeros between it and the old one. -/
def truncate (len : Nat) : FileView :=
  ⟨clearBytes view.bytes (min view.len len) (max view.len len - min view.len len), len⟩

/-- The buffer holds zeros from the end of the file up to there. -/
def ZeroUpTo (limit : Nat) : Prop :=
  ∀ cursor, view.len ≤ cursor → cursor < limit → view.bytes cursor = 0

section

variable {view other : FileView} {offset len maxLen : Nat} {data : Bytes}

theorem writeBytes_eq (image : Image) (offset : Nat) (data : Bytes) (cursor : Nat) :
    writeBytes image offset data cursor =
      if inside : offset ≤ cursor ∧ cursor < offset + data.length then
        data.get ⟨cursor - offset, by omega⟩ else image cursor := by
  unfold writeBytes
  split
  · split
    · rw [List.getElem?_eq_getElem (by omega)]
      rfl
    · rw [List.getElem?_eq_none (by omega)]
      rfl
  · rw [dif_neg (by omega)]

theorem take_drop_readBytes (view : FileView) (offset maxLen : Nat) :
    ((readBytes view.bytes 0 view.len).drop
      (min offset (readBytes view.bytes 0 view.len).length)).take maxLen =
      view.part offset maxLen := by
  rw [readBytes_length]
  refine List.ext_getElem ?_ fun index left right => ?_
  · simp only [FileView.part, List.length_take, List.length_drop, readBytes_length]
    omega
  · simp [FileView.part, readBytes]

theorem length_part_le (view : FileView) (offset maxLen : Nat) :
    (view.part offset maxLen).length ≤ maxLen := by
  simp only [FileView.part, readBytes_length]
  omega

theorem Same.part (same : view.Same other) (offset maxLen : Nat) :
    view.part offset maxLen = other.part offset maxLen := by
  unfold FileView.part
  rw [← same.1]
  refine readBytes_congr fun cursor _ inside => same.2 cursor ?_
  omega

theorem Cleared.write (cleared : view.Cleared) : (view.write offset data).Cleared := by
  unfold FileView.write
  split
  · exact cleared
  intro cursor behind
  simp only [overwrite] at behind ⊢
  rw [writeBytes_outside (.inr (by omega))]
  exact cleared cursor (by omega)

theorem Cleared.truncate (cleared : view.Cleared) : (view.truncate len).Cleared := by
  intro cursor behind
  simp only [FileView.truncate, clearBytes] at behind ⊢
  split
  · rfl
  · exact cleared cursor (by omega)

theorem Same.overwrite_iff (same : view.Same other) (cleared : other.Cleared) :
    (view.overwrite offset data).Same (other.write offset data) ↔
      (data = [] → offset ≤ view.len) ∧ view.ZeroUpTo offset := by
  obtain ⟨sameLen, sameBytes⟩ := same
  by_cases nothing : data = []
  · subst nothing
    simp only [FileView.write, if_true, overwrite, FileView.Same, List.length_nil]
    constructor
    · rintro ⟨len, -⟩
      exact ⟨fun _ => by omega, fun cursor lower upper => by omega⟩
    · rintro ⟨within, -⟩
      have within := within trivial
      refine ⟨by omega, fun cursor inside => ?_⟩
      rw [writeBytes_eq, dif_neg (by simp)]
      exact sameBytes cursor (by omega)
  · have some := List.length_pos_iff.mpr nothing
    rw [FileView.write, if_neg nothing]
    simp only [overwrite, FileView.Same, nothing, false_implies, true_and]
    constructor
    · rintro ⟨-, agree⟩ cursor lower upper
      have byte := agree cursor (by omega)
      rw [writeBytes_outside (.inl upper), writeBytes_outside (.inl upper)] at byte
      exact byte.trans (cleared cursor (by omega))
    · intro zero
      refine ⟨by omega, fun cursor inside => ?_⟩
      rw [writeBytes_eq, writeBytes_eq]
      split
      · rfl
      · by_cases old : cursor < view.len
        · exact sameBytes cursor old
        · rw [zero cursor (by omega) (by omega), cleared cursor (by omega)]

theorem Same.resize_iff (same : view.Same other) :
    (view.resize len).Same (other.truncate len) ↔ view.ZeroUpTo len := by
  obtain ⟨sameLen, sameBytes⟩ := same
  simp only [resize, FileView.truncate, FileView.Same, clearBytes, true_and]
  constructor
  · intro agree cursor lower upper
    rw [agree cursor upper, if_pos (by omega)]
  · intro zero cursor inside
    by_cases old : cursor < view.len
    · rw [if_neg (by omega)]
      exact sameBytes cursor old
    · rw [if_pos (by omega)]
      exact zero cursor (by omega) inside

end

end FileView

inductive FileOperation where
  | write (offset : Nat) (data : Bytes)
  | truncate (len : Nat)
  | read (offset destination maxLen : Nat)

namespace FileOperation

/-- Within the bytes that a file may have. -/
def Confined : FileOperation → Prop
  | .write offset data => offset + data.length ≤ maxVfsMemFileBytes
  | .truncate len => len ≤ maxVfsMemFileBytes
  | .read offset _ maxLen => offset ≤ maxVfsMemFileBytes ∧ maxLen ≤ maxVfsMemFileBytes

/-- Run the operation on a node: the number of bytes and the offset behind them. -/
def perform (machine : Machine) (node : VfsNode) : FileOperation → KernelCall (Nat × Nat)
  | .write offset data => vfsWriteNode machine node offset data
  | .truncate len => do
    vfsTruncateNode node len
    return (0, 0)
  | .read offset destination maxLen => vfsReadNode machine node offset destination maxLen

end FileOperation

namespace VertexFsState

def view (fs : VertexFsState) (index : Nat) : FileView :=
  ⟨(fs.files index).bytes, (fs.files index).len⟩

structure Backs (mountId index : Nat) (fs : VertexFsState) : Prop where
  inside : index < fs.fileCount
  paged : fs.Paged mountId
  page : ∀ place, fs.PageAt index place →
    (fs.pageCache place).bytes = (fs.files index).bytes
  cleared : (fs.view index).Cleared

end VertexFsState

namespace RuntimeState

def memoryView (runtime : RuntimeState) (index : Nat) : FileView :=
  ⟨(runtime.vfs.memFiles index).bytes, (runtime.vfs.memFiles index).len⟩

def vertexFsView (runtime : RuntimeState) (index : Nat) : FileView :=
  runtime.vfs.vertexfs.view index

/-- What the programs got, without the copies of nothing. -/
def deliveries (runtime : RuntimeState) : List UserCopy :=
  runtime.userCopies.filter fun copy => copy.bytes ≠ []

structure MemoryBacked (index : Nat) (runtime : RuntimeState) : Prop where
  inside : index < runtime.vfs.memFileCount
  named : runtime.vfs.backingInUse (.memoryFile index) = true

structure VertexFsBacked (index : Nat) (runtime : RuntimeState) : Prop where
  backs : runtime.vfs.vertexfs.Backs runtime.vertexFsPageCacheMountId index
  named : runtime.vfs.backingInUse (.vertexFsFile index) = true

/-- Only the files changed, and what the programs got. -/
def FilesOnly (runtime after : RuntimeState) : Prop :=
  after = { runtime with vfs := after.vfs, userCopies := after.userCopies }

theorem FilesOnly.currentProcessId {runtime after : RuntimeState}
    (filesOnly : runtime.FilesOnly after) : after.currentProcessId = runtime.currentProcessId := by
  rw [filesOnly]
  rfl

end RuntimeState

open RuntimeState

theorem exec_touch {runtime : RuntimeState} {backing : VfsBacking}
    (named : runtime.vfs.backingInUse backing = true) :
    ∃ vfs : VfsState,
      exec (updateVfsOr fun vfs => vfs.touchNodesBackedBy backing) runtime =
        (.ok (), { runtime with vfs }) ∧
      vfs.memFiles = runtime.vfs.memFiles ∧ vfs.memFileCount = runtime.vfs.memFileCount ∧
      vfs.vertexfs = runtime.vfs.vertexfs ∧
      ∀ other, vfs.backingInUse other = runtime.vfs.backingInUse other := by
  cases touched : runtime.vfs.touchNodesBackedBy backing with
  | error failure =>
    unfold VfsState.touchNodesBackedBy at touched
    split at touched
    · cases touched
    · exact absurd named ‹_›
  | ok vfs =>
    refine ⟨vfs, ?_, ?_, ?_, ?_, (VfsState.stirs_touchNodesBackedBy touched).backingInUse⟩
    · rw [updateVfsOr, exec_get_bind, touched]
      rfl
    all_goals
      unfold VfsState.touchNodesBackedBy at touched
      split at touched <;> cases touched
      rfl

/-- What an operation answers, what the program gets, and the file afterwards. -/
structure FileStep where
  answer : Except IpcError (Nat × Nat)
  delivered : List UserCopy
  view : FileView

def FileStep.ofRead (machine : Machine) (pid : ProcessId) (view : FileView)
    (offset destination : Nat) (data : Bytes) : FileStep :=
  if machine.writable pid destination data.length then
    { answer := .ok (data.length, offset + data.length)
      delivered := if data = [] then [] else [⟨pid, destination, data⟩]
      view }
  else { answer := .error .invalidUserBuffer, delivered := [], view }

/-- A memory file: the end moves and the buffer stays. -/
def memoryStep (machine : Machine) (pid : ProcessId) (view : FileView) :
    FileOperation → FileStep
  | .write offset data =>
    { answer := .ok (data.length, offset + data.length)
      delivered := [], view := view.overwrite offset data }
  | .truncate len => { answer := .ok (0, 0), delivered := [], view := view.resize len }
  | .read offset destination maxLen =>
    .ofRead machine pid view offset destination (view.part offset maxLen)

/-- A VertexFS file: what is cut off is cleared, and nothing is done for no bytes. -/
def vertexFsStep (machine : Machine) (pid : ProcessId) (view : FileView) :
    FileOperation → FileStep
  | .write offset data =>
    { answer := .ok (data.length, offset + data.length)
      delivered := [], view := view.write offset data }
  | .truncate len => { answer := .ok (0, 0), delivered := [], view := view.truncate len }
  | .read offset destination maxLen =>
    if view.part offset maxLen = [] then { answer := .ok (0, offset), delivered := [], view }
    else .ofRead machine pid view offset destination (view.part offset maxLen)

namespace RuntimeState

/-- The kernel takes the step: its answer, what it copied out, and nothing else but files. -/
structure Takes (step : FileStep) (runtime : RuntimeState)
    (ended : Except IpcError (Nat × Nat) × RuntimeState) : Prop where
  answer : ended.1 = step.answer
  delivered : ended.2.deliveries = runtime.deliveries ++ step.delivered
  filesOnly : runtime.FilesOnly ended.2

end RuntimeState

theorem exec_copyOut (machine : Machine) (destination : Nat) (bytes : Bytes)
    (runtime : RuntimeState) :
    exec (copyOut machine destination bytes) runtime =
      if machine.writable runtime.currentProcessId destination bytes.length then
        (.ok (), { runtime with
          userCopies := runtime.userCopies ++ [⟨runtime.currentProcessId, destination, bytes⟩] })
      else (.error .invalidUserBuffer, runtime) := by
  rw [copyOut, exec_get_bind, copyToUser]
  split <;> rfl

theorem deliveries_append (runtime : RuntimeState) (pid : ProcessId) (destination : Nat)
    (bytes : Bytes) :
    deliveries { runtime with userCopies := runtime.userCopies ++ [⟨pid, destination, bytes⟩] } =
      runtime.deliveries ++ (if bytes = [] then [] else [⟨pid, destination, bytes⟩]) := by
  by_cases nothing : bytes = [] <;> simp [deliveries, nothing]

variable {node : VfsNode} {index : Nat} {runtime : RuntimeState}

section

variable (machine : Machine)

theorem memory_write {offset : Nat} {data : Bytes} (backing : node.backing = .memoryFile index)
    (backed : runtime.MemoryBacked index) (fits : offset + data.length ≤ maxVfsMemFileBytes) :
    Ends (fun ended => runtime.Takes
        (memoryStep machine runtime.currentProcessId (runtime.memoryView index)
          (.write offset data)) ended ∧ ended.2.MemoryBacked index ∧
      ended.2.memoryView index = (runtime.memoryView index).overwrite offset data)
      (vfsWriteNode machine node offset data) runtime := by
  rw [vfsWriteNode, backing]
  refine .require_bind (fun large => absurd fits large) fun _ => .get_bind <|
    .require_bind (fun outside => absurd backed.inside outside) fun _ => .modify_bind ?_
  set written := runtime.updateVfs fun vfs => { vfs with
    memFiles := Function.update vfs.memFiles index
      { vfs.memFiles index with
        bytes := writeBytes (vfs.memFiles index).bytes offset data
        len := max (vfs.memFiles index).len (offset + data.length) } } with isWritten
  have named : written.vfs.backingInUse (.memoryFile index) = true := backed.named
  obtain ⟨vfs, touch, files, count, -, inUse⟩ := exec_touch named
  refine .bind (fun error after run => ?_) fun _ after run => ?_
  · cases touch.symm.trans run
  · cases touch.symm.trans run
    refine .pure ⟨⟨rfl, (List.append_nil _).symm, rfl⟩,
      ⟨count.symm ▸ backed.inside, (inUse _).trans named⟩, ?_⟩
    simp [memoryView, FileView.overwrite, files, isWritten, updateVfs]

theorem memory_truncate {len : Nat} (backing : node.backing = .memoryFile index)
    (backed : runtime.MemoryBacked index) (fits : len ≤ maxVfsMemFileBytes) :
    Ends (fun ended => runtime.Takes
        (memoryStep machine runtime.currentProcessId (runtime.memoryView index)
          (.truncate len)) ended ∧ ended.2.MemoryBacked index ∧
      ended.2.memoryView index = (runtime.memoryView index).resize len)
      (FileOperation.perform machine node (.truncate len)) runtime := by
  unfold FileOperation.perform vfsTruncateNode
  rw [backing]
  refine .bind (fun error after run => ?_) fun _ after run => ?_
  all_goals
    dsimp only at run
    rw [exec_require_bind, if_pos fits, exec_get_bind, exec_require_bind, if_pos backed.inside,
      exec_modify_bind] at run
    set resized := runtime.updateVfs fun vfs => { vfs with
      memFiles := Function.update vfs.memFiles index { vfs.memFiles index with len } }
      with isResized
    have named : resized.vfs.backingInUse (.memoryFile index) = true := backed.named
    obtain ⟨vfs, touch, files, count, -, inUse⟩ := exec_touch named
    cases touch.symm.trans run
  refine .pure ⟨⟨rfl, (List.append_nil _).symm, rfl⟩,
    ⟨count.symm ▸ backed.inside, (inUse _).trans named⟩, ?_⟩
  simp [memoryView, FileView.resize, files, isResized, updateVfs]

theorem memory_read {offset maxLen : Nat} (destination : Nat) (backing : node.backing = .memoryFile index)
    (backed : runtime.MemoryBacked index) (fits : offset ≤ maxVfsMemFileBytes)
    (short : maxLen ≤ maxVfsMemFileBytes) :
    Ends (fun ended => runtime.Takes
        (memoryStep machine runtime.currentProcessId (runtime.memoryView index)
          (.read offset destination maxLen)) ended ∧
      ended.2.MemoryBacked index ∧ ended.2.memoryView index = runtime.memoryView index)
      (vfsReadNode machine node offset destination maxLen) runtime := by
  unfold vfsReadNode
  refine .get_bind ?_
  rw [backing]
  refine .require_bind (fun outside => absurd backed.inside outside) fun _ => ?_
  set file := runtime.vfs.memFiles index with isFile
  have data : ((readBytes file.bytes 0 file.len).drop
      (min offset (readBytes file.bytes 0 file.len).length)).take maxLen =
      (runtime.memoryView index).part offset maxLen :=
    (runtime.memoryView index).take_drop_readBytes offset maxLen
  have dataShort := (runtime.memoryView index).length_part_le offset maxLen
  unfold readOut
  dsimp only
  rw [data]
  simp only [memoryStep, FileStep.ofRead]
  refine .bind (fun error after run => ?_) fun _ after run => ?_
  · rw [exec_copyOut] at run
    split at run
    · cases run
    · rename_i refused
      cases run
      rw [if_neg refused]
      exact ⟨⟨rfl, (List.append_nil _).symm, rfl⟩, backed, rfl⟩
  · rw [exec_copyOut] at run
    split at run
    · rename_i accepted
      cases run
      rw [if_pos accepted]
      refine .require_bind (fun large => ?_) fun _ => .pure
        ⟨⟨rfl, deliveries_append .., rfl⟩, ⟨backed.inside, backed.named⟩, rfl⟩
      simp only [maxVfsMemFileBytes] at fits short
      exact absurd (by omega) large
    · cases run

end

namespace VertexFsState

variable {mountId index : Nat} {fs : VertexFsState}

section Backed

variable (backs : fs.Backs mountId index)
include backs

theorem Backs.load {slot : PageIndex} (absent : ∀ place, ¬fs.PageAt index place) :
    (fs.updatePage slot fun _ => fs.freshPage mountId (fs.pageKey index) index 0).Backs
      mountId index := by
  refine ⟨backs.inside, backs.paged.load absent, fun place here => ?_, backs.cleared⟩
  by_cases same : place = slot
  · subst same
    funext cursor
    have behind := backs.cleared cursor
    simp only [updatePage, Function.update_self, freshPage, Nat.zero_mul, Nat.zero_add]
    split
    · rfl
    rename_i outside
    have fits := backs.paged.len_le index
    simp only [maxVertexFsFileBytes, vertexFsSectorSize] at fits outside
    exact (behind (by simp only [view]; omega)).symm
  · simp only [PageAt, updatePage, Function.update_of_ne same] at here ⊢
    exact backs.page place here

theorem Backs.ensurePage :
    Ends (fun ended => ended = (.error .vfsNoSpace, fs) ∨
      ∃ slot after, ended = (.ok slot, after) ∧ after.Backs mountId index ∧
        after.PageAt index slot ∧ after.files = fs.files)
      (ensureVertexFsPageCachePage mountId index 0) fs := by
  have ensured := ensures_page backs.paged backs.inside
  unfold Ends at ensured ⊢
  rcases run : exec (ensureVertexFsPageCachePage mountId index 0) fs with ended
  rw [run] at ensured
  cases ensured with
  | fails => exact .inl rfl
  | hits slot here => exact .inr ⟨slot, fs, rfl, backs, here, rfl⟩
  | loads slot absent free =>
    refine .inr ⟨slot, _, rfl, backs.load absent, ?_, rfl⟩
    simp [PageAt, updatePage, freshPage]

theorem Backs.edit {slot : PageIndex} {changePage : VfsPageCachePage → VfsPageCachePage}
    {changeFile : VfsVertexFsFile → VfsVertexFsFile} (here : fs.PageAt index slot)
    (page : ∀ page, (changePage page).valid = page.valid ∧ (changePage page).address = page.address)
    (inode : ∀ file, (changeFile file).inodeId = file.inodeId)
    (len : (changeFile (fs.files index)).len ≤ maxVertexFsFileBytes)
    (bytes : (changePage (fs.pageCache slot)).bytes = (changeFile (fs.files index)).bytes)
    (cleared : FileView.Cleared
      ⟨(changeFile (fs.files index)).bytes, (changeFile (fs.files index)).len⟩) :
    ((fs.updatePage slot changePage).updateFile index changeFile).Backs mountId index := by
  refine ⟨backs.inside, backs.paged.edit here page inode len, fun place there => ?_, ?_⟩
  · obtain rfl : place = slot := by
      by_contra apart
      simp only [PageAt, updateFile, updatePage, Function.update_of_ne apart] at there
      exact apart (backs.paged.single place slot there.1 here.1 (there.2.trans here.2.symm))
    simpa [updateFile, updatePage] using bytes
  · simpa [view, updateFile, updatePage] using cleared

theorem Backs.dirtyPage {α : Type} {next : PageIndex → VertexFsCall α}
    {P : Except IpcError α × VertexFsState → Prop}
    (refused : ∀ after, P (.error .vfsNoSpace, after))
    (rest : ∀ (slot : PageIndex) (ready : VertexFsState), ready.Backs mountId index →
      ready.PageAt index slot → ready.files = fs.files → Ends P (next slot) ready) :
    Ends P (do
      let slot ← ensureVertexFsPageCachePage mountId index 0
      ensureVertexFsPageCacheDirty slot
      next slot) fs := by
  have found := backs.ensurePage
  unfold Ends at found
  refine .bind (fun error ready run => ?_) fun slot ready run => ?_
  · obtain failed | ⟨_, _, isOk, -⟩ := run ▸ found
    · cases failed
      exact refused _
    · cases isOk
  · obtain failed | ⟨_, _, isOk, backs, here, files⟩ := run ▸ found
    · cases failed
    · cases isOk
      refine .bind (fun error after run => ?_) fun _ after run => ?_
      all_goals
        rw [ensureVertexFsPageCacheDirty, exec_get_bind, exec_require_bind, if_pos here.1,
          exec_require] at run
        split at run <;> cases run
      · exact refused _
      · exact rest slot _ backs here files

theorem Backs.write {offset : Nat} {data : Bytes}
    (fits : offset + data.length ≤ maxVertexFsFileBytes) :
    Ends (fun ended => ended.1 = .error .vfsNoSpace ∨
      ended.1 = .ok (data.length, offset + data.length) ∧ ended.2.Backs mountId index ∧
        ended.2.view index = (fs.view index).write offset data)
      (writeVertexFsPageCache mountId index offset data) fs := by
  refine .require_bind (fun large => absurd fits large) fun _ => .get_bind <|
    .require_bind (fun outside => absurd backs.inside outside) fun _ =>
    .ite (fun nothing => ?_) fun some => ?_
  · subst nothing
    exact .pure (.inr ⟨rfl, backs, by simp [FileView.write]⟩)
  · have length := List.length_pos_iff.mpr some
    simp only [maxVertexFsFileBytes] at fits
    have firstPage : offset / vertexFsSectorSize = 0 := by
      rw [vertexFsSectorSize, Nat.div_eq_zero_iff]
      omega
    have inPage : offset % vertexFsSectorSize = offset := by
      rw [vertexFsSectorSize]
      omega
    rw [firstPage]
    refine backs.dirtyPage (fun _ => .inl rfl) fun slot ready backs here files =>
      .modify_bind (.pure (.inr ⟨rfl, ?_, ?_⟩))
    · dsimp only
      refine backs.edit here ?_ ?_ ?_ ?_ ?_
      · exact fun page => ⟨rfl, rfl⟩
      · exact fun file => rfl
      · have len_le := backs.paged.len_le index
        simp only [VfsVertexFsFile.written, VfsVertexFsFile.touched, maxVertexFsFileBytes]
          at len_le ⊢
        omega
      · rw [inPage]
        change writeBytes (ready.pageCache slot).bytes offset data = _
        rw [backs.page slot here]
        rfl
      · have cleared : ((ready.view index).write offset data).Cleared := backs.cleared.write
        rw [FileView.write, if_neg some] at cleared
        exact cleared
    · rw [FileView.write, if_neg some]
      simp [view, updateFile, updatePage, FileView.overwrite, VfsVertexFsFile.written,
        VfsVertexFsFile.touched, files]

theorem Backs.truncate {len : Nat} (fits : len ≤ maxVertexFsFileBytes) :
    Ends (fun ended => ended.1 = .error .vfsNoSpace ∨
      ended.1 = .ok () ∧ ended.2.Backs mountId index ∧
        ended.2.view index = (fs.view index).truncate len)
      (truncateVertexFsPageCache mountId index len) fs := by
  refine .require_bind (fun large => absurd fits large) fun _ => .get_bind <|
    .require_bind (fun outside => absurd backs.inside outside) fun _ => .get_bind <|
    .ite (fun same => .pure (.inr ⟨rfl, backs, ?_⟩)) fun changes => ?_
  · subst same
    have nothing : ∀ image : Image, clearBytes image (fs.files index).len 0 = image := by
      intro image
      funext cursor
      exact if_neg (by omega)
    simp [FileView.truncate, view, nothing]
  · refine backs.dirtyPage (fun _ => .inl rfl) fun slot ready backs here files => ?_
    rw [Ends, exec_modify]
    refine .inr ⟨rfl, ?_, ?_⟩
    · dsimp only
      refine backs.edit here ?_ ?_ ?_ ?_ ?_
      · exact fun page => ⟨rfl, rfl⟩
      · exact fun file => rfl
      · exact fits
      · change clearBytes (ready.pageCache slot).bytes _ _ = _
        rw [backs.page slot here, files]
        rfl
      · exact backs.cleared.truncate
    · simp [view, updateFile, updatePage, FileView.truncate, VfsVertexFsFile.truncated,
        VfsVertexFsFile.touched, files]

end Backed

theorem Backs.read {offset maxLen : Nat} (copied : Bool) (backs : fs.Backs mountId index)
    (fits : offset ≤ maxVertexFsFileBytes) (short : maxLen ≤ maxVertexFsFileBytes) :
    Ends (fun ended => ended.1 = .error .vfsNoSpace ∨
      ended.1 = (if copied = true ∨ (fs.view index).part offset maxLen = [] then
        .ok ((fs.view index).part offset maxLen,
          offset + ((fs.view index).part offset maxLen).length) else .error .invalidUserBuffer) ∧
      ended.2.Backs mountId index ∧ ended.2.view index = fs.view index)
      (readVertexFsPageCache mountId index offset maxLen copied) fs := by
  have length : ((fs.view index).part offset maxLen).length =
      min ((fs.files index).len - min offset (fs.files index).len) maxLen := by
    simp [FileView.part, view, readBytes_length]
  have fileFits := backs.paged.len_le index
  simp only [maxVertexFsFileBytes] at fits short fileFits
  refine .get_bind (.require_bind (fun outside => absurd backs.inside outside) fun _ =>
    .ite (fun nothing => .pure (.inr ⟨?_, backs, rfl⟩)) fun some => ?_)
  · have empty : (fs.view index).part offset maxLen = [] :=
      List.eq_nil_of_length_eq_zero (length.trans nothing)
    rw [empty, if_pos (.inr rfl)]
    rfl
  · have notEmpty : (fs.view index).part offset maxLen ≠ [] := by
      intro empty
      rw [empty] at length
      exact some length.symm
    have firstPage : min offset (fs.files index).len / vertexFsSectorSize = 0 := by
      rw [vertexFsSectorSize, Nat.div_eq_zero_iff]
      omega
    have inPage : min offset (fs.files index).len % vertexFsSectorSize =
        min offset (fs.files index).len := by
      rw [vertexFsSectorSize]
      omega
    rw [firstPage]
    have found := backs.ensurePage
    unfold Ends at found
    refine .bind (fun error ready run => ?_) fun slot ready run => ?_
    · obtain failed | ⟨_, _, isOk, -⟩ := run ▸ found
      · cases failed
        exact .inl rfl
      · cases isOk
    · obtain failed | ⟨_, _, isOk, backs, here, files⟩ := run ▸ found
      · cases failed
      · cases isOk
        have sameView : ready.view index = fs.view index := by rw [view, view, files]
        refine .get_bind (.require_bind (fun refused => .inr ⟨?_, backs, sameView⟩)
          fun accepted => .require_bind (fun large => ?_) fun _ => .pure (.inr ⟨?_, backs, sameView⟩))
        · rw [if_neg (by simp [refused, notEmpty])]
        · exact absurd (by omega) large
        · rw [if_pos (.inl accepted), inPage, backs.page slot here, files]
          simp [FileView.part, view, readBytes_length]

end VertexFsState

section VertexFs

variable (machine : Machine)

theorem ends_onVertexFs_bind {α β : Type} {call : VertexFsCall α} {next : α → KernelCall β}
    {P : Except IpcError β × RuntimeState → Prop}
    {Q : Except IpcError α × VertexFsState → Prop} (holds : Ends Q call runtime.vfs.vertexfs)
    (fails : ∀ error after, Q (.error error, after) →
      P (.error error, runtime.updateVfs fun vfs => { vfs with vertexfs := after }))
    (rest : ∀ value after, Q (.ok value, after) →
      Ends P (next value) (runtime.updateVfs fun vfs => { vfs with vertexfs := after })) :
    Ends P (onVertexFs call >>= next) runtime := by
  unfold Ends at holds ⊢
  rw [exec_bind, onVertexFs, exec_onPart]
  rcases run : exec call runtime.vfs.vertexfs with ⟨error | value, after⟩
  · rw [run] at holds
    exact fails error after holds
  · rw [run] at holds
    exact rest value after holds

theorem RuntimeState.VertexFsBacked.touch {fs : VertexFsState}
    (backed : runtime.VertexFsBacked index)
    (backs : fs.Backs runtime.vertexFsPageCacheMountId index) :
    ∃ later, exec (updateVfsOr fun vfs => vfs.touchVertexFsFileNodes index)
        (runtime.updateVfs fun vfs => { vfs with vertexfs := fs }) = (.ok (), later) ∧
      runtime.FilesOnly later ∧ later.userCopies = runtime.userCopies ∧
      later.VertexFsBacked index ∧ later.vertexFsView index = fs.view index := by
  set changed := runtime.updateVfs fun vfs => { vfs with vertexfs := fs } with isChanged
  have named : changed.vfs.backingInUse (.vertexFsFile index) = true := backed.named
  obtain ⟨vfs, touch, -, -, vertexfs, inUse⟩ := exec_touch named
  have table : vfs.vertexfs = fs := vertexfs
  refine ⟨{ changed with vfs }, touch, rfl, rfl, ⟨?_, (inUse _).trans named⟩, ?_⟩
  · change vfs.vertexfs.Backs _ index
    rw [table]
    exact backs
  · change vfs.vertexfs.view index = _
    rw [table]

theorem vertexFs_write {offset : Nat} {data : Bytes} (backing : node.backing = .vertexFsFile index)
    (backed : runtime.VertexFsBacked index) (fits : offset + data.length ≤ maxVertexFsFileBytes) :
    Ends (fun ended => ended.1 = .error .vfsNoSpace ∨ runtime.Takes
        (vertexFsStep machine runtime.currentProcessId (runtime.vertexFsView index)
          (.write offset data)) ended ∧ ended.2.VertexFsBacked index ∧
      ended.2.vertexFsView index = (runtime.vertexFsView index).write offset data)
      (vfsWriteNode machine node offset data) runtime := by
  rw [vfsWriteNode, backing]
  refine .get_bind (ends_onVertexFs_bind (backed.backs.write fits) ?_ ?_)
  · rintro error after (refused | ⟨isOk, -⟩)
    · exact .inl refused
    · cases isOk
  · rintro value after (refused | ⟨isOk, backs, sameView⟩)
    · cases refused
    · cases isOk
      obtain ⟨later, touch, filesOnly, copies, backed, laterView⟩ := backed.touch backs
      refine .bind (fun error other run => ?_) fun _ other run => ?_
      · cases touch.symm.trans run
      · cases touch.symm.trans run
        refine .pure (.inr ⟨⟨rfl, ?_, filesOnly⟩, backed, laterView.trans sameView⟩)
        rw [deliveries, copies]
        exact (List.append_nil _).symm

theorem vertexFs_truncate {len : Nat} (backing : node.backing = .vertexFsFile index)
    (backed : runtime.VertexFsBacked index) (fits : len ≤ maxVertexFsFileBytes) :
    Ends (fun ended => ended.1 = .error .vfsNoSpace ∨ runtime.Takes
        (vertexFsStep machine runtime.currentProcessId (runtime.vertexFsView index)
          (.truncate len)) ended ∧ ended.2.VertexFsBacked index ∧
      ended.2.vertexFsView index = (runtime.vertexFsView index).truncate len)
      (FileOperation.perform machine node (.truncate len)) runtime := by
  have truncated : Ends (fun ended => ended.1 = .error .vfsNoSpace ∨ ended.1 = .ok () ∧
      runtime.FilesOnly ended.2 ∧ ended.2.userCopies = runtime.userCopies ∧
      ended.2.VertexFsBacked index ∧
      ended.2.vertexFsView index = (runtime.vertexFsView index).truncate len)
      (vfsTruncateNode node len) runtime := by
    rw [vfsTruncateNode, backing]
    refine .get_bind (ends_onVertexFs_bind (backed.backs.truncate fits) ?_ ?_)
    · rintro error after (refused | ⟨isOk, -⟩)
      · exact .inl refused
      · cases isOk
    · rintro _ after (refused | ⟨-, backs, sameView⟩)
      · cases refused
      · obtain ⟨later, touch, filesOnly, copies, backed, laterView⟩ := backed.touch backs
        rw [Ends, touch]
        exact .inr ⟨rfl, filesOnly, copies, backed, laterView.trans sameView⟩
  unfold Ends at truncated
  refine .bind (fun error after run => ?_) fun _ after run => ?_
  all_goals rw [run] at truncated
  · obtain refused | ⟨isOk, -⟩ := truncated
    · cases refused
      exact .inl rfl
    · cases isOk
  · obtain refused | ⟨-, filesOnly, copies, backed, sameView⟩ := truncated
    · cases refused
    · refine .pure (.inr ⟨⟨rfl, ?_, filesOnly⟩, backed, sameView⟩)
      rw [deliveries, copies]
      exact (List.append_nil _).symm

theorem vertexFs_read {offset maxLen : Nat} (destination : Nat)
    (backing : node.backing = .vertexFsFile index)
    (backed : runtime.VertexFsBacked index) (fits : offset ≤ maxVertexFsFileBytes)
    (short : maxLen ≤ maxVertexFsFileBytes) :
    Ends (fun ended => ended.1 = .error .vfsNoSpace ∨ runtime.Takes
        (vertexFsStep machine runtime.currentProcessId (runtime.vertexFsView index)
          (.read offset destination maxLen)) ended ∧ ended.2.VertexFsBacked index ∧
      ended.2.vertexFsView index = runtime.vertexFsView index)
      (vfsReadNode machine node offset destination maxLen) runtime := by
  unfold vfsReadNode
  refine .get_bind ?_
  rw [backing]
  unfold readVertexFsOut
  set data := (runtime.vertexFsView index).part offset maxLen with isData
  have length : min ((runtime.vfs.vertexfs.files index).len -
      min offset (runtime.vfs.vertexfs.files index).len) maxLen = data.length := by
    simp [isData, FileView.part, vertexFsView, VertexFsState.view, readBytes_length]
  have step : vertexFsStep machine runtime.currentProcessId (runtime.vertexFsView index)
      (.read offset destination maxLen) =
      if data = [] then ⟨.ok (0, offset), [], runtime.vertexFsView index⟩
      else .ofRead machine runtime.currentProcessId (runtime.vertexFsView index) offset
        destination data := rfl
  refine .get_bind ?_
  dsimp only
  rw [length, step]
  have reads := fun copied => backed.backs.read copied fits short
  change ∀ copied, Ends (fun ended => _ ∨ ended.1 = (if copied = true ∨ data = [] then
    .ok (data, offset + data.length) else _) ∧ _) _ _ at reads
  refine ends_onVertexFs_bind (reads _) ?_ ?_
  · rintro error after (refused | ⟨answer, backs, sameView⟩)
    · cases refused
      exact .inl rfl
    · dsimp only at answer
      split at answer
      · cases answer
      · rename_i refused
        cases answer
        simp only [not_or] at refused
        rw [if_neg refused.2, FileStep.ofRead, if_neg refused.1]
        exact .inr ⟨⟨rfl, (List.append_nil _).symm, rfl⟩, ⟨backs, backed.named⟩, sameView⟩
  · rintro value after (refused | ⟨answer, backs, sameView⟩)
    · cases refused
    · dsimp only at answer
      split at answer
      · rename_i accepted
        cases answer
        dsimp only
        refine .ite (fun nothing => .pure (.inr ⟨⟨?_, ?_, rfl⟩, ⟨backs, backed.named⟩,
          sameView⟩)) fun some => ?_
        · rw [if_pos nothing, nothing]
          rfl
        · rw [if_pos nothing]
          exact (List.append_nil _).symm
        · have writable := accepted.resolve_right some
          rw [if_neg some, FileStep.ofRead, if_pos writable]
          have copied := (exec_copyOut machine destination data
            (runtime.updateVfs fun vfs => { vfs with vertexfs := after })).trans (if_pos writable)
          refine .bind (fun error other run => ?_) fun _ other run => ?_
          all_goals cases copied.symm.trans run
          exact .pure (.inr ⟨⟨rfl, deliveries_append .., rfl⟩, ⟨backs, backed.named⟩, sameView⟩)
      · cases answer

end VertexFs

section

variable (machine : Machine) {operation : FileOperation}

@[simp]
theorem FileStep.ofRead_view (machine : Machine) (pid : ProcessId) (view : FileView)
    (offset destination : Nat) (data : Bytes) :
    (FileStep.ofRead machine pid view offset destination data).view = view := by
  unfold FileStep.ofRead
  split <;> rfl

theorem memory_step (backing : node.backing = .memoryFile index)
    (backed : runtime.MemoryBacked index) (confined : operation.Confined) :
    Ends (fun ended => runtime.Takes
        (memoryStep machine runtime.currentProcessId (runtime.memoryView index) operation) ended ∧
      ended.2.MemoryBacked index ∧ ended.2.memoryView index =
        (memoryStep machine runtime.currentProcessId (runtime.memoryView index) operation).view)
      (operation.perform machine node) runtime := by
  cases operation with
  | write offset data => exact memory_write machine backing backed confined
  | truncate len => exact memory_truncate machine backing backed confined
  | read offset destination maxLen =>
    have sameView : (memoryStep machine runtime.currentProcessId (runtime.memoryView index)
        (.read offset destination maxLen)).view = runtime.memoryView index :=
      FileStep.ofRead_view ..
    rw [sameView]
    exact memory_read machine destination backing backed confined.1 confined.2

theorem vertexFs_step (backing : node.backing = .vertexFsFile index)
    (backed : runtime.VertexFsBacked index) (confined : operation.Confined) :
    Ends (fun ended => ended.1 = .error .vfsNoSpace ∨ runtime.Takes
        (vertexFsStep machine runtime.currentProcessId (runtime.vertexFsView index) operation)
        ended ∧
      ended.2.VertexFsBacked index ∧ ended.2.vertexFsView index =
        (vertexFsStep machine runtime.currentProcessId (runtime.vertexFsView index) operation).view)
      (operation.perform machine node) runtime := by
  cases operation with
  | write offset data => exact vertexFs_write machine backing backed confined
  | truncate len => exact vertexFs_truncate machine backing backed confined
  | read offset destination maxLen =>
    have sameView : (vertexFsStep machine runtime.currentProcessId (runtime.vertexFsView index)
        (.read offset destination maxLen)).view = runtime.vertexFsView index := by
      simp only [vertexFsStep]
      split
      · rfl
      · exact FileStep.ofRead_view ..
    rw [sameView]
    exact vertexFs_read machine destination backing backed confined.1 confined.2

/-- The operation shows nothing that a memory file keeps behind its end. -/
def FileOperation.Harmless (machine : Machine) (pid : ProcessId) (view : FileView) :
    FileOperation → Prop
  | .write offset data => (data = [] → offset ≤ view.len) ∧ view.ZeroUpTo offset
  | .truncate len => view.ZeroUpTo len
  | .read offset destination maxLen =>
    view.part offset maxLen = [] → machine.writable pid destination 0 = true

theorem step_agrees_iff {view other : FileView} (pid : ProcessId) (operation : FileOperation)
    (same : view.Same other) (cleared : other.Cleared) :
    ((memoryStep machine pid view operation).answer =
        (vertexFsStep machine pid other operation).answer ∧
      (memoryStep machine pid view operation).delivered =
        (vertexFsStep machine pid other operation).delivered ∧
      (memoryStep machine pid view operation).view.Same
        (vertexFsStep machine pid other operation).view) ↔ operation.Harmless machine pid view := by
  cases operation with
  | write offset data =>
    simp only [memoryStep, vertexFsStep, FileOperation.Harmless, true_and]
    exact same.overwrite_iff cleared
  | truncate len =>
    simp only [memoryStep, vertexFsStep, FileOperation.Harmless, true_and]
    exact same.resize_iff
  | read offset destination maxLen =>
    simp only [memoryStep, vertexFsStep, FileOperation.Harmless, ← same.part]
    by_cases nothing : view.part offset maxLen = []
    · by_cases writable : machine.writable pid destination 0 = true
      · simp [nothing, FileStep.ofRead, writable, same]
      · simp [nothing, FileStep.ofRead, writable]
    · rw [if_neg nothing]
      simp only [nothing, false_implies, iff_true, FileStep.ofRead_view]
      refine ⟨?_, ?_, same⟩
      all_goals
        unfold FileStep.ofRead
        split <;> rfl

end

section

variable (machine : Machine) (memoryNode vertexFsNode : VfsNode) (memory vertexFs : Nat)

/-- The program sees the same file, and has seen the same bytes. -/
def SameFile (left right : RuntimeState) : Prop :=
  (left.memoryView memory).Same (right.vertexFsView vertexFs) ∧
    left.deliveries = right.deliveries

/-- The operations get the same answers and leave the same file, all along. -/
def AgreeAlong : List FileOperation → RuntimeState → RuntimeState → Prop
  | [], left, right => SameFile memory vertexFs left right
  | operation :: rest, left, right =>
    SameFile memory vertexFs left right ∧
    (exec (operation.perform machine memoryNode) left).1 =
      (exec (operation.perform machine vertexFsNode) right).1 ∧
    AgreeAlong rest (exec (operation.perform machine memoryNode) left).2
      (exec (operation.perform machine vertexFsNode) right).2

/-- Each operation is harmless where the memory file stands when it comes. -/
def HarmlessAlong : List FileOperation → RuntimeState → Prop
  | [], _ => True
  | operation :: rest, left =>
    operation.Harmless machine left.currentProcessId (left.memoryView memory) ∧
    HarmlessAlong rest (exec (operation.perform machine memoryNode) left).2

/-- The page cache refuses none of the operations. -/
def AdmittedAlong : List FileOperation → RuntimeState → Prop
  | [], _ => True
  | operation :: rest, right =>
    (exec (operation.perform machine vertexFsNode) right).1 ≠ .error .vfsNoSpace ∧
    AdmittedAlong rest (exec (operation.perform machine vertexFsNode) right).2

/-- The two kernels hold the same file for the same process, each in its backing. -/
structure Mirrors (left right : RuntimeState) : Prop where
  memoryBacked : left.MemoryBacked memory
  vertexFsBacked : right.VertexFsBacked vertexFs
  sameFile : SameFile memory vertexFs left right
  samePid : left.currentProcessId = right.currentProcessId

variable {machine memoryNode vertexFsNode memory vertexFs} {left right : RuntimeState}
  {operations : List FileOperation}

theorem AgreeAlong.sameFile
    (agree : AgreeAlong machine memoryNode vertexFsNode memory vertexFs operations left right) :
    SameFile memory vertexFs left right := by
  cases operations with
  | nil => exact agree
  | cons operation rest => exact agree.1

/-- A memory file and a VertexFS file with the same bytes stay alike exactly as long as no
operation shows what the memory file keeps behind its end. -/
theorem agreeAlong_iff_harmlessAlong (isMemory : memoryNode.backing = .memoryFile memory)
    (isVertexFs : vertexFsNode.backing = .vertexFsFile vertexFs)
    (mirrors : Mirrors memory vertexFs left right)
    (confined : ∀ operation ∈ operations, FileOperation.Confined operation)
    (admitted : AdmittedAlong machine vertexFsNode operations right) :
    AgreeAlong machine memoryNode vertexFsNode memory vertexFs operations left right ↔
      HarmlessAlong machine memoryNode memory operations left := by
  induction operations generalizing left right with
  | nil => exact ⟨fun _ => trivial, fun _ => mirrors.sameFile⟩
  | cons operation rest ih =>
    obtain ⟨notRefused, admitted⟩ := admitted
    have onMemory := memory_step machine isMemory mirrors.memoryBacked
      (confined operation (by simp))
    have onVertexFs := vertexFs_step machine isVertexFs mirrors.vertexFsBacked
      (confined operation (by simp))
    unfold Ends at onMemory onVertexFs
    obtain ⟨takes, memoryBacked, memoryView⟩ := onMemory
    obtain ⟨takes', vertexFsBacked, vertexFsView⟩ := onVertexFs.resolve_left notRefused
    rw [← mirrors.samePid] at takes' vertexFsView
    have agrees := step_agrees_iff machine left.currentProcessId operation mirrors.sameFile.1
      mirrors.vertexFsBacked.backs.cleared
    have nextSame : SameFile memory vertexFs (exec (operation.perform machine memoryNode) left).2
        (exec (operation.perform machine vertexFsNode) right).2 ↔
        (memoryStep machine left.currentProcessId (left.memoryView memory) operation).delivered =
          (vertexFsStep machine left.currentProcessId (right.vertexFsView vertexFs)
            operation).delivered ∧
        (memoryStep machine left.currentProcessId (left.memoryView memory) operation).view.Same
          (vertexFsStep machine left.currentProcessId (right.vertexFsView vertexFs)
            operation).view := by
      rw [SameFile, memoryView, vertexFsView, takes.delivered, takes'.delivered,
        mirrors.sameFile.2, List.append_cancel_left_eq, and_comm]
    have samePid : (exec (operation.perform machine memoryNode) left).2.currentProcessId =
        (exec (operation.perform machine vertexFsNode) right).2.currentProcessId := by
      rw [takes.filesOnly.currentProcessId, takes'.filesOnly.currentProcessId, mirrors.samePid]
    constructor
    · rintro ⟨-, answers, along⟩
      have harmless := agrees.mp
        ⟨takes.answer.symm.trans (answers.trans takes'.answer), nextSame.mp along.sameFile⟩
      exact ⟨harmless, (ih ⟨memoryBacked, vertexFsBacked, along.sameFile, samePid⟩
        (fun other member => confined other (by simp [member])) admitted).mp along⟩
    · rintro ⟨harmless, along⟩
      obtain ⟨answers, sameRest⟩ := agrees.mpr harmless
      exact ⟨mirrors.sameFile, takes.answer.trans (answers.trans takes'.answer.symm),
        (ih ⟨memoryBacked, vertexFsBacked, nextSame.mpr sameRest, samePid⟩
          (fun other member => confined other (by simp [member])) admitted).mpr along⟩

end

def openMachine : Machine := .holding []

def fileNode (backing : VfsBacking) : VfsNode where
  id := ⟨Nat.succPNat 0⟩
  name := .empty
  parent := none
  kind := .regularFile
  backing := backing
  mountSource := ""
  metadataVersion := 0

def memoryKernel : RuntimeState :=
  new.updateVfs fun vfs =>
    { vfs with nodes := [some (fileNode (.memoryFile 0))], memFileCount := 1 }

def vertexFsKernel : RuntimeState :=
  new.updateVfs fun vfs =>
    { vfs with
      nodes := [some (fileNode (.vertexFsFile 0))]
      vertexfs := { vfs.vertexfs with fileCount := 1 } }

theorem mirrors_empty : Mirrors 0 0 memoryKernel vertexFsKernel := by
  refine ⟨⟨by decide, by decide⟩, ⟨⟨by decide, ⟨?_, nofun, nofun⟩, fun _ _ => rfl, ?_⟩, by decide⟩,
    ⟨⟨rfl, nofun⟩, rfl⟩, rfl⟩
  · exact fun _ => Nat.zero_le _
  · exact fun _ _ => rfl

/-- Write two bytes, cut the file to nothing, and write one byte behind the first. -/
def cutAndGrow : List FileOperation :=
  [.write 0 [7, 7], .truncate 0, .write 1 [9], .read 0 0 2]

/-- The byte before the last write is the old one in memory and zero in VertexFS. -/
theorem memory_shows_cut_byte :
    (cutAndGrow.foldl (fun runtime operation =>
        (exec (operation.perform openMachine (fileNode (.memoryFile 0))) runtime).2)
      memoryKernel).deliveries.map UserCopy.bytes = [[7, 9]] ∧
    (cutAndGrow.foldl (fun runtime operation =>
        (exec (operation.perform openMachine (fileNode (.vertexFsFile 0))) runtime).2)
      vertexFsKernel).deliveries.map UserCopy.bytes = [[0, 9]] := by
  decide +kernel

/-- Write two bytes, cut one off, write over it, grow the file by two and read it. -/
def cutAndCover : List FileOperation :=
  [.write 0 [7, 7], .truncate 1, .write 1 [9], .truncate 4, .read 0 0 4]

theorem agreeAlong_iff_harmlessAlong_cutAndCover :
    AgreeAlong openMachine (fileNode (.memoryFile 0)) (fileNode (.vertexFsFile 0)) 0 0
      cutAndCover memoryKernel vertexFsKernel := by
  have admitted : AdmittedAlong openMachine (fileNode (.vertexFsFile 0)) cutAndCover
      vertexFsKernel := by
    unfold cutAndCover
    refine ⟨?_, ?_, ?_, ?_, ?_, trivial⟩ <;> decide +kernel
  have confined : ∀ operation ∈ cutAndCover, operation.Confined := by
    simp [cutAndCover, FileOperation.Confined, maxVfsMemFileBytes]
  refine (agreeAlong_iff_harmlessAlong rfl rfl mirrors_empty confined admitted).mpr
    ⟨⟨nofun, ?_⟩, ?_, ⟨nofun, ?_⟩, ?_, fun _ => rfl, trivial⟩
  -- what the memory file holds behind its end, up to where each operation reaches
  all_goals
    intro cursor
    rw [imp.swap]
    revert cursor
    decide +kernel

end VertexOS
