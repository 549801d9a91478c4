import VertexOS.CapabilityCreation
import VertexOS.QueueFrames

/-!
# System calls that leave an endpoint of the boot alone

Such a call leaves the queue alone as long as the kernel sends no requests there.
-/

namespace VertexOS

open ByteStrings ByteImages FailingCalls SlotTables RuntimeState ObjectTable

variable {endpoint : KernelObjectId} {runtime : RuntimeState} {machine : Machine}

theorem evolves_of_apart {ε α : Type} {call : Call ε RuntimeState α}
    (inner : runtime.Apart endpoint → Evolves (Bypasses endpoint) call runtime) :
    Evolves (Bypasses endpoint) call runtime :=
  fun apart => inner apart apart

theorem bypasses_of_eq {ε α : Type} {call : Call ε RuntimeState α} (reads : Always Eq call) :
    Always (Bypasses endpoint) call :=
  ⟨fun runtime => by
    have same : runtime = (exec call runtime).2 := reads.evolves runtime
    rw [Evolves, ← same]
    exact .refl runtime⟩

theorem bypasses_answer (value : Nat) : Always (Bypasses endpoint) (answer value) :=
  .modify fun _ => .of_same rfl rfl rfl rfl

theorem bypasses_copyOut (machine : Machine) (destination : Nat) (bytes : Bytes) :
    Always (Bypasses endpoint) (copyOut machine destination bytes) :=
  .get_bind fun _ => .fromOption_bind fun _ copies => .set (bypasses_copyToUser copies)

theorem bypasses_updateVfs (change : VfsState → VfsState) :
    Always (Bypasses endpoint)
      (modify fun runtime => runtime.updateVfs change : KernelCall PUnit) :=
  .modify fun _ => .updateVfs change

theorem bypasses_updateVfsOr (change : VfsState → Except IpcError VfsState) :
    Always (Bypasses endpoint) (updateVfsOr change) :=
  .get_bind fun _ => .fromExcept_bind fun _ _ => .set (.of_same rfl rfl rfl rfl)

theorem bypasses_onVertexFs {α : Type} (call : VertexFsCall α) :
    Always (Bypasses endpoint) (onVertexFs call) :=
  ⟨fun runtime => by
    rw [Evolves, onVertexFs, exec_onPart]
    exact .of_same rfl rfl rfl rfl⟩

theorem bypasses_onVfs {α : Type} (call : Call IpcError VfsState α) :
    Always (Bypasses endpoint) (onVfs call) :=
  ⟨fun runtime => by
    rw [Evolves, onVfs, exec_onPart]
    exact .of_same rfl rfl rfl rfl⟩

theorem bypasses_setOffset (description : FileDescriptionId) (offset : Nat) :
    Always (Bypasses endpoint) (setOffset description offset) :=
  .get_bind fun _ => .require_bind fun _ => (bypasses_updateVfs _).evolves _

theorem bypasses_recordEvent (parent : VfsNodeId) (kind : VfsEventKind) (name : VfsName) :
    Always (Bypasses endpoint) (recordEvent parent kind name) :=
  bypasses_updateVfs _

theorem bypasses_touchBacking (backing : VfsBacking) :
    Always (Bypasses endpoint) (touchBacking backing) := by
  unfold touchBacking
  split
  · exact bypasses_updateVfsOr _
  · exact bypasses_updateVfsOr _
  · exact .pure _

section

variable (machine : Machine) (node : VfsNode) (handle destination maxLen : Nat)

theorem bypasses_wakeBlockedVfsPipeRead (runtime : RuntimeState) (machine : Machine)
    (bytes : Bytes) :
    Bypasses endpoint runtime (runtime.wakeBlockedVfsPipeRead machine bytes).2 := by
  unfold wakeBlockedVfsPipeRead
  split
  · exact .refl runtime
  split
  · exact .refl runtime
  split
  · dsimp only
    split
    · rename_i copies
      exact (bypasses_copyToUser copies).trans (.wakeAt _ _)
    · exact .wakeAt _ _
  · exact .refl runtime

theorem bypasses_vfsWriteNode (offset : Nat) (bytes : Bytes) :
    Always (Bypasses endpoint) (vfsWriteNode machine node offset bytes) := by
  unfold vfsWriteNode
  split
  · exact .bind (.require ..) fun _ => .get_bind fun _ => .require_bind fun _ =>
      .modify_bind (.updateVfs _) <| (bypasses_updateVfsOr _).evolves_bind fun _ _ => .pure _
  · exact .get_bind fun _ => (bypasses_onVertexFs _).evolves_bind fun _ _ =>
      (bypasses_updateVfsOr _).evolves_bind fun _ _ =>
      .pure _
  · refine .bind (.require ..) fun _ => .get_bind fun runtime =>
      .set_bind (bypasses_wakeBlockedVfsPipeRead runtime machine bytes) ?_
    exact .ite (fun _ => .pure _) fun _ => .require_bind fun _ => .modify_bind (.updateVfs _) (.pure _)
  · exact .throw _

theorem bypasses_vfsTruncateNode (len : Nat) :
    Always (Bypasses endpoint) (vfsTruncateNode node len) := by
  unfold vfsTruncateNode
  split
  · exact .bind (.require ..) fun _ => .get_bind fun _ => .require_bind fun _ =>
      .modify_bind (.updateVfs _) ((bypasses_updateVfsOr _).evolves _)
  · exact .get_bind fun _ => (bypasses_onVertexFs _).evolves_bind fun _ _ =>
      (bypasses_updateVfsOr _).evolves _
  · exact .throw _

theorem bypasses_readOut (destination offset maxLen : Nat) (bytes : Bytes) :
    Always (Bypasses endpoint) (readOut machine destination offset maxLen bytes) :=
  .bind (bypasses_copyOut ..) fun _ => .bind (.require ..) fun _ => .pure _

theorem bypasses_vfsReadNode (offset destination maxLen : Nat) :
    Always (Bypasses endpoint) (vfsReadNode machine node offset destination maxLen) := by
  refine .get_bind fun runtime => ?_
  split
  · exact .fromOption_bind fun _ _ => .fromOption_bind fun _ _ => (bypasses_readOut ..).evolves _
  · exact .require_bind fun _ => (bypasses_readOut ..).evolves _
  · refine .get_bind <| .bind ((bypasses_onVertexFs _).evolves _) ?_
    rintro ⟨bytes, next⟩ middle _
    exact .ite (fun _ => .pure _) fun _ => (bypasses_copyOut ..).evolves_bind fun _ _ => .pure _
  · exact (bypasses_readOut ..).evolves _
  · exact .throw _

theorem bypasses_readPipe (node : VfsNodeId) (description : FileDescriptionId)
    (destination maxLen : Nat) :
    Always (Bypasses endpoint) (readPipe machine node description destination maxLen) := by
  refine .ite (bypasses_answer 0) (.bind
    (bypasses_of_eq (always_eq_requireWritable ..)) fun _ => .get_bind fun runtime =>
    .ite (fun _ => ?_) fun _ => ?_)
  · exact .set_bind (runtime.bypasses_blockCurrent machine id id) ((Always.require ..).evolves _)
  · exact (bypasses_copyOut ..).evolves_bind fun _ _ =>
      .modify_bind (.updateVfs _) ((bypasses_answer _).evolves _)

theorem bypasses_vfsSeek (handle offset whence : Nat) :
    Always (Bypasses endpoint) (vfsSeek handle offset whence) := by
  refine .get_bind fun _ => .fromExcept_bind ?_
  rintro ⟨description, node⟩ _
  exact .fromExcept_bind fun _ _ => .fromExcept_bind fun _ _ => .require_bind fun _ =>
    (bypasses_setOffset ..).evolves_bind fun _ _ => .pure _

theorem bypasses_vfsReaddir :
    Always (Bypasses endpoint) (vfsReaddir machine handle destination maxLen) := by
  refine .bind (.require ..) fun _ => .bind (bypasses_of_eq (always_eq_openDirectory _)) ?_
  rintro ⟨description, node⟩
  refine .get_bind fun _ => ?_
  split
  · exact .pure _
  · exact (bypasses_copyOut ..).evolves_bind fun _ _ =>
      (bypasses_setOffset ..).evolves_bind fun _ _ => .pure _

theorem bypasses_vfsWatch :
    Always (Bypasses endpoint) (vfsWatch machine handle destination maxLen) := by
  refine .bind (.require ..) fun _ => .bind (bypasses_of_eq (always_eq_openDirectory _)) ?_
  rintro ⟨description, node⟩
  refine .get_bind fun _ => ?_
  split
  · exact .pure _
  · exact (bypasses_copyOut ..).evolves_bind fun _ _ => .get_bind <| .require_bind fun _ =>
        .modify_bind (.updateVfs _) (.pure _)

theorem bypasses_vfsLock (handle : Nat) (flags : BitVec 64) (packedRange : Nat) :
    Always (Bypasses endpoint) (vfsLock handle flags packedRange) := by
  refine .bind (.fromExcept _) ?_
  rintro ⟨mode, start, len⟩
  refine .get_bind fun _ => .fromExcept_bind ?_
  rintro ⟨description, node⟩ _
  exact .require_bind fun _ => .require_bind fun _ => (bypasses_updateVfsOr _).evolves _

theorem bypasses_vfsUnlock (handle : Nat) : Always (Bypasses endpoint) (vfsUnlock handle) := by
  refine .get_bind fun _ => .fromExcept_bind ?_
  rintro ⟨description, node⟩ _
  exact .get_bind <| .require_bind fun _ => (bypasses_updateVfs _).evolves _

end

section

variable {description : FileDescriptionId} (handle : Nat)

theorem pid_of_openFileHandle {process opened : Process} {handle : Nat}
    (opens : process.openFileHandle description = .ok (handle, opened)) :
    opened.pid = process.pid ∧ opened.state = process.state := by
  unfold Process.openFileHandle at opens
  split at opens
  · cases opens
  · cases opens
    exact ⟨rfl, rfl⟩

theorem pid_of_closeFileHandle {process closed : Process} {raw : Nat}
    (closes : process.closeFileHandle raw = .ok (description, closed)) :
    closed.pid = process.pid ∧ closed.state = process.state := by
  unfold Process.closeFileHandle at closes
  cases found : process.fileHandle raw with
  | error => rw [found] at closes; cases closes
  | ok slot =>
    rw [found] at closes
    cases closes
    exact ⟨rfl, rfl⟩

theorem bypasses_replaceCurrent {process opened : Process}
    (isCurrent : runtime.processes.currentProcess = some process)
    (same : opened.pid = process.pid ∧ opened.state = process.state) (vfs : VfsState) :
    Bypasses endpoint runtime ({ runtime with vfs }.updateCurrent fun _ => opened) := by
  have replaced : Bypasses endpoint { runtime with vfs }
      ({ runtime with vfs }.updateCurrent fun _ => opened) :=
    .of_pointwise <| ProcessTable.pointwise_updateCurrent fun other isOther => by
      obtain rfl : process = other := Option.some.inj (isCurrent.symm.trans isOther)
      exact .of_state same.1 same.2
  have files : Bypasses endpoint runtime { runtime with vfs } := .of_same rfl rfl rfl rfl
  exact files.trans replaced

theorem bypasses_openHandle (node : VfsNodeId) (rights : Rights) (flags : BitVec 64)
    (authorityCapId : Nat) :
    Always (Bypasses endpoint) (openHandle node rights flags authorityCapId) := by
  refine .get_bind fun runtime => .fromExcept_bind ?_
  rintro ⟨description, vfs⟩ _
  rw [Evolves, exec_bind, exec_attempt]
  cases isCurrent : runtime.processes.currentProcess with
  | none => exact .of_same rfl rfl rfl rfl
  | some process =>
    rw [exec_bind, exec_fromOption]
    dsimp only [Option.elim]
    rw [exec_fromExcept]
    cases opens : process.openFileHandle description with
    | error => exact .of_same rfl rfl rfl rfl
    | ok opened => exact bypasses_replaceCurrent isCurrent (pid_of_openFileHandle opens) vfs

theorem bypasses_closeHandle (description : FileDescriptionId) (runtime : RuntimeState) :
    Bypasses endpoint runtime (closeHandle handle description runtime) := by
  refine (Bypasses.updateCurrent fun process => ?_).trans (.updateVfs _)
  cases closes : process.closeFileHandle handle with
  | error => exact refl_of _ process
  | ok closed =>
    obtain ⟨pid, state⟩ := pid_of_closeFileHandle closes
    exact .of_state pid state

theorem bypasses_truncateOpened (node : VfsNode) (created : Option VfsNode) (handle : Nat)
    (description : FileDescriptionId) :
    Always (Bypasses endpoint) (truncateOpened node created handle description) := by
  refine .bind (.attempt (bypasses_vfsTruncateNode ..)) fun outcome => ?_
  cases outcome with
  | ok => exact .pure _
  | error =>
    exact .bind (.modify fun runtime => bypasses_closeHandle handle description runtime)
      fun _ => .bind (bypasses_updateVfs _) fun _ => .throw _

theorem bypasses_vfsOpenNode (node : VfsNode) (created : Option VfsNode)
    (available : Rights) (flags : BitVec 64) (cap : Capability) :
    Always (Bypasses endpoint) (vfsOpenNode node created available flags cap) := by
  refine .bind (.attempt (.get_bind fun _ => .fromExcept_bind fun _ _ =>
    (bypasses_openHandle ..).evolves _)) fun outcome => ?_
  cases outcome with
  | error => exact .bind (bypasses_updateVfs _) fun _ => .throw _
  | ok opened =>
  obtain ⟨handle, description⟩ := opened
  dsimp only
  split
  · refine .bind (bypasses_truncateOpened ..) fun _ => ?_
    split
    · exact .bind (bypasses_updateVfs _) fun _ => .pure _
    · exact .pure _
  · split
    · exact .bind (bypasses_updateVfs _) fun _ => .pure _
    · exact .pure _

theorem bypasses_vfsClose : Always (Bypasses endpoint) (vfsClose handle) := by
  refine .get_bind fun runtime => .fromOption_bind fun process isCurrent => .fromExcept_bind ?_
  rintro ⟨description, closed⟩ closes
  exact .set_bind (bypasses_replaceCurrent isCurrent (pid_of_closeFileHandle closes) _)
    ((bypasses_updateVfsOr _).evolves _)

theorem bypasses_vfsDup (flags : BitVec 64) : Always (Bypasses endpoint) (vfsDup handle flags) := by
  refine .bind (.require ..) fun _ => .get_bind fun runtime =>
    .fromOption_bind fun process isCurrent => .fromExcept_bind ?_
  rintro ⟨_, id⟩ _
  refine .fromOption_bind fun description _ => .require_bind fun _ => .fromExcept_bind ?_
  rintro ⟨dup, vfs⟩ _
  dsimp only
  split
  · exact .set_bind (.of_same rfl rfl rfl rfl) (.throw _)
  · rename_i opens
    exact .set_bind (bypasses_replaceCurrent isCurrent (pid_of_openFileHandle opens) vfs) (.pure _)

end

section

variable (machine : Machine) (capSlot path packedLenFlags : Nat)

theorem bypasses_vfsCreateMemoryFileNode (cap : Capability) (path : Bytes)
    (requiredFileRights : Rights) :
    Always (Bypasses endpoint) (vfsCreateMemoryFileNode cap path requiredFileRights) := by
  refine .get_bind fun _ => .fromExcept_bind fun _ _ => .fromExcept_bind ?_
  rintro ⟨parentPath, childName⟩ _
  refine .fromExcept_bind fun _ _ => .fromExcept_bind fun _ _ => .require_bind fun _ =>
    .fromOption_bind fun _ _ => .require_bind fun _ => .require_bind fun _ => .fromExcept_bind ?_
  rintro ⟨backing, vfs⟩ _
  exact .set_bind (.of_same rfl rfl rfl rfl) ((bypasses_onVfs _).evolves_bind fun _ _ => .pure _)

theorem bypasses_vfsOpenTarget (cap : Capability) (path : Bytes) (flags : BitVec 64) :
    Always (Bypasses endpoint) (vfsOpenTarget cap path flags) := by
  refine .get_bind fun _ => ?_
  split
  · exact .pure _
  refine .ite (fun _ => .fromExcept_bind fun _ _ =>
    .bind ((bypasses_vfsCreateMemoryFileNode ..).evolves _) ?_)
    fun _ => .throw _
  rintro ⟨node, available⟩ _ _
  exact .pure _

theorem bypasses_vfsOpen :
    Always (Bypasses endpoint) (vfsOpen machine capSlot path packedLenFlags) := by
  refine .bind (.require ..) fun _ => .bind (.require ..) fun _ => .bind (.require ..) fun _ =>
    .bind (bypasses_of_eq (always_eq_copyFromUser ..)) fun _ => .get_bind fun _ =>
    .fromExcept_bind fun _ _ => ?_
  dsimp only
  split
  · exact .fromExcept_bind fun _ _ => .require_bind fun _ =>
      (bypasses_vfsOpenTarget ..).evolves_bind fun _ _ => (bypasses_vfsOpenNode ..).evolves _
  · exact (bypasses_vfsOpenTarget ..).evolves_bind fun _ _ => (bypasses_vfsOpenNode ..).evolves _

theorem bypasses_recordAt (parent : Option VfsNodeId) (kind : VfsEventKind) (name : VfsName) :
    Always (Bypasses endpoint) (match parent with
      | some parent => recordEvent parent kind name
      | none => pure ()) := by
  cases parent with
  | some => exact bypasses_recordEvent ..
  | none => exact .pure _

theorem bypasses_vfsCreate :
    Always (Bypasses endpoint) (vfsCreate machine capSlot path packedLenFlags) := by
  refine .bind (.require ..) fun _ =>
    .bind (bypasses_of_eq (always_eq_copyFromUser ..)) fun _ => .get_bind fun _ =>
    .fromExcept_bind fun _ _ => .require_bind fun _ =>
    .reading_bind (always_eq_rootCapability _) fun _ _ =>
    .bind ((bypasses_vfsCreateMemoryFileNode ..).evolves _) ?_
  rintro ⟨node, _⟩ _ _
  exact (bypasses_recordAt ..).evolves _

theorem bypasses_unlinkNode (node : VfsNode) : Always (Bypasses endpoint) (unlinkNode node) := by
  refine .get_bind fun _ => .ite (fun _ => ?_) fun _ => ?_
  · exact (bypasses_updateVfsOr _).evolves_bind fun _ _ => (bypasses_touchBacking _).evolves _
  · exact (bypasses_updateVfsOr _).evolves_bind fun _ _ =>
      .get_bind <| .ite (fun _ => (bypasses_touchBacking _).evolves _)
        fun _ => (bypasses_updateVfs _).evolves _

theorem bypasses_vfsUnlink (capSlot path pathLen : Nat) :
    Always (Bypasses endpoint) (vfsUnlink machine capSlot path pathLen) :=
  .bind (.require ..) fun _ => .bind (bypasses_of_eq (always_eq_copyFromUser ..)) fun _ =>
    .get_bind fun _ => .fromExcept_bind fun _ _ => .require_bind fun _ =>
    .reading_bind (always_eq_rootCapability _) fun _ _ => .fromExcept_bind fun _ _ =>
    .require_bind fun _ => .fromOption_bind fun _ _ => .require_bind fun _ => .require_bind fun _ =>
    (bypasses_unlinkNode _).evolves_bind fun _ _ => (bypasses_recordAt ..).evolves _

theorem bypasses_vfsRename (capSlot request requestLen : Nat) :
    Always (Bypasses endpoint) (vfsRename machine capSlot request requestLen) := by
  refine .bind (bypasses_of_eq (always_eq_twoPathRequest ..)) ?_
  rintro ⟨oldRequested, newRequested⟩
  refine .get_bind fun _ => .fromExcept_bind fun _ _ => .fromExcept_bind fun _ _ =>
    .require_bind fun _ => .fromExcept_bind ?_
  rintro ⟨oldParentPath, _⟩ _
  refine .fromExcept_bind ?_
  rintro ⟨newParentPath, childName⟩ _
  refine .fromExcept_bind fun newName _ => .reading_bind (always_eq_rootCapability _) fun _ _ =>
    .fromExcept_bind fun _ _ => .fromExcept_bind fun _ _ => .require_bind fun _ =>
    .fromOption_bind fun _ _ => .fromOption_bind fun newParent _ => .require_bind fun _ =>
    .reading_bind (always_eq_fileNodeAt _) fun node _ =>
    .reading_bind (always_eq_requireOneMount ..) fun _ _ => .require_bind fun _ =>
    (bypasses_updateVfsOr _).evolves_bind fun _ middle => ?_
  have records (middle : RuntimeState) :
      Evolves (Bypasses endpoint) (recordEvent newParent.id .rename newName) middle :=
    (bypasses_recordEvent ..).evolves _
  split
  · exact .get_bind <| .ite (fun _ => (bypasses_touchBacking _).evolves_bind fun _ _ => records _)
      fun _ => records _
  · exact (bypasses_touchBacking _).evolves_bind fun _ _ => records _

theorem bypasses_vfsLink (capSlot request requestLen : Nat) :
    Always (Bypasses endpoint) (vfsLink machine capSlot request requestLen) := by
  refine .bind (bypasses_of_eq (always_eq_twoPathRequest ..)) ?_
  rintro ⟨oldRequested, newRequested⟩
  refine .get_bind fun _ => .fromExcept_bind fun _ _ => .fromExcept_bind fun _ _ =>
    .require_bind fun _ => .fromExcept_bind ?_
  rintro ⟨oldParentPath, _⟩ _
  refine .fromExcept_bind ?_
  rintro ⟨newParentPath, childName⟩ _
  exact .fromExcept_bind fun _ _ => .reading_bind (always_eq_rootCapability _) fun _ _ =>
    .fromExcept_bind fun _ _ => .fromExcept_bind fun _ _ => .require_bind fun _ =>
    .reading_bind (always_eq_fileNodeAt _) fun _ _ => .fromOption_bind fun _ _ =>
    .require_bind fun _ => .reading_bind (always_eq_requireOneMount ..) fun _ _ =>
    .require_bind fun _ => (bypasses_updateVfsOr _).evolves_bind fun _ _ =>
    (bypasses_touchBacking _).evolves_bind fun _ _ =>
      (bypasses_recordEvent ..).evolves _

theorem bypasses_addDirectory (name : VfsName) (parent : VfsNodeId) (mountSource : String) :
    Always (Bypasses endpoint) (addDirectory name parent mountSource) := by
  refine .get_bind fun _ => .fromExcept_bind ?_
  rintro ⟨id, vfs⟩ _
  exact .set_bind (.of_same rfl rfl rfl rfl) (.pure _)

theorem bypasses_vfsMkdir :
    Always (Bypasses endpoint) (vfsMkdir machine capSlot path packedLenFlags) := by
  have creates (cap : Capability) (path : Bytes) :
      Always (Bypasses endpoint) (vfsCreateDirectoryNode cap path) := by
    refine .get_bind fun _ => .fromExcept_bind fun _ _ => .fromExcept_bind ?_
    rintro ⟨parentPath, childName⟩ _
    exact .fromExcept_bind fun _ _ => .fromExcept_bind fun _ _ => .require_bind fun _ =>
      .fromOption_bind fun _ _ => .require_bind fun _ => .require_bind fun _ =>
      (bypasses_addDirectory ..).evolves_bind fun _ _ =>
      .get_bind ((Always.fromOption ..).evolves _)
  exact .bind (.require ..) fun _ =>
    .bind (bypasses_of_eq (always_eq_copyFromUser ..)) fun _ => .get_bind fun _ =>
    .fromExcept_bind fun _ _ => .require_bind fun _ =>
    .reading_bind (always_eq_rootCapability _) fun _ _ => .bind ((creates ..).evolves _) fun _ _ _ =>
    (bypasses_recordAt ..).evolves _

theorem bypasses_vfsRmdir (capSlot path pathLen : Nat) :
    Always (Bypasses endpoint) (vfsRmdir machine capSlot path pathLen) := by
  refine .bind (.require ..) fun _ =>
    .bind (bypasses_of_eq (always_eq_copyFromUser ..)) fun _ => .get_bind fun _ =>
    .fromExcept_bind fun _ _ => .require_bind fun _ => .fromExcept_bind ?_
  rintro ⟨parentPath, _⟩ _
  exact .reading_bind (always_eq_rootCapability _) fun _ _ => .fromExcept_bind fun _ _ =>
    .require_bind fun _ => .fromOption_bind fun _ _ => .require_bind fun _ => .require_bind fun _ =>
    .require_bind fun _ => (bypasses_updateVfsOr _).evolves_bind fun _ _ =>
    (bypasses_recordAt ..).evolves _

end

theorem bypasses_addVfsMount {name source : String} {rootNode : VfsNodeId} {rootPath : VfsPath}
    {flags : BitVec 64} {dynamic : Bool} {owner : ProcessId} {id : KernelObjectId}
    {after : RuntimeState}
    (added : runtime.addVfsMount name rootNode rootPath source flags dynamic owner =
      .ok (id, after)) : Bypasses endpoint runtime after := by
  unfold RuntimeState.addVfsMount at added
  split at added
  · cases added
  · unfold ObjectTable.addVfsMount at added
    split at added
    · cases added
    · cases inserted : runtime.objects.insert InitError.objectTableFull
          (fun id => .vfsMount { id, name, rootNode, rootPath, source, flags, dynamic, owner })
          fun _ => rfl with
      | error => rw [inserted] at added; cases added
      | ok placed =>
        rw [inserted] at added
        cases added
        exact fun _ => ⟨rfl, rfl, .of_pointwise (.refl _), leaves_insert inserted⟩

theorem bypasses_addDynamicMount (name : String) (rootNode : VfsNodeId)
    (rootPath : VfsPath) (source : String) (flags : BitVec 64) :
    Always (Bypasses endpoint) (addDynamicMount name rootNode rootPath source flags) := by
  refine .get_bind fun _ => .fromExcept_bind ?_
  rintro ⟨_, after⟩ added
  exact .set (bypasses_addVfsMount (mapError_ok.mp added))

theorem bypasses_vfsMount (machine : Machine) (capSlot path packedLenFlags : Nat) :
    Always (Bypasses endpoint) (vfsMount machine capSlot path packedLenFlags) := by
  have binds (cap : Capability) (rootPath : VfsPath) (flags : BitVec 64) :
      Always (Bypasses endpoint) (vfsMountBindAt cap rootPath flags) :=
    .get_bind fun _ => .fromOption_bind fun _ _ => .fromOption_bind fun _ _ => .require_bind fun _ =>
      (bypasses_addDynamicMount ..).evolves _
  have makes (parent : VfsNodeId) (name : VfsName) (rootPath : VfsPath) (flags : BitVec 64) :
      Always (Bypasses endpoint) (vfsMountVolatileAt parent name rootPath flags) := by
    refine .bind (bypasses_addDirectory ..) fun node =>
      .bind (.attempt (bypasses_addDynamicMount ..)) fun outcome => ?_
    cases outcome with
    | ok => exact .pure _
    | error => exact .bind (bypasses_updateVfs _) fun _ => .throw _
  refine .bind (.require ..) fun _ => .bind (.require ..) fun _ =>
    .bind (bypasses_of_eq (always_eq_copyFromUser ..)) fun _ => .get_bind fun _ =>
    .fromExcept_bind fun _ _ => .fromExcept_bind ?_
  rintro ⟨parentPath, childName⟩ _
  exact .fromExcept_bind fun _ _ => .reading_bind (always_eq_rootCapability _) fun _ _ =>
    .fromExcept_bind fun _ _ => .require_bind fun _ => .fromOption_bind fun _ _ =>
    .require_bind fun _ => .require_bind fun _ => .ite (fun _ => (binds ..).evolves _) fun _ =>
    (makes ..).evolves _

theorem bypasses_removeMount (runtime : RuntimeState) (mount : VfsMountObject) (path : Bytes) :
    Bypasses endpoint runtime (runtime.removeMount mount path) := by
  have removes (removed : Option KernelObjectId × ObjectTable)
      (leaves : runtime.objects.Leaves endpoint removed.2) :
      Bypasses endpoint runtime (removed.1.elim { runtime with objects := removed.2 } fun id =>
        { runtime with objects := removed.2 }.removeVfsMountId id) := by
    cases removed.1 with
    | none => exact .of_objects leaves
    | some => exact fun _ => ⟨rfl, rfl, .of_pointwise (.refl _), leaves⟩
  unfold removeMount
  by_cases bind : mount.flags &&& vfsMountBind ≠ 0
  · rw [if_pos bind]
    exact removes _ (leaves_removeFirstDynamicMount _)
  · rw [if_neg bind]
    exact removes _ (leaves_removeFirstDynamicMount _)

theorem bypasses_vfsUnmount (machine : Machine) (capSlot path pathLen : Nat) :
    Always (Bypasses endpoint) (vfsUnmount machine capSlot path pathLen) := by
  refine .bind (.require ..) fun _ =>
    .bind (bypasses_of_eq (always_eq_copyFromUser ..)) fun _ => .get_bind fun _ =>
    .fromExcept_bind fun canonical _ => .reading_bind (always_eq_rootCapability _) fun _ _ =>
    .fromExcept_bind fun _ _ => .require_bind fun _ => .fromExcept_bind fun mount _ =>
    .require_bind fun _ => .require_bind fun _ => ?_
  have removes (middle : RuntimeState) : Evolves (Bypasses endpoint)
      (modify fun runtime => runtime.removeMount mount canonical.bytes : KernelCall PUnit) middle :=
    .modify (bypasses_removeMount middle mount canonical.bytes)
  split
  · exact (bypasses_updateVfsOr _).evolves_bind fun _ _ => removes _
  · exact removes _

theorem bypasses_removeOwnedBindMounts (runtime : RuntimeState) (owner : ProcessId)
    (dynamic : Bool) : Bypasses endpoint runtime (runtime.removeOwnedBindMounts owner dynamic) :=
  fun _ => ⟨rfl, rfl, .of_pointwise (.refl _), leaves_removeAll fun _ _ => rfl⟩

theorem bypasses_releaseUnreferencedDerivedVfsRoot (runtime : RuntimeState)
    (object : KernelObjectId) :
    Bypasses endpoint runtime (runtime.releaseUnreferencedDerivedVfsRoot object) := by
  unfold releaseUnreferencedDerivedVfsRoot
  split
  · exact .refl runtime
  · exact .of_objects (leaves_removeFirst fun _ _ => rfl)

theorem bypasses_releaseUnreferencedDerivedVfsRoots (runtime : RuntimeState) :
    Bypasses endpoint runtime runtime.releaseUnreferencedDerivedVfsRoots :=
  related_foldl bypasses_releaseUnreferencedDerivedVfsRoot _ runtime

theorem bypasses_onLedger {α : Type} (call : Call IpcError CapabilityLedger α) :
    Always (Bypasses endpoint) (onLedger call) :=
  ⟨fun runtime => by
    rw [Evolves, onLedger, exec_onPart]
    exact .of_same rfl rfl rfl rfl⟩

theorem bypasses_newCapability {object : KernelObjectId} {rights : Rights}
    {owner delegatedBy : ProcessId} {parentCapId : Nat} {cap : Capability} {after : RuntimeState}
    (made : runtime.newCapability object rights owner parentCapId delegatedBy = .ok (cap, after)) :
    Bypasses endpoint runtime after := by
  obtain ⟨_, _, _, _, same⟩ := newCapability_ok made
  rw [same]
  exact .of_same rfl rfl rfl rfl

theorem bypasses_createCapability (object : KernelObjectId) (rights : Rights)
    (owner : ProcessId) (parentCapId : Nat) (delegatedBy : ProcessId) :
    Always (Bypasses endpoint) (createCapability object rights owner parentCapId delegatedBy) := by
  refine .get_bind fun _ => .fromExcept_bind ?_
  rintro ⟨cap, after⟩ made
  exact .set_bind (bypasses_newCapability made) (.pure _)

theorem bypasses_grantCurrent (error : IpcError) (slot : Nat) (cap : Capability) :
    Always (Bypasses endpoint) (grantCurrent error slot cap) :=
  .get_bind fun _ => .fromOption_bind fun _ _ => .fromExcept_bind fun _ _ =>
    .set (.updateCurrent fun _ => .of_state rfl rfl)

theorem bypasses_grantByPid {ε : Type} (missing : ε) (refused : InitError → ε)
    (pid : ProcessId) (slot : Nat) (cap : Capability) (persistForRestart : Bool) :
    Always (Bypasses endpoint) (grantByPid missing refused pid slot cap persistForRestart) :=
  .get_bind fun _ => .fromOption_bind fun _ _ => .fromExcept_bind fun _ _ => .fromExcept_bind fun _ _ =>
    .set <| .of_pointwise <| ProcessTable.pointwise_update fun _ _ => .of_state rfl rfl

theorem bypasses_capDeriveInto (parentSlot newSlot : Nat) (rightsMask : Rights) :
    Always (Bypasses endpoint) (capDeriveInto parentSlot newSlot rightsMask) :=
  .get_bind fun _ => .fromExcept_bind fun _ _ => .require_bind fun _ => .fromOption_bind fun _ _ =>
    .require_bind fun _ => (bypasses_createCapability ..).evolves_bind fun _ _ =>
      (bypasses_grantCurrent ..).evolves _

theorem bypasses_capDrop (slot : Nat) : Always (Bypasses endpoint) (capDrop slot) := by
  refine .get_bind fun _ => .fromOption_bind fun _ _ => .fromExcept_bind ?_
  rintro ⟨dropped, caps⟩ _
  exact .set_bind (.updateCurrent fun _ => .of_state rfl rfl)
    (.modify (bypasses_releaseUnreferencedDerivedVfsRoot _ _))

theorem eases_markCapRevoked (table : ProcessTable) (capId : Nat) :
    ProcessTable.Pointwise (Process.Eased endpoint) table (markCapRevoked table capId) :=
  ProcessTable.pointwise_updateAll fun _ => .of_state rfl rfl

theorem bypasses_markAllRevokedCaps (runtime : RuntimeState) :
    Bypasses endpoint runtime runtime.markAllRevokedCaps := by
  have marks (caps : List Nat) (runtime : RuntimeState) : Bypasses endpoint runtime { runtime with
        processes := caps.foldl markCapRevoked runtime.processes } := by
    induction caps generalizing runtime with
    | nil => exact .refl runtime
    | cons first rest ih =>
      exact (Bypasses.of_pointwise (eases_markCapRevoked _ first)).trans
        (ih { runtime with processes := markCapRevoked runtime.processes first })
  exact marks _ runtime

theorem bypasses_capRevoke (slot : Nat) : Always (Bypasses endpoint) (capRevoke slot) :=
  .get_bind fun _ => .fromExcept_bind fun _ _ =>
    .bind ((Always.bind (bypasses_onLedger _) fun _ =>
      .modify bypasses_markAllRevokedCaps).evolves _) fun _ _ _ =>
    .modify_bind (bypasses_releaseUnreferencedDerivedVfsRoots _) <|
    .modify (bypasses_cancelReceiversWhere _ _ _)

theorem bypasses_capMove (sourceSlot targetSlot : Nat) :
    Always (Bypasses endpoint) (capMove sourceSlot targetSlot) := by
  refine .get_bind fun _ => .fromOption_bind fun _ _ => .require_bind fun _ => .fromExcept_bind ?_
  rintro ⟨cap, cleared⟩ _
  exact .set_bind (.updateCurrent fun _ => .of_state rfl rfl) ((bypasses_grantCurrent ..).evolves _)

theorem bypasses_capTransfer (controlSlot targetPid packedTransfer : Nat) :
    Always (Bypasses endpoint) (capTransfer controlSlot targetPid packedTransfer) :=
  .get_bind fun _ => .fromExcept_bind fun _ _ => .fromExcept_bind fun _ _ => .require_bind fun _ =>
    .fromOption_bind fun _ _ => .fromOption_bind fun _ _ => .require_bind fun _ =>
    .require_bind fun _ => (bypasses_createCapability ..).evolves_bind fun _ _ =>
      (bypasses_grantByPid ..).evolves _

theorem bypasses_namespaceResolve (machine : Machine) (capSlot path pathLen targetSlot : Nat) :
    Always (Bypasses endpoint) (namespaceResolve machine capSlot path pathLen targetSlot) :=
  .bind (.require ..) fun _ => .get_bind fun _ => .fromExcept_bind fun _ _ =>
    .reading_bind (always_eq_copyFromUser ..) fun _ _ => .fromOption_bind fun _ _ =>
    .fromExcept_bind fun _ _ => .fromOption_bind fun _ _ => .require_bind fun _ =>
    (bypasses_createCapability ..).evolves_bind fun _ _ =>
      (bypasses_grantCurrent ..).evolves _

theorem bypasses_vfsDeriveRoot (machine : Machine) (capSlot path packedLenTarget : Nat) :
    Always (Bypasses endpoint) (vfsDeriveRoot machine capSlot path packedLenTarget) := by
  refine .bind (.require ..) fun _ =>
    .bind (bypasses_of_eq (always_eq_copyFromUser ..)) fun _ => .get_bind fun _ =>
    .fromExcept_bind fun _ _ => .reading_bind (always_eq_rootCapability _) fun _ _ =>
    .fromOption_bind fun _ _ => .require_bind fun _ => .fromOption_bind fun _ _ =>
    .require_bind fun _ => .fromOption_bind fun _ _ => .require_bind fun _ => .require_bind fun _ =>
    .fromExcept_bind ?_
  rintro ⟨object, objects⟩ added
  exact .set_bind (.of_objects (leaves_append added)) <|
    (bypasses_createCapability ..).evolves_bind fun _ _ =>
      (bypasses_grantCurrent ..).evolves _

theorem bypasses_quotaDelegate (controlSlot targetPid maxEndpoints : Nat) :
    Always (Bypasses endpoint) (quotaDelegate controlSlot targetPid maxEndpoints) := by
  refine .get_bind fun _ => .fromExcept_bind fun _ _ => .fromOption_bind fun _ _ =>
    .require_bind fun _ => .fromOption_bind fun _ _ => .modify (.updateProcess (fun process => ?_) _)
  unfold Process.withEndpointQuota
  split <;> exact .of_state rfl rfl

theorem bypasses_endpointCreate (controlSlot capSlot : Nat) :
    Always (Bypasses endpoint) (endpointCreate controlSlot capSlot) := by
  refine ⟨fun runtime => evolves_of_apart fun apart => ?_⟩
  refine .get_bind <| .fromExcept_bind fun _ _ => .fromOption_bind fun process isCurrent =>
    .require_bind fun _ => .require_bind fun _ => .require_bind fun _ => .fromExcept_bind ?_
  have someone : process.pid ≠ .empty :=
    apart.numbered.2 process (ProcessTable.mem_of_currentProcess isCurrent)
  rintro ⟨made, objects⟩ added
  refine .set_bind (.of_objects (leaves_insert (mapError_ok.mp added))) <|
    .bind (.attempt ((bypasses_createCapability ..).evolves _)) fun outcome middle _ => ?_
  cases outcome with
  | error =>
    exact .modify_bind (.of_objects (leaves_removeOwnedEndpoint someone)) (.throw _)
  | ok cap =>
    refine .bind (.attempt ((bypasses_grantCurrent ..).evolves _)) fun outcome after _ => ?_
    cases outcome with
    | ok => exact .modify (.updateCurrent fun _ => .of_state rfl rfl)
    | error =>
      refine .modify_bind (fun _ => ⟨rfl, rfl, .of_pointwise (.refl _), ?_⟩) (.throw _)
      exact leaves_removeOwnedEndpoint someone

section

variable (machine : Machine)

theorem bypasses_dequeueUdp {port : KernelObjectId} {message : IpcMessage} {after : RuntimeState}
    (taken : runtime.dequeueUdp port = some (message, after)) :
    Bypasses endpoint runtime after := by
  obtain ⟨object, _, taken⟩ := Option.bind_eq_some_iff.mp taken
  obtain ⟨⟨_, queue⟩, _, same⟩ := Option.map_eq_some_iff.mp taken
  cases same
  exact .of_objects (leaves_setPortQueue _ _)

theorem bypasses_wakeBlockedNetworkReceiver (runtime : RuntimeState) (machine : Machine)
    (port : KernelObjectId) :
    Bypasses endpoint runtime (runtime.wakeBlockedNetworkReceiver machine port) := by
  unfold wakeBlockedNetworkReceiver
  split
  · exact .refl runtime
  split
  · split
    · exact .refl runtime
    · rename_i taken
      dsimp only
      split
      · rename_i copies
        exact ((bypasses_dequeueUdp taken).trans (bypasses_copyToUser copies)).trans (.wakeAt _ _)
      · exact (bypasses_dequeueUdp taken).trans (.wakeAt _ _)
  · exact .refl runtime

theorem bypasses_networkSendUdp (capSlot source len : Nat) :
    Always (Bypasses endpoint) (networkSendUdp machine capSlot source len) :=
  .bind (.require ..) fun _ => .get_bind fun _ => .fromExcept_bind fun _ _ =>
    .reading_bind (always_eq_copyFromUser ..) fun _ _ => .fromOption_bind fun _ _ =>
    .fromOption_bind fun _ _ => .fromExcept_bind fun _ _ =>
    .set_bind (.of_objects (leaves_setPortQueue _ _))
      (.modify (bypasses_wakeBlockedNetworkReceiver _ _ _))

theorem bypasses_networkRecvUdp (capSlot destination maxLen : Nat) :
    Always (Bypasses endpoint) (networkRecvUdp machine capSlot destination maxLen) := by
  refine .get_bind fun runtime => .fromExcept_bind fun _ _ =>
    .reading_bind (always_eq_requireWritable ..) fun _ _ => ?_
  split
  · rename_i taken
    exact .set_bind (bypasses_dequeueUdp taken) <|
      (bypasses_copyOut ..).evolves_bind fun _ _ => (bypasses_answer _).evolves _
  · exact .set_bind (runtime.bypasses_blockCurrent machine id id) ((Always.require ..).evolves _)

theorem bypasses_irqWait (capSlot timeoutMs : Nat) :
    Always (Bypasses endpoint) (irqWait machine capSlot timeoutMs) := by
  refine .get_bind fun runtime => .fromExcept_bind fun _ _ =>
    .ite (fun _ => ?_) fun _ => .ite (fun _ => ?_) fun _ => ?_
  · exact .set_bind (.of_objects (leaves_setLineCounts _ _ _)) ((bypasses_answer _).evolves _)
  · exact (bypasses_answer _).evolves _
  · exact .require_bind fun _ => .set_bind (runtime.bypasses_suspendCurrent machine _ id id)
        ((Always.require ..).evolves _)

theorem bypasses_sleepMs (capSlot milliseconds : Nat) :
    Always (Bypasses endpoint) (sleepMs machine capSlot milliseconds) := by
  refine .get_bind fun runtime => .fromExcept_bind fun _ _ =>
    .ite (fun _ => (bypasses_answer _).evolves _) fun _ => .fromOption_bind fun _ _ => ?_
  exact .set_bind (runtime.bypasses_suspendCurrent machine _ id id) ((Always.require ..).evolves _)

end

section Transactions

variable {other : KernelObjectId} (runtime : RuntimeState) (machine : Machine)

theorem bypasses_enqueueAt (apart : other ≠ endpoint) (sender : ProcessId) (bytes : Bytes) :
    Always (Bypasses endpoint) (enqueueAt other sender bytes) :=
  .get_bind fun runtime => .fromOption_bind fun _ _ => .fromExcept_bind fun _ _ =>
    .set (runtime.bypasses_setEndpointQueue apart _)

theorem bypasses_queueVertexFsDeviceWrite (apart : other ≠ endpoint) (writeIndex : Nat) :
    Always (Bypasses endpoint) (queueVertexFsDeviceWrite other writeIndex) := by
  refine .get_bind fun _ => .require_bind fun _ => .fromExcept_bind fun _ _ =>
    (bypasses_enqueueAt apart ..).evolves_bind fun _ _ =>
    .bind ((Always.attempt (bypasses_enqueueAt apart ..)).evolves _) fun outcome after _ => ?_
  cases outcome with
  | ok => exact .pure _
  | error => exact .modify_bind (after.bypasses_updateQueue apart _) (.throw _)

theorem bypasses_failVertexFsSync (index backing status : Nat) :
    Bypasses endpoint runtime (runtime.failVertexFsSync index backing status) :=
  (Bypasses.updateVfs _).trans (.wakeAt index status)

theorem eased_advanceVertexFsSync (nextWrite nextSector : Nat) (process : Process) :
    Process.Eased endpoint process (advanceVertexFsSync nextWrite nextSector process) := by
  unfold advanceVertexFsSync
  split
  · rename_i blocked
    refine ⟨rfl, fun waits => absurd waits id, fun syncs => ?_⟩
    rw [blocked]
    exact syncs
  · exact refl_of _ process

theorem bypasses_continueVertexFsSync (index : Nat) (apart : other ≠ endpoint)
    (backing checksum writeCount nextWrite : Nat) :
    Bypasses endpoint runtime (runtime.continueVertexFsSync machine index other backing checksum
      writeCount nextWrite) := by
  unfold continueVertexFsSync
  split
  · have queued : Bypasses endpoint runtime
        (exec (queueVertexFsDeviceWrite other nextWrite) runtime).2 :=
      (bypasses_queueVertexFsDeviceWrite apart nextWrite).evolves runtime
    split
    · rename_i ran
      rw [ran] at queued
      exact queued.trans (bypasses_failVertexFsSync _ _ _ _)
    · rename_i ran
      rw [ran] at queued
      exact (queued.trans (Bypasses.updateAt (eased_advanceVertexFsSync _ _) index)).trans
        (bypasses_wakeBlockedReceiver _ machine apart)
  · have finished : Bypasses endpoint runtime
        (exec (onVertexFs (finishVertexFsSyncFile backing checksum)) runtime).2 :=
      (bypasses_onVertexFs _).evolves runtime
    exact finished.trans (.wakeAt index _)

theorem bypasses_wakeBlockedVertexFsSyncReply (apart : other ≠ endpoint) :
    Bypasses endpoint runtime (runtime.wakeBlockedVertexFsSyncReply machine other) := by
  unfold wakeBlockedVertexFsSyncReply
  split
  · exact .refl runtime
  rename_i index waiter found
  obtain ⟨here, _⟩ := found_of_findIdx found
  split
  · rename_i requestEndpoint _ _ _ _ _ _ _ blocked
    split
    · exact .refl runtime
    rename_i taken
    have dequeued := bypasses_dequeueAt apart taken
    split
    · intro alone
      have elsewhere : requestEndpoint ≠ endpoint := fun same =>
        alone.syncs waiter (List.mem_of_getElem? here) (by rw [blocked]; exact same)
      exact dequeued.trans (bypasses_continueVertexFsSync _ machine index elsewhere _ _ _ _) alone
    · exact dequeued.trans (bypasses_failVertexFsSync _ _ _ _)
  · exact .refl runtime

theorem bypasses_clearRequests {other : Option KernelObjectId} (apart : other ≠ some endpoint) :
    Bypasses endpoint runtime (other.elim runtime fun other =>
      runtime.updateQueue other fun queue => queue.removeAllFromSender .empty) := by
  cases other with
  | none => exact .refl runtime
  | some other =>
    exact runtime.bypasses_updateQueue (fun same => apart (congrArg some same))
      fun queue => queue.removeAllFromSender .empty

theorem bypasses_abortVertexFsSyncTransactions (status : Nat) :
    Bypasses endpoint runtime (runtime.abortVertexFsSyncTransactions status) := by
  intro apart
  have cleared := bypasses_clearRequests runtime apart.deviceRequests
  revert apart
  unfold abortVertexFsSyncTransactions
  dsimp only
  split
  · exact cleared
  refine cleared.trans (related_foldl (fun state index => ?_) _ _)
  split
  · split
    · exact bypasses_failVertexFsSync _ _ _ _
    · exact .refl state
  · exact .refl state

theorem bypasses_abortVfsStateTransactions (status : Nat) :
    Bypasses endpoint runtime (runtime.abortVfsStateTransactions status) := by
  intro apart
  have cleared := bypasses_clearRequests runtime apart.stateRequests
  revert apart
  unfold abortVfsStateTransactions
  dsimp only
  split
  · exact cleared
  refine cleared.trans (.updateAll fun process => ?_)
  split
  · split
    · exact .wakeWith status process
    · exact refl_of _ process
  · exact refl_of _ process

theorem bypasses_abortTransactionsOf (name : String) :
    Bypasses endpoint runtime (runtime.abortTransactionsOf name) := by
  have aborted : Bypasses endpoint runtime (if name = vertexStateProcessName then
      runtime.abortVfsStateTransactions statusVfsUnsupported else runtime) := by
    split
    · exact bypasses_abortVfsStateTransactions runtime _
    · exact .refl runtime
  unfold abortTransactionsOf
  dsimp only
  split
  · exact aborted.trans (bypasses_abortVertexFsSyncTransactions _ _)
  · exact aborted

theorem bypasses_vfsSync (handle : Nat) : Always (Bypasses endpoint) (vfsSync machine handle) := by
  have starts (backing inodeId checksum writeCount : Nat) : Always (Bypasses endpoint)
      (startVertexFsSyncTransaction machine backing inodeId checksum writeCount) := by
    refine .bind (.require ..) fun _ => ⟨fun runtime => evolves_of_apart fun apart => ?_⟩
    refine .get_bind <| .fromOption_bind fun request isRequest => .fromOption_bind fun reply _ =>
      .require_bind fun _ => .fromExcept_bind fun _ _ => .require_bind fun _ => ?_
    have elsewhere : request ≠ endpoint := fun same => apart.deviceRequests (same ▸ isRequest)
    refine .set_bind (.updateCurrent fun _ => .of_idle rfl id elsewhere) <| .bind ((Always.attempt
        (bypasses_queueVertexFsDeviceWrite elsewhere 0)).evolves _) fun outcome middle _ => ?_
    have restores (runtime : RuntimeState) :
        Bypasses endpoint runtime (runtime.restoreCurrentVertexFsSyncWaiter reply) := by
      refine .updateCurrent fun process => ?_
      split
      · split
        · exact .of_idle rfl id id
        · exact refl_of _ process
      · exact refl_of _ process
    cases outcome with
    | error => exact .modify_bind (restores _) (.throw _)
    | ok =>
      refine .modify_bind (middle.bypasses_wakeBlockedReceiver machine elsewhere) <|
        .get_bind <| .set_bind (bypasses_scheduleNextReadyInner _ machine true true) <|
        .ite (fun _ => .pure _) fun _ => .modify_bind ?_ (.throw _)
      exact (restores _).trans (bypasses_updateQueue _ elsewhere _)
  refine .get_bind fun _ => .fromExcept_bind ?_
  rintro ⟨_, node⟩ _
  dsimp only
  split
  · refine (bypasses_onVertexFs _).evolves_bind fun prepared _ => ?_
    cases prepared with
    | journaled => exact (starts ..).evolves _
    | cached => exact (bypasses_answer _).evolves _
  · exact (bypasses_answer _).evolves _
  · exact (bypasses_answer _).evolves _
  · exact (bypasses_answer _).evolves _
  · exact (bypasses_answer _).evolves _
  · exact .throw _

end Transactions

end VertexOS
