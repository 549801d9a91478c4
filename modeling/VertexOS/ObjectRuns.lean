import VertexOS.VfsMountSyscalls

/-!
# Runs of the object table

Objects come and go in any order.  The identifiers of a run are all different.  Room
is another matter: an endpoint fills the first empty slot, the other creations look
only at the length of the table, which shrinks no further than to the last object.
-/

namespace VertexOS

open ByteStrings FailingCalls SlotTables

namespace ObjectTable

def live (table : ObjectTable) : Multiset KernelObject := contents table.objects

/-- What a creation gives: the next identifier and a table with one more object. -/
structure Adds (table : ObjectTable) (id : KernelObjectId) (after : ObjectTable) : Prop where
  id_eq : id = ⟨table.nextId⟩
  nextId : after.nextId = table.nextId + 1
  live : ∃ object : KernelObject, object.id = id ∧ after.live = object ::ₘ table.live

section

variable {ε : Type} {table after : ObjectTable} {full failure : ε}
  {make : KernelObjectId → KernelObject} {made : ∀ id, (make id).id = id} {id : KernelObjectId}

theorem append_eq_error :
    table.append full make made = .error failure ↔
      full = failure ∧ table.objects.length = maxObjects := by
  have fits := table.length_le
  unfold append
  split
  · simp only [reduceCtorEq, false_iff]
    omega
  · simp only [Except.error.injEq]
    exact ⟨fun same => ⟨same, by omega⟩, And.left⟩

theorem insert_eq_error :
    table.insert full make made = .error failure ↔
      full = failure ∧ table.objects.length = maxObjects ∧ none ∉ table.objects := by
  unfold insert
  split
  · rename_i slots filled
    have hole : none ∈ table.objects := by
      by_contra noHole
      rw [fillFirst_eq_none.mpr noHole] at filled
      cases filled
    simp [hole]
  · rename_i filled
    rw [append_eq_error]
    simp [fillFirst_eq_none.mp filled]

theorem adds_of_append (added : table.append full make made = .ok (id, after)) :
    table.Adds id after := by
  unfold append at added
  split at added
  · cases added
    refine ⟨rfl, rfl, make ⟨table.nextId⟩, made _, ?_⟩
    simp [live, add_comm, ← Multiset.singleton_add]
  · cases added

theorem adds_of_insert (added : table.insert full make made = .ok (id, after)) :
    table.Adds id after := by
  unfold insert at added
  split at added
  · rename_i slots filled
    cases added
    exact ⟨rfl, rfl, make ⟨table.nextId⟩, made _, contents_fillFirst filled⟩
  · exact adds_of_append added

end

inductive Creation where
  | endpoint (name : String) (owner : ProcessId)
  | bootModule (name : String) (base length : Nat)
  | storeObject (name : String) (base length : Nat) (hash : String)
  | stateVolume (describe : KernelObjectId → StateVolumeObject)
      (described : ∀ id, (describe id).id = id)
  | device (kind : DeviceObject → KernelObject) (name : String)
      (kept : ∀ device, (kind device).id = device.id)
  | networkPort (name : String)
  | interruptLine (name : String) (line : Nat)
  | namespaceObject (name : String) (entries : List NamespaceEntry)
  | vfsRoot (name rootPath : String)
  | derivedVfsRoot (rootPath : VfsPath)
  | vfsMount (name : String) (rootNode : VfsNodeId) (rootPath : VfsPath) (source : String)
      (flags : BitVec 64) (dynamic : Bool) (owner : ProcessId)
  | processControl (name : String)
  | secret (name : String) (value : Bytes)

/-- Creations at boot and creations of a running process fail in different ways. -/
inductive CreationError where
  | init (error : InitError)
  | ipc (error : IpcError)
deriving DecidableEq

def Creation.create : Creation → ObjectTable → Except CreationError (KernelObjectId × ObjectTable)
  | .endpoint name owner, table => (table.addEndpointOwned name owner).mapError .init
  | .bootModule name base length, table => (table.addBootModule name base length).mapError .init
  | .storeObject name base length hash, table =>
    (table.addStoreObject name base length hash).mapError .init
  | .stateVolume describe described, table =>
    (table.addStateVolume describe described).mapError .init
  | .device kind name kept, table => (table.addDevice kind name kept).mapError .init
  | .networkPort name, table => (table.addNetworkPort name).mapError .init
  | .interruptLine name line, table => (table.addInterruptLine name line).mapError .init
  | .namespaceObject name entries, table => (table.addNamespace name entries).mapError .init
  | .vfsRoot name rootPath, table => (table.addVfsRoot name rootPath).mapError .init
  | .derivedVfsRoot rootPath, table => (table.addDerivedVfsRoot rootPath).mapError .ipc
  | .vfsMount name rootNode rootPath source flags dynamic owner, table =>
    (table.addVfsMount name rootNode rootPath source flags dynamic owner).mapError .init
  | .processControl name, table => (table.addProcessControl name).mapError .init
  | .secret name value, table => (table.addSecret name value).mapError .init

def Creation.noRoom : Creation → CreationError
  | .derivedVfsRoot _ => .ipc .badCapability
  | _ => .init .objectTableFull

/-- The creations that use an empty slot wherever there is one. -/
def Creation.FillsHoles : Creation → Prop
  | .endpoint .. => True
  | _ => False

/-- What a process made goes when it ends, and single endpoints, roots and mounts go on
request. -/
inductive Removal where
  | ownedEndpoints (owner : ProcessId)
  | ownedEndpoint (id : KernelObjectId) (owner : ProcessId)
  | derivedVfsRoot (id : KernelObjectId)
  | dynamicMount (rootNode : VfsNodeId)
  | dynamicMountByPath (path : Bytes)
  | ownedBindMounts (owner : ProcessId) (dynamic : Bool)

def Removal.remove : Removal → ObjectTable → ObjectTable
  | .ownedEndpoints owner, table => table.removeOwnedEndpoints owner
  | .ownedEndpoint id owner, table => table.removeOwnedEndpoint id owner
  | .derivedVfsRoot id, table => table.removeDerivedVfsRoot id
  | .dynamicMount rootNode, table => (table.removeDynamicVfsMount rootNode).2
  | .dynamicMountByPath path, table => (table.removeDynamicVfsMountByPath path).2
  | .ownedBindMounts owner dynamic, table => table.removeAll (isBindMountOf owner dynamic)

inductive Update where
  | endpointQueue (id : KernelObjectId) (queue : MessageQueue)
  | portQueue (id : KernelObjectId) (queue : MessageQueue)
  | lineCounts (id : KernelObjectId) (pendingCount deliveredCount : Nat)

def Update.apply : Update → ObjectTable → ObjectTable
  | .endpointQueue id queue, table => table.setEndpointQueue id queue
  | .portQueue id queue, table => table.setPortQueue id queue
  | .lineCounts id pending delivered, table => table.setLineCounts id pending delivered

/-- The tables of a generation's runs, with the identifiers given out so far, the latest
first. -/
inductive Reached : List KernelObjectId → ObjectTable → Prop
  | empty : Reached [] .empty
  | creates {given : List KernelObjectId} {table after : ObjectTable} {id : KernelObjectId}
      (creation : Creation) (earlier : Reached given table)
      (created : creation.create table = .ok (id, after)) : Reached (id :: given) after
  | removes {given : List KernelObjectId} {table : ObjectTable} (removal : Removal)
      (earlier : Reached given table) : Reached given (removal.remove table)
  | updates {given : List KernelObjectId} {table : ObjectTable} (update : Update)
      (earlier : Reached given table) : Reached given (update.apply table)

section

variable {table after : ObjectTable} {id : KernelObjectId}

theorem mapError_append {ε φ : Type} {full : ε} {change : ε → φ}
    {make : KernelObjectId → KernelObject} {made : ∀ id, (make id).id = id} :
    (table.append full make made).mapError change = .error (change full) ↔
      table.objects.length = maxObjects := by
  rw [mapError_error]
  constructor
  · rintro ⟨error, failed, -⟩
    exact (append_eq_error.mp failed).2
  · intro noSlot
    exact ⟨full, append_eq_error.mpr ⟨rfl, noSlot⟩, rfl⟩

theorem mapError_insert {ε φ : Type} {full : ε} {change : ε → φ}
    {make : KernelObjectId → KernelObject} {made : ∀ id, (make id).id = id} :
    (table.insert full make made).mapError change = .error (change full) ↔
      table.objects.length = maxObjects ∧ none ∉ table.objects := by
  rw [mapError_error]
  constructor
  · rintro ⟨error, failed, -⟩
    exact (insert_eq_error.mp failed).2
  · intro noSlot
    exact ⟨full, insert_eq_error.mpr ⟨rfl, noSlot⟩, rfl⟩

theorem addVfsRoot_of_room {name rootPath : String} (room : table.objects.length ≠ maxObjects) :
    (∃ path, table.addVfsRoot name rootPath = table.append .objectTableFull
        (fun id => .vfsRoot { id, name, rootPath := path, derived := false }) fun _ => rfl) ∨
      table.addVfsRoot name rootPath = .error .invalidBootManifest := by
  unfold addVfsRoot VfsPath.fromBootRootPath
  rw [if_neg room]
  split
  · exact .inl ⟨_, rfl⟩
  · exact .inr rfl

theorem adds_of_create {creation : Creation} (created : creation.create table = .ok (id, after)) :
    table.Adds id after := by
  cases creation with
  | endpoint name owner => exact adds_of_insert (mapError_ok.mp created)
  | vfsRoot name rootPath =>
    have created := mapError_ok.mp created
    by_cases room : table.objects.length = maxObjects
    · rw [addVfsRoot, if_pos room] at created
      cases created
    · obtain ⟨path, append⟩ | invalid := addVfsRoot_of_room room
      · exact adds_of_append (append ▸ created)
      · rw [invalid] at created
        cases created
  | vfsMount name rootNode rootPath source flags dynamic owner =>
    have created := mapError_ok.mp created
    unfold addVfsMount at created
    split at created
    · cases created
    · exact adds_of_insert created
  | _ => exact adds_of_append (mapError_ok.mp created)

/-- An endpoint is refused where every slot is in use, everything else as soon as the
last slot is. -/
theorem create_eq_noRoom {creation : Creation} :
    creation.create table = .error creation.noRoom ↔
      table.objects.length = maxObjects ∧ (creation.FillsHoles → none ∉ table.objects) := by
  have appended : table.objects.length = maxObjects ↔
      table.objects.length = maxObjects ∧ (False → none ∉ table.objects) := by simp
  cases creation with
  | endpoint name owner =>
    refine mapError_insert.trans ?_
    simp [Creation.FillsHoles]
  | vfsRoot name rootPath =>
    refine Iff.trans ?_ appended
    by_cases room : table.objects.length = maxObjects
    · simp [Creation.create, addVfsRoot, room, Except.mapError, Creation.noRoom]
    · obtain ⟨path, append⟩ | invalid := addVfsRoot_of_room room
      · rw [Creation.create, append]
        exact mapError_append
      · simp [Creation.create, invalid, room, Except.mapError, Creation.noRoom]
  | vfsMount name rootNode rootPath source flags dynamic owner =>
    refine Iff.trans ?_ appended
    by_cases room : table.objects.length = maxObjects
    · simp [Creation.create, addVfsMount, room, Except.mapError, Creation.noRoom]
    · rw [Creation.create, addVfsMount, if_neg room]
      refine mapError_insert.trans ?_
      simp [room]
  | _ => exact mapError_append.trans appended

theorem removeFirst_live (wanted : KernelObject → Bool) :
    (table.removeFirst wanted).live ≤ table.live :=
  (contents_trimEmptyTail _).le.trans (contents_clearFirst_le ..)

theorem removeAll_live (wanted : KernelObject → Bool) :
    (table.removeAll wanted).live ≤ table.live := by
  refine (contents_trimEmptyTail _).le.trans ?_
  rw [contents_clearAll]
  exact Multiset.filter_le ..

theorem Removal.remove_live (removal : Removal) :
    (removal.remove table).nextId = table.nextId ∧ (removal.remove table).live ≤ table.live := by
  have mounts : ∀ wanted, (table.removeFirstDynamicMount wanted).2.nextId = table.nextId ∧
      (table.removeFirstDynamicMount wanted).2.live ≤ table.live := by
    intro wanted
    unfold removeFirstDynamicMount
    split
    · exact ⟨rfl, le_rfl⟩
    · exact ⟨rfl, removeFirst_live _⟩
  cases removal with
  | ownedEndpoints owner => exact ⟨rfl, removeAll_live _⟩
  | ownedEndpoint id owner => exact ⟨rfl, removeFirst_live _⟩
  | derivedVfsRoot id => exact ⟨rfl, removeFirst_live _⟩
  | dynamicMount rootNode => exact mounts _
  | dynamicMountByPath path => exact mounts _
  | ownedBindMounts owner dynamic => exact ⟨rfl, removeAll_live _⟩

theorem Update.apply_live (update : Update) :
    (update.apply table).nextId = table.nextId ∧
      (update.apply table).live.map KernelObject.id = table.live.map KernelObject.id := by
  cases update <;> exact ⟨rfl, contents_map_updateFirst (fun object => by cases object <;> rfl) _⟩

end

/-- The identifiers given out against the table: all different, all below the next one,
and the objects of the table carry each at most once. -/
structure Ledger (given : List KernelObjectId) (table : ObjectTable) : Prop where
  nodup : given.Nodup
  below : ∀ id ∈ given, id.raw < table.nextId
  live : table.live.map KernelObject.id ≤ ↑given

section

variable {given : List KernelObjectId} {table after : ObjectTable} {id : KernelObjectId}

theorem Ledger.adds (ledger : Ledger given table) (adds : table.Adds id after) :
    Ledger (id :: given) after := by
  obtain ⟨rfl, nextId, object, hasId, live⟩ := adds
  refine ⟨ledger.nodup.cons fun again => ?_, fun other member => ?_, ?_⟩
  · exact absurd (ledger.below _ again) (lt_irrefl _)
  · rw [nextId]
    rcases List.mem_cons.mp member with rfl | earlier
    · exact Nat.lt_succ_self _
    · exact (ledger.below other earlier).trans (Nat.lt_succ_self _)
  · rw [live, Multiset.map_cons, hasId, ← Multiset.cons_coe]
    exact Multiset.cons_le_cons _ ledger.live

theorem Ledger.shrinks (ledger : Ledger given table) (nextId : after.nextId = table.nextId)
    (fewer : after.live.map KernelObject.id ≤ table.live.map KernelObject.id) :
    Ledger given after :=
  ⟨ledger.nodup, by simpa only [nextId] using ledger.below, fewer.trans ledger.live⟩

theorem Reached.ledger (reached : Reached given table) : Ledger given table := by
  induction reached with
  | empty => exact ⟨.nil, by simp, le_rfl⟩
  | creates creation _ created ih => exact ih.adds (adds_of_create created)
  | removes removal _ ih =>
    obtain ⟨nextId, fewer⟩ := removal.remove_live
    exact ih.shrinks nextId (Multiset.map_le_map fewer)
  | updates update _ ih =>
    obtain ⟨nextId, same⟩ := update.apply_live
    exact ih.shrinks nextId same.le

/-- A creation is refused for lack of room with a table full of live objects only. -/
def Complete (table : ObjectTable) (creation : Creation) : Prop :=
  creation.create table = .error creation.noRoom → table.live.card = maxObjects

theorem complete_iff {creation : Creation} :
    table.Complete creation ↔
      creation.FillsHoles ∨ table.objects.length < maxObjects ∨ none ∉ table.objects := by
  have fits := table.length_le
  have allLive : table.objects.length = maxObjects →
      (table.live.card = maxObjects ↔ none ∉ table.objects) := by
    intro last
    rw [← card_contents_eq_length, last, live]
  unfold Complete
  rw [create_eq_noRoom]
  constructor
  · intro complete
    by_cases fills : creation.FillsHoles
    · exact .inl fills
    · rcases fits.lt_or_eq with room | last
      · exact .inr (.inl room)
      · exact .inr (.inr ((allLive last).mp (complete ⟨last, fun fills' => absurd fills' fills⟩)))
  · rintro condition ⟨last, noHole⟩
    refine (allLive last).mpr ?_
    rcases condition with fills | room | noHole'
    · exact noHole fills
    · omega
    · exact noHole'

/-- The identifiers of a run are in order; the room is used up to the last slot exactly
where the creation fills holes, the table ends before its last slot, or it has no hole. -/
theorem complete_iff_of_reached (reached : Reached given table) :
    (given.Nodup ∧ (table.live.map KernelObject.id).Nodup ∧
      ∀ creation id after, Creation.create creation table = .ok (id, after) → id ∉ given) ∧
    ∀ creation, table.Complete creation ↔
      creation.FillsHoles ∨ table.objects.length < maxObjects ∨ none ∉ table.objects := by
  have ledger := reached.ledger
  refine ⟨⟨ledger.nodup, ?_, fun creation id after created => ?_⟩, fun _ => complete_iff⟩
  · exact Multiset.nodup_of_le ledger.live (Multiset.coe_nodup.mpr ledger.nodup)
  · exact (List.nodup_cons.mp (reached.creates creation created).ledger.nodup).1

end

def createEndpoints : List ProcessId → List KernelObjectId × ObjectTable →
    Option (List KernelObjectId × ObjectTable)
  | [], reached => some reached
  | owner :: owners, (given, table) =>
    match (Creation.endpoint "work" owner).create table with
    | .ok (id, after) => createEndpoints owners (id :: given, after)
    | .error _ => none

theorem Reached.createEndpoints {owners : List ProcessId} {given later : List KernelObjectId}
    {table after : ObjectTable} (reached : Reached given table)
    (created : createEndpoints owners (given, table) = some (later, after)) :
    Reached later after := by
  induction owners generalizing given table with
  | nil =>
    cases created
    exact reached
  | cons owner owners ih =>
    unfold ObjectTable.createEndpoints at created
    split at created
    · rename_i id next here
      exact ih (reached.creates _ here) created
    · cases created

def twoOwners : List ProcessId := List.replicate 127 ⟨1⟩ ++ [⟨2⟩]

theorem exists_reached_with_holes :
    ∃ given table, Reached given table ∧ table.live.card = 1 ∧
      table.objects.length = maxObjects := by
  have run : ((createEndpoints twoOwners ([], .empty)).any fun reached =>
      let left := (Removal.ownedEndpoints ⟨1⟩).remove reached.2
      left.live.card = 1 ∧ left.objects.length = maxObjects) = true := by
    decide +kernel
  obtain ⟨⟨given, table⟩, created, left⟩ := (Option.any_eq_true ..).mp run
  exact ⟨given, _, (Reached.empty.createEndpoints created).removes (.ownedEndpoints ⟨1⟩),
    of_decide_eq_true left⟩

theorem exists_root_refused_with_holes :
    ∃ given table, Reached given table ∧ table.live.card = 1 ∧
      (Creation.derivedVfsRoot ⟨[slash], by decide⟩).create table =
        .error (.ipc .badCapability) := by
  obtain ⟨given, table, reached, one, last⟩ := exists_reached_with_holes
  refine ⟨given, table, reached, one, ?_⟩
  exact create_eq_noRoom.mpr ⟨last, nofun⟩

/-- In a table that is full up to its last slot and has one live object, the creation of an
endpoint has room, and what it creates has a fresh identifier. -/
theorem complete_iff_of_reached_with_holes :
    ∃ given table, Reached given table ∧ table.live.card = 1 ∧
      table.objects.length = maxObjects ∧ table.Complete (.endpoint "work" ⟨2⟩) ∧
      ∀ id after, (Creation.endpoint "work" ⟨2⟩).create table = .ok (id, after) → id ∉ given := by
  obtain ⟨given, table, reached, one, last⟩ := exists_reached_with_holes
  obtain ⟨⟨-, -, fresh⟩, complete⟩ := complete_iff_of_reached reached
  exact ⟨given, table, reached, one, last, (complete _).mpr (.inl trivial), fresh _⟩

end ObjectTable

end VertexOS
