import VertexOS.KernelObjects
import VertexOS.SlotTables

/-!
# The object table

Objects are found by their number, and most are added at the end.
-/

namespace VertexOS

open ByteStrings SlotTables

def bootEndpointId : Nat := 1

def maxObjects : Nat := 128

structure ObjectTable where
  objects : Slots KernelObject
  nextId : Nat
  length_le : objects.length ≤ maxObjects
  id_lt : ∀ object, some object ∈ objects → object.id.raw < nextId

namespace ObjectTable

variable (table : ObjectTable) (id : KernelObjectId) (name : String) (owner : ProcessId)

def empty : ObjectTable where
  objects := []
  nextId := bootEndpointId
  length_le := by decide
  id_lt := by simp

def append {ε : Type} (table : ObjectTable) (full : ε) (make : KernelObjectId → KernelObject)
    (made : ∀ id, (make id).id = id) : Except ε (KernelObjectId × ObjectTable) :=
  if room : table.objects.length < maxObjects then
    .ok (⟨table.nextId⟩,
      { objects := table.objects ++ [some (make ⟨table.nextId⟩)]
        nextId := table.nextId + 1
        length_le := by simpa using room
        id_lt := by
          intro object member
          rcases List.mem_append.mp member with old | new
          · have := table.id_lt object old
            omega
          · have same : object = make ⟨table.nextId⟩ := by simpa using new
            subst same
            simp [made] })
  else .error full

def insert {ε : Type} (table : ObjectTable) (full : ε) (make : KernelObjectId → KernelObject)
    (made : ∀ id, (make id).id = id) : Except ε (KernelObjectId × ObjectTable) :=
  match filled : fillFirst (make ⟨table.nextId⟩) table.objects with
  | some slots =>
    .ok (⟨table.nextId⟩,
      { objects := slots
        nextId := table.nextId + 1
        length_le := (length_of_fillFirst filled).trans_le table.length_le
        id_lt := by
          intro object member
          rcases (mem_of_fillFirst filled).mp member with rfl | old
          · simp [made]
          · have := table.id_lt object old
            omega })
  | none => table.append full make made

def addEndpointOwned :
    Except InitError (KernelObjectId × ObjectTable) :=
  table.insert .objectTableFull (fun id => .ipcEndpoint (.new id name owner)) fun _ => rfl

def addEndpoint :
    Except InitError (KernelObjectId × ObjectTable) :=
  table.addEndpointOwned name .empty

def addBootModule (base length : Nat) :
    Except InitError (KernelObjectId × ObjectTable) :=
  table.append .objectTableFull (fun id => .bootModule { id, name, base, length }) fun _ => rfl

def addStoreObject (base length : Nat) (hash : String) :
    Except InitError (KernelObjectId × ObjectTable) :=
  table.append .objectTableFull (fun id => .storeObject { id, name, base, length, hash })
    fun _ => rfl

def addStateVolume (describe : KernelObjectId → StateVolumeObject)
    (described : ∀ id, (describe id).id = id) :
    Except InitError (KernelObjectId × ObjectTable) :=
  table.append .objectTableFull (fun id => .stateVolume (describe id)) described

/-- Timers, port ranges, memory regions and devices differ only in the kind of object. -/
def addDevice (kind : DeviceObject → KernelObject) (name : String)
    (kept : ∀ device, (kind device).id = device.id) :
    Except InitError (KernelObjectId × ObjectTable) :=
  table.append .objectTableFull (fun id => kind { id, name }) fun _ => kept _

def addNetworkPort :
    Except InitError (KernelObjectId × ObjectTable) :=
  table.append .objectTableFull (fun id => .networkPort (.new id name)) fun _ => rfl

def addInterruptLine (line : Nat) :
    Except InitError (KernelObjectId × ObjectTable) :=
  table.append .objectTableFull (fun id => .interruptLine (.new id name line)) fun _ => rfl

def addNamespace (entries : List NamespaceEntry) :
    Except InitError (KernelObjectId × ObjectTable) :=
  table.append .objectTableFull (fun id => .namespaceObject { id, name, entries }) fun _ => rfl

def addVfsRoot (name rootPath : String) :
    Except InitError (KernelObjectId × ObjectTable) :=
  if table.objects.length = maxObjects then .error .objectTableFull
  else do
    let rootPath ← VfsPath.fromBootRootPath rootPath
    table.append .objectTableFull (fun id => .vfsRoot { id, name, rootPath, derived := false })
      fun _ => rfl

def derivedRootName : String := "vfs-root:derived"

def addDerivedVfsRoot (rootPath : VfsPath) :
    Except IpcError (KernelObjectId × ObjectTable) :=
  table.append .badCapability
    (fun id => .vfsRoot { id, name := derivedRootName, rootPath, derived := true }) fun _ => rfl

/-- A mount goes into the first empty slot, but is refused as soon as no slot is
left behind the last one. -/
def addVfsMount (rootNode : VfsNodeId)
    (rootPath : VfsPath) (source : String) (flags : BitVec 64) (dynamic : Bool)
    (owner : ProcessId) : Except InitError (KernelObjectId × ObjectTable) :=
  if table.objects.length = maxObjects then .error .objectTableFull
  else
    table.insert .objectTableFull
      (fun id => .vfsMount { id, name, rootNode, rootPath, source, flags, dynamic, owner })
      fun _ => rfl

def addProcessControl :
    Except InitError (KernelObjectId × ObjectTable) :=
  table.append .objectTableFull (fun id => .processControl { id, name }) fun _ => rfl

def addSecret (value : Bytes) :
    Except InitError (KernelObjectId × ObjectTable) :=
  table.append .objectTableFull (fun id => .secret { id, name, value }) fun _ => rfl

/-- Keep only some of the entries, in a table no longer than before. -/
def restrict (slots : Slots KernelObject)
    (shorter : slots.length ≤ table.objects.length)
    (kept : ∀ object, some object ∈ slots → some object ∈ table.objects) : ObjectTable where
  objects := slots
  nextId := table.nextId
  length_le := shorter.trans table.length_le
  id_lt := fun object member => table.id_lt object (kept object member)

def removeFirst (wanted : KernelObject → Bool) : ObjectTable :=
  table.restrict (trimEmptyTail (clearFirst wanted table.objects))
    ((length_trimEmptyTail_le _).trans (length_clearFirst ..).le)
    fun _ member => mem_of_mem_clearFirst (mem_of_mem_trimEmptyTail member)

def removeAll (wanted : KernelObject → Bool) : ObjectTable :=
  table.restrict (trimEmptyTail (clearAll wanted table.objects))
    ((length_trimEmptyTail_le _).trans (length_clearAll ..).le)
    fun _ member => mem_of_mem_clearAll (mem_of_mem_trimEmptyTail member)

def isEndpointOf : KernelObject → Bool
  | .ipcEndpoint endpoint => endpoint.owner = owner
  | _ => false

def removeOwnedEndpoints : ObjectTable :=
  table.removeAll (isEndpointOf owner)

def vfsMountBind : BitVec 64 := BitVec.twoPow 64 1

def isBindMountOf (dynamic : Bool) : KernelObject → Bool
  | .vfsMount mount =>
    mount.dynamic = dynamic ∧ mount.owner = owner ∧ mount.flags &&& vfsMountBind ≠ 0
  | _ => false

def isOwnedEndpoint : KernelObject → Bool
  | .ipcEndpoint endpoint => endpoint.id = id ∧ endpoint.owner = owner
  | _ => false

def removeOwnedEndpoint :
    ObjectTable :=
  table.removeFirst (isOwnedEndpoint id owner)

def isDerivedVfsRoot : KernelObject → Bool
  | .vfsRoot root => root.id = id ∧ root.derived
  | _ => false

def derivedVfsRoots : List KernelObjectId :=
  table.objects.filterMap fun
    | some (.vfsRoot root) => if root.derived then some root.id else none
    | _ => none

def removeDerivedVfsRoot : ObjectTable :=
  table.removeFirst (isDerivedVfsRoot id)

def lookup {α : Type} (table : ObjectTable) (choose : KernelObject → Option α) : Option α :=
  select choose table.objects

def endpointWithId : KernelObject → Option IpcEndpoint
  | .ipcEndpoint endpoint => if endpoint.id = id then some endpoint else none
  | _ => none

def getEndpoint : Option IpcEndpoint :=
  table.lookup (endpointWithId id)

def modifyFirst (wanted : KernelObject → Bool)
    (change : KernelObject → KernelObject) (kept : ∀ object, (change object).id = object.id) :
    ObjectTable where
  objects := updateFirst wanted change table.objects
  nextId := table.nextId
  length_le := (length_updateFirst ..).trans_le table.length_le
  id_lt := by
    intro object member
    rcases mem_updateFirst member with old | ⟨old, oldMember, rfl⟩
    · exact table.id_lt object old
    · rw [kept]
      exact table.id_lt old oldMember

def setEndpointQueue (queue : MessageQueue) :
    ObjectTable :=
  table.modifyFirst (fun object => (endpointWithId id object).isSome)
    (fun
      | .ipcEndpoint endpoint => .ipcEndpoint { endpoint with queue }
      | object => object)
    fun object => by cases object <;> rfl

def networkPortWithId : KernelObject → Option NetworkPortObject
  | .networkPort port => if port.id = id then some port else none
  | _ => none

def getNetworkPort : Option NetworkPortObject :=
  table.lookup (networkPortWithId id)

def setPortQueue (queue : MessageQueue) :
    ObjectTable :=
  table.modifyFirst (fun object => (networkPortWithId id object).isSome)
    (fun
      | .networkPort port => .networkPort { port with queue }
      | object => object)
    fun object => by cases object <;> rfl

def interruptLineWithId : KernelObject → Option InterruptLineObject
  | .interruptLine line => if line.id = id then some line else none
  | _ => none

def getInterruptLine : Option InterruptLineObject :=
  table.lookup (interruptLineWithId id)

def getInterruptLineByNumber (number : Nat) : Option InterruptLineObject :=
  table.lookup fun
    | .interruptLine line => if line.line = number then some line else none
    | _ => none

def setLineCounts (pendingCount deliveredCount : Nat) :
    ObjectTable :=
  table.modifyFirst (fun object => (interruptLineWithId id object).isSome)
    (fun
      | .interruptLine line => .interruptLine { line with pendingCount, deliveredCount }
      | object => object)
    fun object => by cases object <;> rfl

def getNamespace : Option NamespaceObject :=
  table.lookup fun
    | .namespaceObject object => if object.id = id then some object else none
    | _ => none

def vfsRootWithId : KernelObject → Option VfsRootObject
  | .vfsRoot root => if root.id = id then some root else none
  | _ => none

def getVfsRoot : Option VfsRootObject :=
  table.lookup (vfsRootWithId id)

def getStoreObject : Option StoreObject :=
  table.lookup fun
    | .storeObject object => if object.id = id then some object else none
    | _ => none

def getStateVolume : Option StateVolumeObject :=
  table.lookup fun
    | .stateVolume object => if object.id = id then some object else none
    | _ => none

def getProcessControl :
    Option ProcessControlObject :=
  table.lookup fun
    | .processControl object => if object.id = id then some object else none
    | _ => none

def getTimer : Option DeviceObject :=
  table.lookup fun
    | .timer object => if object.id = id then some object else none
    | _ => none

def getVirtioDevice : Option DeviceObject :=
  table.lookup fun
    | .virtioDevice object => if object.id = id then some object else none
    | _ => none

def vfsMounts : List VfsMountObject :=
  table.objects.filterMap fun
    | some (.vfsMount mount) => some mount
    | _ => none

def getVfsMountByRootNode (rootNode : VfsNodeId) :
    Option VfsMountObject :=
  table.vfsMounts.find? fun mount => mount.rootNode = rootNode

def getVfsMountByPath (path : Bytes) : Option VfsMountObject :=
  table.vfsMounts.foldl
    (fun best mount =>
      let bestLength := best.elim 0 fun mount : VfsMountObject => mount.rootPath.bytes.length
      if vfsAuthorityPathCovers mount.rootPath.bytes path ∧
          bestLength ≤ mount.rootPath.bytes.length then some mount
      else best)
    none

def getVfsMountByExactPath (path : Bytes) : Option VfsMountObject :=
  table.vfsMounts.find? fun mount => mount.rootPath.bytes = path

end ObjectTable

end VertexOS
