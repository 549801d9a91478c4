import VertexOS.MessageTransport

/-!
# Kernel objects and rights

The objects that capabilities name.  Network ports and interrupt lines keep what
waits for a process; the registers and mappings of other devices are driver state.
-/

namespace VertexOS

open ByteStrings

abbrev Rights := BitVec 64

def rightOfBit (index : Nat) : Rights := BitVec.twoPow 64 index

def rightRead : Rights := rightOfBit 0
def rightWrite : Rights := rightOfBit 1
def rightExecute : Rights := rightOfBit 3
def rightSend : Rights := rightOfBit 4
def rightReceive : Rights := rightOfBit 5
def rightControl : Rights := rightOfBit 6
def rightAllocate : Rights := rightOfBit 7
def rightBind : Rights := rightOfBit 10
def rightListen : Rights := rightOfBit 11
def rightDelegate : Rights := rightOfBit 12
def rightRevoke : Rights := rightOfBit 13
def rightInspect : Rights := rightOfBit 14
def rightCreate : Rights := rightOfBit 15
def rightStart : Rights := rightOfBit 16
def rightKill : Rights := rightOfBit 17
def rightWait : Rights := rightOfBit 18
def rightInspectMetadata : Rights := rightOfBit 22
def rightResolve : Rights := rightOfBit 23
def rightUnlink : Rights := rightOfBit 24
def rightRename : Rights := rightOfBit 25
def rightMount : Rights := rightOfBit 26

namespace Rights

def Within (rights bound : Rights) : Prop := rights &&& ~~~bound = 0

instance (rights bound : Rights) : Decidable (Within rights bound) :=
  inferInstanceAs (Decidable (_ = _))

def Has (rights required : Rights) : Prop := rights &&& required = required

instance (rights required : Rights) : Decidable (Has rights required) :=
  inferInstanceAs (Decidable (_ = _))

end Rights

structure BootModuleObject where
  id : KernelObjectId
  name : String
  base : Nat
  length : Nat
deriving DecidableEq

structure StoreObject where
  id : KernelObjectId
  name : String
  base : Nat
  length : Nat
  hash : String
deriving DecidableEq

def manifestStringLen : Nat := 64

/-- What a string field of the boot manifest can hold. -/
def FieldName (name : String) : Prop :=
  utf8 name ≠ [] ∧ (utf8 name).length ≤ manifestStringLen

structure StateVolumeObject where
  id : KernelObjectId
  name : String
  name_field : FieldName name
  owner : String
  schemaVersion : String
  storageClass : String
  migrationPolicy : String
  retentionPolicy : String
  sharingPolicy : String
deriving DecidableEq

structure DeviceObject where
  id : KernelObjectId
  name : String
deriving DecidableEq

structure NetworkPortObject where
  id : KernelObjectId
  name : String
  queue : MessageQueue
deriving DecidableEq

namespace NetworkPortObject

def new (id : KernelObjectId) (name : String) : NetworkPortObject :=
  { id, name, queue := .empty }

def hasPendingUdp (port : NetworkPortObject) : Bool := port.queue.messages ≠ []

end NetworkPortObject

structure InterruptLineObject where
  id : KernelObjectId
  name : String
  line : Nat
  pendingCount : Nat
  deliveredCount : Nat
deriving DecidableEq

namespace InterruptLineObject

def new (id : KernelObjectId) (name : String) (line : Nat) : InterruptLineObject :=
  { id, name, line, pendingCount := 0, deliveredCount := 0 }

end InterruptLineObject

structure NamespaceEntry where
  path : String
  object : KernelObjectId
  rights : Rights
deriving DecidableEq

structure NamespaceObject where
  id : KernelObjectId
  name : String
  entries : List NamespaceEntry
deriving DecidableEq

def NamespaceObject.resolve (space : NamespaceObject) (path : Bytes) : Option NamespaceEntry :=
  space.entries.find? fun entry => utf8 entry.path = path

structure VfsRootObject where
  id : KernelObjectId
  name : String
  rootPath : VfsPath
  derived : Bool
deriving DecidableEq

structure VfsMountObject where
  id : KernelObjectId
  name : String
  rootNode : VfsNodeId
  rootPath : VfsPath
  source : String
  flags : BitVec 64
  dynamic : Bool
  owner : ProcessId
deriving DecidableEq

structure ProcessControlObject where
  id : KernelObjectId
  name : String
deriving DecidableEq

structure SecretObject where
  id : KernelObjectId
  name : String
  value : Bytes
deriving DecidableEq

inductive KernelObject where
  | ipcEndpoint (object : IpcEndpoint)
  | bootModule (object : BootModuleObject)
  | storeObject (object : StoreObject)
  | stateVolume (object : StateVolumeObject)
  | timer (object : DeviceObject)
  | networkPort (object : NetworkPortObject)
  | ioPortRange (object : DeviceObject)
  | mmioRegion (object : DeviceObject)
  | framebuffer (object : DeviceObject)
  | interruptLine (object : InterruptLineObject)
  | dmaRegion (object : DeviceObject)
  | pciDevice (object : DeviceObject)
  | virtioDevice (object : DeviceObject)
  | namespaceObject (object : NamespaceObject)
  | vfsRoot (object : VfsRootObject)
  | vfsMount (object : VfsMountObject)
  | processControl (object : ProcessControlObject)
  | secret (object : SecretObject)
deriving DecidableEq

def KernelObject.id : KernelObject → KernelObjectId
  | ipcEndpoint object => object.id
  | bootModule object => object.id
  | storeObject object => object.id
  | stateVolume object => object.id
  | timer object => object.id
  | networkPort object => object.id
  | ioPortRange object => object.id
  | mmioRegion object => object.id
  | framebuffer object => object.id
  | interruptLine object => object.id
  | dmaRegion object => object.id
  | pciDevice object => object.id
  | virtioDevice object => object.id
  | namespaceObject object => object.id
  | vfsRoot object => object.id
  | vfsMount object => object.id
  | processControl object => object.id
  | secret object => object.id

end VertexOS
