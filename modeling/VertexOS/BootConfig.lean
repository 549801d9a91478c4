import VertexOS.KernelObjects

/-!
# The configuration of a boot

What the kernel keeps of an accepted boot manifest: processes, objects, grants, and the
policy facts that allow them.  Tables with a count are lists.
-/

namespace VertexOS

open ByteStrings

def bootProcessMountBind : BitVec 16 := BitVec.twoPow 16 0
def bootProcessMountReadOnly : BitVec 16 := BitVec.twoPow 16 1

/-- The object kinds of grants and namespace entries; a code without a meaning is kept. -/
inductive BootObjectKind where
  | endpoint
  | store
  | state
  | timer
  | networkPort
  | ioPortRange
  | mmioRegion
  | interruptLine
  | dmaRegion
  | pciDevice
  | virtioDevice
  | namespaceObject
  | vfsRoot
  | framebuffer
  | secret
  | unknown (code : Nat)
deriving DecidableEq, Repr

structure BootProcessMountConfig where
  path : String
  source : String
  flags : BitVec 16
deriving DecidableEq, Repr

structure BootProcessConfig where
  name : String
  graphNode : String
  imageBase : Nat
  imageLength : Nat
  initial : Bool
  restartPolicy : Nat
  mountRoot : String
  mounts : List BootProcessMountConfig
deriving DecidableEq, Repr

structure BootModuleConfig where
  name : String
  base : Nat
  length : Nat
deriving DecidableEq, Repr

structure BootStoreObjectConfig where
  id : String
  base : Nat
  length : Nat
  hash : String
deriving DecidableEq, Repr

structure BootStateVolumeConfig where
  id : String
  id_field : FieldName id
  owner : String
  schemaVersion : String
  storageClass : String
  migrationPolicy : String
  retentionPolicy : String
  sharingPolicy : String
deriving Repr

instance : DecidableEq BootStateVolumeConfig := fun one other =>
  decidable_of_iff (one.id = other.id ∧ one.owner = other.owner ∧
    one.schemaVersion = other.schemaVersion ∧ one.storageClass = other.storageClass ∧
    one.migrationPolicy = other.migrationPolicy ∧ one.retentionPolicy = other.retentionPolicy ∧
    one.sharingPolicy = other.sharingPolicy) (by cases one; cases other; simp)

def BootStateVolumeConfig.object (config : BootStateVolumeConfig) (id : KernelObjectId) :
    StateVolumeObject where
  id := id
  name := config.id
  name_field := config.id_field
  owner := config.owner
  schemaVersion := config.schemaVersion
  storageClass := config.storageClass
  migrationPolicy := config.migrationPolicy
  retentionPolicy := config.retentionPolicy
  sharingPolicy := config.sharingPolicy

structure BootInterruptLineConfig where
  id : String
  line : Nat
deriving DecidableEq, Repr

structure BootNamespaceEntryConfig where
  path : String
  objectKind : BootObjectKind
  objectIndex : Nat
  rights : Rights
deriving DecidableEq, Repr

structure BootNamespaceConfig where
  id : String
  entries : List BootNamespaceEntryConfig
deriving DecidableEq, Repr

structure BootVfsRootConfig where
  id : String
  rootPath : String
deriving DecidableEq, Repr

structure BootGrantConfig where
  processIndex : Nat
  capSlot : Nat
  objectKind : BootObjectKind
  objectIndex : Nat
  rights : Rights
deriving DecidableEq, Repr

structure BootPolicyCapabilityConfig where
  id : String
  provider : String
  objectKind : BootObjectKind
  objectIndex : Nat
  rights : Rights
deriving DecidableEq, Repr

structure BootPolicyRequirementConfig where
  service : String
  capability : String
  rights : Rights
deriving DecidableEq, Repr

structure BootPolicyProvideConfig where
  service : String
  capability : String
deriving DecidableEq, Repr

structure BootPolicyMountConfig where
  service : String
  mountRoot : String
  path : String
  source : String
  flags : BitVec 16
deriving DecidableEq, Repr

structure BootPolicyStatePathConfig where
  service : String
  state : String
  root : String
  rights : Rights
deriving DecidableEq, Repr

structure BootPolicyBootstrapConfig where
  service : String
  authority : String
  rule : String
  rights : Rights
deriving DecidableEq, Repr

/-- Devices are kept by name, interrupt lines with their number: addresses only
matter to drivers. -/
structure BootRuntimeConfig where
  generationId : String
  processes : List BootProcessConfig
  endpoints : List String
  manifestModule : Option BootModuleConfig
  storeObjects : List BootStoreObjectConfig
  stateVolumes : List BootStateVolumeConfig
  networkPorts : List String
  ioPorts : List String
  mmioRegions : List String
  framebuffers : List String
  interruptLines : List BootInterruptLineConfig
  dmaRegions : List String
  pciDevices : List String
  virtioDevices : List String
  namespaces : List BootNamespaceConfig
  vfsRoots : List BootVfsRootConfig
  grants : List BootGrantConfig
  policyCapabilities : List BootPolicyCapabilityConfig
  policyRequirements : List BootPolicyRequirementConfig
  policyProvides : List BootPolicyProvideConfig
  policyMounts : List BootPolicyMountConfig
  policyStatePaths : List BootPolicyStatePathConfig
  policyBootstraps : List BootPolicyBootstrapConfig
deriving DecidableEq, Repr

end VertexOS
