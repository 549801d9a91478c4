import Mathlib.Data.List.Basic

/-! # Generation manifests -/

namespace VertexOS.VertexIr

/-- A JSON value.  Of a number only its reading as an unsigned integer is used. -/
inductive JsonValue where
  | null
  | bool (value : Bool)
  | number (asU64 : Option Nat)
  | string (text : String)
  | array (items : List JsonValue)
  | object (fields : List (String × JsonValue))

namespace JsonValue

def asStr : JsonValue → Option String
  | .string text => some text
  | _ => none

def asArray : JsonValue → Option (List JsonValue)
  | .array items => some items
  | _ => none

def asObject : JsonValue → Option (List (String × JsonValue))
  | .object fields => some fields
  | _ => none

def asU64 : JsonValue → Option Nat
  | .number value => value
  | _ => none

def isBoolean : JsonValue → Bool
  | .bool _ => true
  | _ => false

def get (value : JsonValue) (key : String) : Option JsonValue :=
  value.asObject.bind fun fields => fields.lookup key

end JsonValue

structure StoreObject where
  id : String
  kind : String
  path : String
  references : List String := []

structure Executable where
  id : String
  storeObject : String
  entrypoint : String

structure ManifestCapability where
  id : String
  kind : String
  provider : String
  rights : List String
  properties : JsonValue

structure CapabilityRequirement where
  capability : String
  rights : List String

structure HealthCheck where
  kind : String
  target : Option String

/-- A service with its mount root and its mounts, which stand outside the fixed fields. -/
structure Service where
  id : String
  executable : String
  requires : List CapabilityRequirement
  provides : List String
  state : List String
  secrets : List String
  configs : List String
  restart : String
  health : Option HealthCheck
  startAfter : List String
  stopBefore : List String
  mountRoot : Option JsonValue
  mounts : Option JsonValue

structure StateVolume where
  id : String
  kind : String
  owner : String
  schemaVersion : String
  storageClass : String
  migrationPolicy : JsonValue
  retentionPolicy : JsonValue
  sharingPolicy : JsonValue

structure Device where
  id : String
  kind : String
  selector : JsonValue
  driver : String
  properties : JsonValue

structure ManifestPolicies where
  defaultAuthority : String
  capabilityDelegation : String
  unknownReferences : String

structure GenerationManifest where
  schema : String
  generationId : String
  generationParent : Option String := none
  kernelId : String
  kernelStoreObject : String
  initId : String
  initExecutable : String
  initMode : String
  store : List StoreObject
  executables : List Executable
  devices : List Device
  stateVolumes : List StateVolume
  secrets : List String
  capabilities : List ManifestCapability
  services : List Service
  rootService : String
  startOrder : List String
  onFailure : String
  policies : ManifestPolicies

namespace GenerationManifest

variable (manifest : GenerationManifest)

def storeObject (id : String) : Option StoreObject :=
  manifest.store.find? fun item => item.id = id

def executable (id : String) : Option Executable :=
  manifest.executables.find? fun item => item.id = id

def service (id : String) : Option Service :=
  manifest.services.find? fun item => item.id = id

def capability (id : String) : Option ManifestCapability :=
  manifest.capabilities.find? fun item => item.id = id

def stateVolume (id : String) : Option StateVolume :=
  manifest.stateVolumes.find? fun item => item.id = id

def secret (id : String) : Option String :=
  manifest.secrets.find? fun item => item = id

variable {manifest}

theorem mem_of_service {id : String} {service : Service}
    (found : manifest.service id = some service) : service ∈ manifest.services ∧ service.id = id :=
  ⟨List.mem_of_find?_eq_some found, by simpa using List.find?_some found⟩

theorem mem_of_stateVolume {id : String} {volume : StateVolume}
    (found : manifest.stateVolume id = some volume) :
    volume ∈ manifest.stateVolumes ∧ volume.id = id :=
  ⟨List.mem_of_find?_eq_some found, by simpa using List.find?_some found⟩

end GenerationManifest

end VertexOS.VertexIr
