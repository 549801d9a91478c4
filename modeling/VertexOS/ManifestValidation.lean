import VertexOS.VertexIr
import Mathlib.Data.List.Nodup

/-!
# The checks of a manifest

Each check of a manifest is the list of the errors it reports.  Identifiers are typed: a
prefix of lower-case letters, a colon and a name, and no two declared things share one.
-/

namespace VertexOS.VertexIr

def errorIf (wrong : Prop) [Decidable wrong] (message : String) : List String :=
  if wrong then [message] else []

def isAsciiLowercase (char : Char) : Bool := 'a' ≤ char ∧ char ≤ 'z'

def isAsciiDigit (char : Char) : Bool := '0' ≤ char ∧ char ≤ '9'

def isAsciiAlphanumeric (char : Char) : Bool :=
  isAsciiLowercase char || isAsciiDigit char || ('A' ≤ char ∧ char ≤ 'Z')

def isPrefixChar (char : Char) : Bool :=
  isAsciiLowercase char || isAsciiDigit char || char = '_' || char = '-'

def isSuffixChar (char : Char) : Bool :=
  isAsciiAlphanumeric char || char ∈ ['.', '_', '@', '/', '+', '*', '-']

def splitOnce (text : List Char) : Option (List Char × List Char) :=
  if ':' ∈ text then some (text.takeWhile (· ≠ ':'), (text.dropWhile (· ≠ ':')).tail) else none

def isValidId (id : String) : Bool :=
  match splitOnce id.toList with
  | some (first :: rest, suffix) =>
    suffix ≠ [] ∧ isAsciiLowercase first ∧ rest.all isPrefixChar ∧ suffix.all isSuffixChar
  | _ => false

namespace GenerationManifest

def declarations (manifest : GenerationManifest) : List (String × String) :=
  [(manifest.generationId, "generation"), (manifest.kernelId, "kernel"),
    (manifest.initId, "init")] ++
  manifest.store.map (fun store => (store.id, "store object")) ++
  manifest.executables.map (fun executable => (executable.id, "executable")) ++
  manifest.devices.map (fun device => (device.id, "device")) ++
  manifest.stateVolumes.map (fun state => (state.id, "state volume")) ++
  manifest.secrets.map (fun secret => (secret, "secret")) ++
  manifest.capabilities.map (fun capability => (capability.id, "capability")) ++
  manifest.services.map (fun service => (service.id, "service"))

def ids (manifest : GenerationManifest) : List String := manifest.declarations.map Prod.fst

end GenerationManifest

def recordIds : List (String × String) → List (String × String) → List String
  | _, [] => []
  | owners, (id, owner) :: rest =>
    errorIf (isValidId id = false) s!"{owner} id {id} is not a valid typed Vertex ID" ++
    (match owners.lookup id with
      | some previous => [s!"id {id} is duplicated by {previous} and {owner}"]
      | none => []) ++
    recordIds ((id, owner) :: owners) rest

def collectIds (manifest : GenerationManifest) : List String := recordIds [] manifest.declarations

def plainPathChars : List Char → Bool
  | previous :: char :: rest =>
    char ≠ '\x00' ∧ ¬(char = '/' ∧ previous = '/') ∧ plainPathChars (char :: rest)
  | _ => true

def isValidVfsAbsolutePath (path : String) : Bool :=
  path.toList.head? = some '/' ∧ ¬(1 < path.toList.length ∧ path.toList.getLast? = some '/') ∧
    plainPathChars path.toList

def validRights : List String :=
  ["read", "write", "send", "bind", "listen", "connect", "map", "execute", "control", "snapshot",
    "restore", "delegate", "revoke", "resolve", "create", "unlink", "rename", "mount"]

def isValidRight (right : String) : Bool := right ∈ validRights

section Checks

variable (manifest : GenerationManifest) (state : StateVolume)

def validateSchemaVersion : List String :=
  errorIf (manifest.schema ≠ "vertex.ir.v0")
    s!"schema must be vertex.ir.v0, found {manifest.schema}"

def validatePolicy : List String :=
  errorIf (manifest.policies.defaultAuthority ≠ "deny") "policies.defaultAuthority must be deny" ++
  errorIf (manifest.policies.capabilityDelegation ≠ "explicit-only")
    "policies.capabilityDelegation must be explicit-only" ++
  errorIf (manifest.policies.unknownReferences ≠ "reject" ∧
      manifest.policies.unknownReferences ≠ "warn")
    "policies.unknownReferences must be reject or warn"

def validateKernelAndInit : List String :=
  errorIf (manifest.storeObject manifest.kernelStoreObject).isNone
    s!"kernel {manifest.kernelId} references unknown store object {manifest.kernelStoreObject}" ++
  errorIf (manifest.executable manifest.initExecutable).isNone
    s!"init {manifest.initId} references unknown executable {manifest.initExecutable}" ++
  errorIf (manifest.initMode ≠ "hosted-linux" ∧ manifest.initMode ≠ "krust-native")
    s!"init {manifest.initId} has unsupported mode {manifest.initMode}"

def validateExecutables : List String :=
  manifest.executables.flatMap fun executable =>
    errorIf (manifest.storeObject executable.storeObject).isNone
      s!"executable {executable.id} references unknown store object {executable.storeObject}"

def validateIpcEndpointRights (capabilityId : String) (rights : List String) (context : String) :
    List String :=
  rights.flatMap fun right => errorIf (right ≠ "send")
    s!"{context} {capabilityId} declares {right} authority on an ipc endpoint; ipc endpoint declarations are send-only"

def validateVfsRootCapability (capability : ManifestCapability) : List String :=
  match (capability.properties.get "root").bind JsonValue.asStr with
  | none => [s!"vfs-root capability {capability.id} missing root"]
  | some root => errorIf (isValidVfsAbsolutePath root = false)
      s!"vfs-root capability {capability.id} root {root} must be an absolute non-trailing-slash path"

def validateCapability (capability : ManifestCapability) : List String :=
  errorIf (capability.rights = []) s!"capability {capability.id} has no rights" ++
  capability.rights.flatMap (fun right => errorIf (isValidRight right = false)
    s!"capability {capability.id} declares unsupported right {right}") ++
  (if capability.kind = "ipc-endpoint" then
    validateIpcEndpointRights capability.id capability.rights "capability" else []) ++
  (if capability.kind = "vfs-root" then validateVfsRootCapability capability else []) ++
  errorIf (capability.provider ∉ manifest.ids)
    s!"capability {capability.id} has unknown provider {capability.provider}"

def validateCapabilities : List String :=
  manifest.capabilities.flatMap (validateCapability manifest)

def validateServiceMountRoot (service : Service) : List String :=
  match service.mountRoot with
  | none => [s!"service {service.id} must declare mountRoot"]
  | some value =>
    match value.asStr with
    | none => [s!"service {service.id} mountRoot must be a string"]
    | some root => errorIf (isValidVfsAbsolutePath root = false)
        s!"service {service.id} mountRoot {root} must be an absolute non-trailing-slash path"

def validateRequiredMountPath (value : Option JsonValue) (context field : String) :
    List String × Option String :=
  match value with
  | none => ([s!"{context} must declare {field}"], none)
  | some value =>
    match value.asStr with
    | none => ([s!"{context} {field} must be a string"], none)
    | some path =>
      if isValidVfsAbsolutePath path then ([], some path)
      else ([s!"{context} {field} {path} must be an absolute non-trailing-slash path"], none)

def validateServiceMount (context : String) (mount : JsonValue) : List String :=
  match mount with
  | .object _ =>
    let path := validateRequiredMountPath (mount.get "path") context "path"
    let source := validateRequiredMountPath (mount.get "source") context "source"
    path.1 ++ source.1 ++
    errorIf (path.2 = some "/") s!"{context} path cannot replace namespace root" ++
    (match mount.get "readOnly" with
      | some value => errorIf (value.isBoolean = false) s!"{context} readOnly must be a boolean"
      | none => [s!"{context} must declare readOnly"])
  | _ => [s!"{context} must be an object"]

def validateServiceMounts (service : Service) : List String :=
  match service.mounts with
  | none => []
  | some value =>
    match value.asArray with
    | none => [s!"service {service.id} mounts must be an array"]
    | some mounts =>
      errorIf (4 < mounts.length) s!"service {service.id} declares too many mounts; max 4" ++
      mounts.zipIdx.flatMap fun (mount, index) =>
        validateServiceMount s!"service {service.id} mounts[{index}]" mount

def stateSharingListContains (field serviceId : String) : Bool :=
  ((state.sharingPolicy.get field).bind JsonValue.asArray).elim false fun entries =>
    entries.any fun entry => entry.asStr = some serviceId

def stateSharingPolicyAllows (serviceId : String) : Bool :=
  (state.sharingPolicy.get "mode").bind JsonValue.asStr = some "explicit" ∧
    ["readers", "writers", "controllers"].any fun field =>
      stateSharingListContains state field serviceId

def validateProvided (service : Service) (provided : String) : List String :=
  match manifest.capability provided with
  | some capability => errorIf (capability.provider ≠ service.id)
      s!"service {service.id} provides {provided}, but the capability provider is {capability.provider}"
  | none => [s!"service {service.id} provides unknown capability {provided}"]

def joined (texts : List String) : String := ", ".intercalate texts

def validateRequirement (service : Service) (requirement : CapabilityRequirement) : List String :=
  match manifest.capability requirement.capability with
  | none => [s!"service {service.id} requires unknown capability {requirement.capability}"]
  | some capability =>
    errorIf (requirement.rights = [])
      s!"service {service.id} requires {requirement.capability} with no rights" ++
    requirement.rights.flatMap (fun right => errorIf (isValidRight right = false)
      s!"service {service.id} requires unsupported right {right} on {requirement.capability}") ++
    (if capability.kind = "ipc-endpoint" then
      requirement.rights.flatMap fun right => errorIf (right ≠ "send")
        s!"service {service.id} requires {right} authority on ipc endpoint {requirement.capability}; endpoint consumers may require send only"
      else []) ++
    requirement.rights.flatMap fun right => errorIf (right ∉ capability.rights)
      s!"service {service.id} requires right {right} on {requirement.capability}, but the capability only grants [{joined capability.rights}]"

def validateServiceState (service : Service) (state : String) : List String :=
  match manifest.stateVolume state with
  | none => [s!"service {service.id} references unknown state volume {state}"]
  | some volume => errorIf (volume.owner ≠ service.id ∧
        stateSharingPolicyAllows volume service.id = false)
      s!"service {service.id} references state volume {volume.id} owned by {volume.owner} without explicit sharing policy"

def validateServiceConfig (service : Service) (config : String) : List String :=
  match manifest.storeObject config with
  | none => [s!"service {service.id} references unknown config object {config}"]
  | some store => errorIf (store.kind ≠ "config")
      s!"service {service.id} config {config} references store object kind {store.kind}"

def validateService (service : Service) : List String :=
  errorIf (manifest.executable service.executable).isNone
    s!"service {service.id} references unknown executable {service.executable}" ++
  service.provides.flatMap (validateProvided manifest service) ++
  service.requires.flatMap (validateRequirement manifest service) ++
  service.state.flatMap (validateServiceState manifest service) ++
  service.secrets.flatMap (fun secret => errorIf (manifest.secret secret).isNone
    s!"service {service.id} references unknown secret {secret}") ++
  service.configs.flatMap (validateServiceConfig manifest service) ++
  service.startAfter.flatMap (fun dependency => errorIf (manifest.service dependency).isNone
    s!"service {service.id} startAfter references unknown service {dependency}") ++
  service.stopBefore.flatMap (fun dependency => errorIf (manifest.service dependency).isNone
    s!"service {service.id} stopBefore references unknown service {dependency}") ++
  errorIf (service.restart ∉ ["never", "on-failure", "always"])
    s!"service {service.id} has unsupported restart policy {service.restart}" ++
  validateServiceMountRoot service ++
  validateServiceMounts service

def validateServices : List String := manifest.services.flatMap (validateService manifest)

def requiredPolicyMode (value : JsonValue) (context : String) (allowed : List String) :
    List String × Option String :=
  match value with
  | .object _ =>
    match (value.get "mode").bind JsonValue.asStr with
    | none => ([s!"{context} must declare mode"], none)
    | some mode => (errorIf (mode ∉ allowed)
        s!"{context} mode {mode} is unsupported; expected one of [{joined allowed}]", some mode)
  | _ => ([s!"{context} must be an object with mode"], none)

def validateCompactAsciiField (context value : String) : List String :=
  errorIf (value = "" ∨ 64 < value.utf8ByteSize ∨ value.toList.any fun char => 128 ≤ char.toNat)
    s!"{context} must be non-empty ASCII and fit in a compact graph string"

def validateSharingEntry (field : String) (entry : JsonValue) :
    List String :=
  match entry.asStr with
  | none => [s!"state volume {state.id} sharingPolicy {field} entries must be service ids"]
  | some serviceId => errorIf (manifest.service serviceId).isNone
      s!"state volume {state.id} sharingPolicy {field} references unknown service {serviceId}"

def validateStateSharingPolicy : List String :=
  match (state.sharingPolicy.get "mode").bind JsonValue.asStr with
  | none => []
  | some mode =>
    ["readers", "writers", "controllers"].flatMap fun field =>
      match state.sharingPolicy.get field with
      | none => []
      | some value =>
        if mode = "owner-only" then
          [s!"state volume {state.id} sharingPolicy owner-only must not declare {field}"]
        else
          match value.asArray with
          | none => [s!"state volume {state.id} sharingPolicy {field} must be an array"]
          | some services => services.flatMap (validateSharingEntry manifest state field)

def storageClasses : List String := ["vertexdisk-v1", "hosted-local-directory"]

def validateStateVolume : List String :=
  let migration := requiredPolicyMode state.migrationPolicy
    s!"state volume {state.id} migrationPolicy" ["preserve", "migrate", "fork", "discard"]
  let retention := requiredPolicyMode state.retentionPolicy
    s!"state volume {state.id} retentionPolicy" ["retain-while-referenced", "retain-forever"]
  let sharing := requiredPolicyMode state.sharingPolicy
    s!"state volume {state.id} sharingPolicy" ["owner-only", "explicit"]
  let compact (field : String) (mode : Option String) : List String :=
    mode.elim [] (validateCompactAsciiField s!"state volume {state.id} {field}")
  errorIf (state.owner ∉ manifest.ids)
    s!"state volume {state.id} has unknown owner {state.owner}" ++
  (if state.schemaVersion = "" then [s!"state volume {state.id} must declare schemaVersion"]
    else validateCompactAsciiField s!"state volume {state.id} schemaVersion" state.schemaVersion) ++
  (if state.storageClass = "" then [s!"state volume {state.id} must declare storageClass"]
    else if state.storageClass ∉ storageClasses then
      [s!"state volume {state.id} has unsupported storageClass {state.storageClass}"]
    else validateCompactAsciiField s!"state volume {state.id} storageClass" state.storageClass) ++
  errorIf (state.kind ∉ storageClasses)
    s!"state volume {state.id} has unsupported kind {state.kind}" ++
  migration.1 ++ retention.1 ++ sharing.1 ++
  compact "migrationPolicy.mode" migration.2 ++ compact "retentionPolicy.mode" retention.2 ++
  compact "sharingPolicy.mode" sharing.2 ++
  validateStateSharingPolicy manifest state

def validateStateVolumes : List String :=
  manifest.stateVolumes.flatMap (validateStateVolume manifest)

end Checks

def hasLegacyMarker (text : String) : Bool :=
  (text.toList.map Char.toLower).tails.any fun rest => "legacy".toList.isPrefixOf rest

mutual

def containsLegacyMarker : JsonValue → Bool
  | .string text => hasLegacyMarker text
  | .array items => containsLegacyItem items
  | .object fields => containsLegacyField fields
  | _ => false

def containsLegacyItem : List JsonValue → Bool
  | [] => false
  | item :: rest => containsLegacyMarker item || containsLegacyItem rest

def containsLegacyField : List (String × JsonValue) → Bool
  | [] => false
  | (_, value) :: rest => containsLegacyMarker value || containsLegacyField rest

end

def hardwareCapabilityKinds : List String :=
  ["io-port", "mmio-region", "interrupt-line", "dma-region", "pci-device", "virtio-device"]

section

variable (manifest : GenerationManifest)

def validateDevice (device : Device) : List String :=
  match manifest.service device.driver with
  | none => [s!"device {device.id} references unknown driver service {device.driver}"]
  | some driver =>
    errorIf driver.health.isNone
      s!"device {device.id} driver {device.driver} must declare a health check" ++
    errorIf (containsLegacyMarker (.string device.kind) ∨ containsLegacyMarker device.selector ∨
        containsLegacyMarker device.properties)
      s!"device {device.id} declares a legacy transport marker; upgrade the device declaration instead of keeping compatibility mode"

/-- A hardware capability of a declared device is required by its driver alone. -/
def validateHardwareRequirement (service : Service) (requirement : CapabilityRequirement) :
    List String :=
  match manifest.capability requirement.capability with
  | none => []
  | some capability =>
    if capability.kind ∈ hardwareCapabilityKinds then
      match manifest.devices.find? fun device => device.id = capability.provider with
      | none => []
      | some device => errorIf (device.driver ≠ service.id)
          s!"service {service.id} requires hardware capability {capability.id} owned by driver {device.driver}; hardware authority is granted only to the declared driver"
    else []

def validateHardwareCapabilityOwnership : List String :=
  manifest.services.flatMap fun service =>
    service.requires.flatMap (validateHardwareRequirement manifest service)

def validateDevices : List String :=
  manifest.devices.flatMap (validateDevice manifest) ++ validateHardwareCapabilityOwnership manifest

def validateActivation : List String :=
  errorIf (manifest.service manifest.rootService).isNone
    s!"activation.rootService references unknown service {manifest.rootService}" ++
  manifest.startOrder.flatMap (fun service => errorIf (manifest.service service).isNone
    s!"activation.startOrder references unknown service {service}") ++
  errorIf (manifest.onFailure ∉ ["stop-activation", "continue", "rollback"])
    s!"activation.onFailure must be stop-activation, continue, or rollback; found {manifest.onFailure}"

/-- The errors of a manifest.  Its warnings change nothing. -/
def validateManifest : List String :=
  collectIds manifest ++ validateSchemaVersion manifest ++ validatePolicy manifest ++
  validateKernelAndInit manifest ++ validateExecutables manifest ++
  validateCapabilities manifest ++ validateServices manifest ++ validateStateVolumes manifest ++
  validateDevices manifest ++ validateActivation manifest

end

def GenerationManifest.Accepted (manifest : GenerationManifest) : Prop :=
  validateManifest manifest = []

instance (manifest : GenerationManifest) : Decidable manifest.Accepted :=
  inferInstanceAs (Decidable (_ = _))

theorem recordIds_eq_nil {owners declared : List (String × String)}
    (clean : recordIds owners declared = []) :
    (declared.map Prod.fst).Nodup ∧ ∀ entry ∈ declared, owners.lookup entry.1 = none := by
  induction declared generalizing owners with
  | nil => simp
  | cons first rest ih =>
    obtain ⟨id, owner⟩ := first
    simp only [recordIds, List.append_eq_nil_iff] at clean
    obtain ⟨⟨_, unseen⟩, clean⟩ := clean
    obtain ⟨nodup, fresh⟩ := ih clean
    have isNew : owners.lookup id = none := by
      cases found : owners.lookup id with
      | none => rfl
      | some previous => simp [found] at unseen
    have later : ∀ entry ∈ rest, entry.1 ≠ id ∧ owners.lookup entry.1 = none := by
      intro entry member
      have none := fresh entry member
      rw [List.lookup_cons] at none
      split at none
      · cases none
      · rename_i apart
        exact ⟨by simpa using apart, none⟩
    refine ⟨List.nodup_cons.mpr ⟨fun again => ?_, nodup⟩, ?_⟩
    · obtain ⟨entry, member, same⟩ := List.mem_map.mp again
      exact (later entry member).1 same
    · intro entry member
      rcases List.mem_cons.mp member with rfl | inRest
      · exact isNew
      · exact (later entry inRest).2

namespace GenerationManifest

variable {manifest : GenerationManifest}

theorem Accepted.ids_nodup (accepted : manifest.Accepted) : manifest.ids.Nodup := by
  have clean : collectIds manifest = [] := by
    unfold Accepted validateManifest at accepted
    simp only [List.append_eq_nil_iff] at accepted
    tauto
  exact (recordIds_eq_nil clean).1

theorem Accepted.stateVolume_ext (accepted : manifest.Accepted) {first second : StateVolume}
    (member : first ∈ manifest.stateVolumes) (memberToo : second ∈ manifest.stateVolumes)
    (sameId : first.id = second.id) : first = second := by
  have volumes : (manifest.stateVolumes.map StateVolume.id).Sublist manifest.ids := by
    simp only [ids, declarations, List.map_append, List.map_map, List.append_assoc]
    refine .trans ?_ (List.sublist_append_right _ _)
    refine .trans ?_ (List.sublist_append_right _ _)
    refine .trans ?_ (List.sublist_append_right _ _)
    refine .trans ?_ (List.sublist_append_right _ _)
    exact List.sublist_append_left _ _
  exact List.inj_on_of_nodup_map (accepted.ids_nodup.sublist volumes) member memberToo sameId

end GenerationManifest

end VertexOS.VertexIr
