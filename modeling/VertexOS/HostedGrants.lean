import VertexOS.FailingCalls
import VertexOS.ManifestValidation
import Mathlib.Algebra.Group.Nat.Defs
import Mathlib.Data.List.Forall2

/-!
# What the hosted supervisor hands to a service

On a host the supervisor stands for the kernel: a capability becomes a socket, a port or a
clock, and a state volume becomes a directory.
-/

namespace VertexOS.Supervisor

open FailingCalls VertexIr

abbrev HostPath := List String

def display (path : HostPath) : String := "/" ++ "/".intercalate path

def sanitizeChar (char : Char) : Char :=
  if isAsciiAlphanumeric char || char = '-' || char = '_' then char else '-'

def sanitizeId (id : String) : String := String.ofList (id.toList.map sanitizeChar)

inductive HostedEndpoint where
  | unixSocket (path : HostPath)
  | tcpListener (host : String) (port : Nat)
  | stateDir (path : HostPath)
  | hostClock (name : String)
  | plain (value : String)

structure HostedCapability where
  id : String
  kind : String
  provider : String
  rights : List String
  endpoint : HostedEndpoint

structure HostedCapabilityGrant where
  id : String
  kind : String
  provider : String
  consumer : String
  rights : List String
  endpoint : HostedEndpoint

structure HostedStateGrant where
  id : String
  kind : String
  owner : String
  consumer : String
  rights : List String
  path : HostPath
  endpoint : HostedEndpoint

def socketKinds : List String := ["ipc-endpoint", "log-sink"]

def hostedEndpoint (capability : ManifestCapability) (runtimeDir : HostPath) : HostedEndpoint :=
  let text (key fallback : String) : String :=
    ((capability.properties.get key).bind JsonValue.asStr).getD fallback
  if capability.kind ∈ socketKinds then
    .unixSocket (runtimeDir ++ [sanitizeId capability.id ++ ".sock"])
  else if capability.kind = "network-port" then
    let port := (((capability.properties.get "port").bind JsonValue.asU64).filter
      (· < 2 ^ 16)).getD 0
    .tcpListener (text "host" "127.0.0.1") port
  else if capability.kind = "clock" then .hostClock (text "clock" "host")
  else .plain s!"opaque:{capability.id}"

/-- The hosted capability under an identifier; of two with one identifier the later counts. -/
def hostedCapability (manifest : GenerationManifest) (runtimeDir : HostPath) (id : String) :
    Option HostedCapability :=
  (manifest.capabilities.reverse.find? fun capability => capability.id = id).map fun capability =>
    { id := capability.id, kind := capability.kind, provider := capability.provider
      rights := capability.rights, endpoint := hostedEndpoint capability runtimeDir }

def capabilityGrantsForService (service : Service) (manifest : GenerationManifest)
    (runtimeDir : HostPath) : Except String (List HostedCapabilityGrant) :=
  service.requires.mapM fun requirement =>
    (known (hostedCapability manifest runtimeDir requirement.capability)
      s!"service {service.id} requires unknown hosted capability {requirement.capability}").map
      fun capability =>
        { id := capability.id, kind := capability.kind, provider := capability.provider
          consumer := service.id, rights := requirement.rights, endpoint := capability.endpoint }

def providedCapabilityGrantsForService (service : Service) (manifest : GenerationManifest)
    (runtimeDir : HostPath) : Except String (List HostedCapabilityGrant) :=
  service.provides.mapM fun capabilityId =>
    (known (hostedCapability manifest runtimeDir capabilityId)
      s!"service {service.id} provides unknown hosted capability {capabilityId}").map
      fun capability =>
        { id := capability.id, kind := capability.kind, provider := capability.provider
          consumer := service.id, rights := capability.rights, endpoint := capability.endpoint }

def stateGrantRights (state : StateVolume) (serviceId : String) : Option (List String) :=
  if state.owner = serviceId then some ["read", "write", "control"]
  else if (state.sharingPolicy.get "mode").bind JsonValue.asStr ≠ some "explicit" then none
  else if stateSharingListContains state "controllers" serviceId then
    some ["read", "write", "control"]
  else if stateSharingListContains state "writers" serviceId then some ["read", "write"]
  else if stateSharingListContains state "readers" serviceId then some ["read"]
  else none

def stateCurrentPath (stateRoot : HostPath) (state : StateVolume) : HostPath :=
  stateRoot ++ ["state-volumes", sanitizeId state.id, "current"]

structure HostFiles where
  createDirAll : HostPath → Except String Unit
  isSymlink : HostPath → Except String Bool
  canonicalize : HostPath → Except String HostPath

section

variable (files : HostFiles) (service : Service) (manifest : GenerationManifest)
  (stateRoot : HostPath)

def stateGrantForService (stateId : String) : Except String HostedStateGrant := do
  let state ← known (manifest.stateVolume stateId)
    s!"service {service.id} references unknown state volume {stateId}"
  let rights ← known (stateGrantRights state service.id)
    s!"state volume {state.id} is owned by {state.owner}, so it cannot be granted to {service.id} without an explicit sharing policy"
  refuseIf (state.kind ≠ "hosted-local-directory")
    s!"state volume {state.id} has unsupported hosted kind {state.kind}"
  refuseIf (state.owner ≠ service.id ∧ rights = ["read"])
    s!"state volume {state.id} grants read-only hosted-local-directory access to {service.id}, but hosted directory paths cannot enforce reader-only attenuation"
  let current := stateCurrentPath stateRoot state
  files.createDirAll current
  let isSymlink ← files.isSymlink current
  refuseIf (isSymlink = true) s!"state volume path rejects symlink {display current}"
  let canonicalStateRoot ← files.canonicalize stateRoot
  let canonicalCurrent ← files.canonicalize current
  refuseIf (¬canonicalStateRoot <+: canonicalCurrent)
    s!"state volume {state.id} escapes state root: {display canonicalCurrent}"
  return { id := state.id, kind := state.kind, owner := state.owner, consumer := service.id,
           rights := rights, path := canonicalCurrent, endpoint := .stateDir canonicalCurrent }

def stateGrantsForService : Except String (List HostedStateGrant) :=
  service.state.mapM (stateGrantForService files service manifest stateRoot)

end

/-- The character is its own name and nobody else's. -/
def isWordChar (char : Char) : Bool := isAsciiAlphanumeric char || char = '_'

/-- Letters, digits and underscores agree, and what stands between them has the same length. -/
def Confusable (first second : String) : Prop :=
  List.Forall₂ (fun a b => a = b ∨ isWordChar a = false ∧ isWordChar b = false)
    first.toList second.toList

instance (first second : String) : Decidable (Confusable first second) :=
  inferInstanceAs (Decidable (List.Forall₂ _ _ _))

theorem sanitizeChar_of_word {char : Char} (word : isWordChar char = true) :
    sanitizeChar char = char ∧ char ≠ '-' := by
  constructor
  · unfold sanitizeChar
    rw [if_pos]
    unfold isWordChar at word
    grind
  · rintro rfl
    exact absurd word (by decide)

theorem sanitizeChar_of_not_word {char : Char} (noWord : isWordChar char = false) :
    sanitizeChar char = '-' := by
  unfold sanitizeChar
  unfold isWordChar at noWord
  grind

theorem sanitizeChar_eq_iff {first second : Char} :
    sanitizeChar first = sanitizeChar second ↔
      first = second ∨ isWordChar first = false ∧ isWordChar second = false := by
  cases isFirst : isWordChar first <;> cases isSecond : isWordChar second
  · simp [sanitizeChar_of_not_word isFirst, sanitizeChar_of_not_word isSecond]
  · obtain ⟨same, other⟩ := sanitizeChar_of_word isSecond
    rw [sanitizeChar_of_not_word isFirst, same]
    grind
  · obtain ⟨same, other⟩ := sanitizeChar_of_word isFirst
    rw [sanitizeChar_of_not_word isSecond, same]
    grind
  · simp [(sanitizeChar_of_word isFirst).1, (sanitizeChar_of_word isSecond).1]

theorem sanitizeId_eq_iff {first second : String} :
    sanitizeId first = sanitizeId second ↔ Confusable first second := by
  unfold sanitizeId Confusable
  rw [String.ofList_inj, ← List.forall₂_eq_eq_eq, List.forall₂_map_left_iff,
    List.forall₂_map_right_iff]
  simp only [sanitizeChar_eq_iff]

theorem stateCurrentPath_eq_iff {stateRoot : HostPath} {first second : StateVolume} :
    stateCurrentPath stateRoot first = stateCurrentPath stateRoot second ↔
      Confusable first.id second.id := by
  simp [stateCurrentPath, sanitizeId_eq_iff]

theorem hostedEndpoint_eq_iff {runtimeDir : HostPath} {first second : ManifestCapability}
    (isSocket : first.kind ∈ socketKinds) (isSocketToo : second.kind ∈ socketKinds) :
    hostedEndpoint first runtimeDir = hostedEndpoint second runtimeDir ↔
      Confusable first.id second.id := by
  unfold hostedEndpoint
  simp [isSocket, isSocketToo, sanitizeId_eq_iff]

def Includes (volume : StateVolume) (serviceId : String) : Prop :=
  volume.owner = serviceId ∨ stateSharingPolicyAllows volume serviceId = true

/-- Hosted paths tell the volumes and the sockets of a manifest apart, and no service is
handed the directory of a volume whose policy does not include it. -/
structure HostedIsolation (files : HostFiles) (manifest : GenerationManifest)
    (runtimeDir stateRoot : HostPath) : Prop where
  volumes : ∀ first ∈ manifest.stateVolumes, ∀ second ∈ manifest.stateVolumes,
    stateCurrentPath stateRoot first = stateCurrentPath stateRoot second → first.id = second.id
  endpoints : ∀ first ∈ manifest.capabilities, ∀ second ∈ manifest.capabilities,
    first.kind ∈ socketKinds → second.kind ∈ socketKinds →
      hostedEndpoint first runtimeDir = hostedEndpoint second runtimeDir → first.id = second.id
  grants : ∀ service ∈ manifest.services, ∀ grants,
    stateGrantsForService files service manifest stateRoot = .ok grants →
      ∀ grant ∈ grants, ∀ volume ∈ manifest.stateVolumes,
        grant.path = stateCurrentPath stateRoot volume → Includes volume service.id

/-- No two volumes and no two sockets have identifiers that differ in other characters than
letters, digits and underscores only. -/
structure HostedIdsApart (manifest : GenerationManifest) : Prop where
  volumes : ∀ first ∈ manifest.stateVolumes, ∀ second ∈ manifest.stateVolumes,
    Confusable first.id second.id → first.id = second.id
  sockets : ∀ first ∈ manifest.capabilities, ∀ second ∈ manifest.capabilities,
    first.kind ∈ socketKinds → second.kind ∈ socketKinds →
      Confusable first.id second.id → first.id = second.id

/-- The directories of the volumes are no links to elsewhere. -/
def HostFiles.Unlinked (files : HostFiles) (stateRoot : HostPath) : Prop :=
  ∀ name real, files.canonicalize (stateRoot ++ ["state-volumes", name, "current"]) = .ok real →
    real = stateRoot ++ ["state-volumes", name, "current"]

theorem includes_of_stateGrantRights {state : StateVolume} {serviceId : String}
    {rights : List String} (granted : stateGrantRights state serviceId = some rights) :
    Includes state serviceId := by
  unfold stateGrantRights at granted
  unfold Includes stateSharingPolicyAllows
  grind

theorem stateGrantForService_ok {files : HostFiles} {service : Service}
    {manifest : GenerationManifest} {stateRoot : HostPath} {stateId : String}
    {grant : HostedStateGrant}
    (granted : stateGrantForService files service manifest stateRoot stateId = .ok grant) :
    ∃ state, manifest.stateVolume stateId = some state ∧ Includes state service.id ∧
      files.canonicalize (stateCurrentPath stateRoot state) = .ok grant.path := by
  unfold stateGrantForService at granted
  simp only [outcome_bind_ok] at granted
  obtain ⟨state, found, rights, allowed, _, _, _, _, _, _, _, _, _, _, _, _, canonicalCurrent,
    resolved, _, _, granted⟩ := granted
  cases granted
  exact ⟨state, known_ok.mp found, includes_of_stateGrantRights (known_ok.mp allowed), resolved⟩

/-- Hosted isolation of an accepted manifest is a matter of its identifiers alone. -/
theorem hostedIsolation_iff {manifest : GenerationManifest} (accepted : manifest.Accepted)
    {files : HostFiles} {stateRoot : HostPath} (unlinked : files.Unlinked stateRoot)
    (runtimeDir : HostPath) :
    HostedIsolation files manifest runtimeDir stateRoot ↔ HostedIdsApart manifest := by
  constructor
  · intro isolation
    refine ⟨fun first member second memberToo confusable => ?_,
      fun first member second memberToo socket socketToo confusable => ?_⟩
    · exact isolation.volumes first member second memberToo (stateCurrentPath_eq_iff.mpr confusable)
    · exact isolation.endpoints first member second memberToo socket socketToo
        ((hostedEndpoint_eq_iff socket socketToo).mpr confusable)
  · intro apart
    refine ⟨fun first member second memberToo same => ?_,
      fun first member second memberToo socket socketToo same => ?_,
      fun service _ grants granted grant isGrant volume member same => ?_⟩
    · exact apart.volumes first member second memberToo (stateCurrentPath_eq_iff.mp same)
    · exact apart.sockets first member second memberToo socket socketToo
        ((hostedEndpoint_eq_iff socket socketToo).mp same)
    · obtain ⟨stateId, _, granted⟩ := (mem_mapM granted).mp isGrant
      obtain ⟨state, found, included, resolved⟩ := stateGrantForService_ok granted
      have itself : grant.path = stateCurrentPath stateRoot state := unlinked _ _ resolved
      obtain ⟨isVolume, _⟩ := GenerationManifest.mem_of_stateVolume found
      have sameId : state.id = volume.id := apart.volumes state isVolume volume member
        (stateCurrentPath_eq_iff.mp (itself.symm.trans same))
      obtain rfl : state = volume := accepted.stateVolume_ext isVolume member sameId
      exact included

def volumeOwner (id volume : String) : Service where
  id := id
  executable := "exe:worker"
  requires := []
  provides := []
  state := [volume]
  secrets := []
  configs := []
  restart := "never"
  health := none
  startAfter := []
  stopBefore := []
  mountRoot := some (.string "/")
  mounts := none

def ownVolume (id owner : String) : StateVolume where
  id := id
  kind := "hosted-local-directory"
  owner := owner
  schemaVersion := "1"
  storageClass := "hosted-local-directory"
  migrationPolicy := .object [("mode", .string "preserve")]
  retentionPolicy := .object [("mode", .string "retain-forever")]
  sharingPolicy := .object [("mode", .string "owner-only")]

def twoOwners (first second : String) : GenerationManifest where
  schema := "vertex.ir.v0"
  generationId := "gen:two-owners"
  kernelId := "kernel:host"
  kernelStoreObject := "store:worker"
  initId := "init:host"
  initExecutable := "exe:worker"
  initMode := "hosted-linux"
  store := [{ id := "store:worker", kind := "executable", path := "/store/worker" }]
  executables := [{ id := "exe:worker", storeObject := "store:worker", entrypoint := "worker" }]
  devices := []
  stateVolumes := [ownVolume first "svc:left", ownVolume second "svc:right"]
  secrets := []
  capabilities := []
  services := [volumeOwner "svc:left" first, volumeOwner "svc:right" second]
  rootService := "svc:left"
  startOrder := ["svc:left", "svc:right"]
  onFailure := "stop-activation"
  policies := { defaultAuthority := "deny", capabilityDelegation := "explicit-only"
                unknownReferences := "reject" }

def openFiles : HostFiles where
  createDirAll _ := .ok ()
  isSymlink _ := .ok false
  canonicalize path := .ok path

theorem openFiles_unlinked (stateRoot : HostPath) : openFiles.Unlinked stateRoot := by
  rintro name real resolved
  cases resolved
  rfl

/-- The manifest is accepted, and the first service is handed the directory of the volume
that only the second one owns. -/
theorem not_hostedIsolation_of_punctuation :
    (twoOwners "state:x.y" "state:x-y").Accepted ∧
      ¬HostedIsolation openFiles (twoOwners "state:x.y" "state:x-y") ["run"] ["state"] := by
  refine ⟨by decide +kernel, fun isolation => ?_⟩
  have included := isolation.grants (volumeOwner "svc:left" "state:x.y") (by simp [twoOwners])
    _ rfl _ (List.mem_singleton_self _) (ownVolume "state:x-y" "svc:right") (by simp [twoOwners])
    (by decide +kernel)
  revert included
  unfold Includes
  decide +kernel

theorem hostedIsolation_twoOwners :
    HostedIsolation openFiles (twoOwners "state:x" "state:y") ["run"] ["state"] := by
  refine (hostedIsolation_iff (by decide +kernel) (openFiles_unlinked _) _).mpr ⟨?_, ?_⟩
  · decide +kernel
  · simp [twoOwners]

end VertexOS.Supervisor
