import VertexOS.BootFileSystem

/-!
# Building the runtime of a generation

A configuration is installed part by part, and the first failure ends the work.
-/

namespace VertexOS

open ByteStrings ByteImages FailingCalls SlotTables

variable (config : BootRuntimeConfig)

def stateVfsRequestEndpointName : String := "state-vfs-request"
def stateVfsReplyEndpointName : String := "state-vfs-reply"
def vertexFsDeviceRequestEndpointName : String := "vertexfs-device-request"
def vertexFsDeviceReplyEndpointName : String := "vertexfs-device-reply"
def generationMetadataBlockRequestEndpointName : String := "generation-metadata-block-request"
def generationMetadataBlockReplyEndpointName : String := "generation-metadata-block-reply"

def nativeSecretValue : Bytes := utf8 "native-secret-value"

structure BootEnvironment where
  vertexFsImage : Image
  framebufferUsable : Bool
  initialContext : ProcessContext

def addObject (add : ObjectTable → Except InitError (KernelObjectId × ObjectTable)) :
    BootCall KernelObjectId := do
  let runtime ← get
  let (id, objects) ← fromExcept (add runtime.objects)
  set { runtime with objects }
  return id

def addObjects {α : Type} (add : α → ObjectTable → Except InitError (KernelObjectId × ObjectTable)) :
    List α → BootCall (List KernelObjectId)
  | [] => return []
  | first :: rest => do
    let id ← addObject (add first)
    let ids ← addObjects add rest
    return id :: ids

def addDevices (kind : DeviceObject → KernelObject) (kept : ∀ device, (kind device).id = device.id)
    (names : List String) : BootCall (List KernelObjectId) :=
  addObjects (fun name objects => objects.addDevice kind name kept) names

def updateInstalled (change : InstalledObjects → InstalledObjects) : BootCall Unit :=
  modify fun runtime => { runtime with installed := change runtime.installed }

def installEndpointPair (requestName replyName : String)
    (record : KernelObjectId → KernelObjectId → InstalledObjects → InstalledObjects) :
    BootCall Unit := do
  let request ← addObject fun objects => objects.addEndpoint requestName
  let reply ← addObject fun objects => objects.addEndpoint replyName
  updateInstalled (record request reply)

def installStateVfsEndpoints : BootCall Unit :=
  installEndpointPair stateVfsRequestEndpointName stateVfsReplyEndpointName
    fun request reply installed => { installed with
      stateVfsRequestEndpoint := some request, stateVfsReplyEndpoint := some reply }

def installVertexFsDeviceEndpoints : BootCall Unit :=
  installEndpointPair vertexFsDeviceRequestEndpointName vertexFsDeviceReplyEndpointName
    fun request reply installed => { installed with
      vertexfsDeviceRequestEndpoint := some request, vertexfsDeviceReplyEndpoint := some reply }

def installGenerationMetadataEndpoints : BootCall Unit :=
  installEndpointPair generationMetadataBlockRequestEndpointName
    generationMetadataBlockReplyEndpointName
    fun request reply installed => { installed with
      generationMetadataBlockRequestEndpoint := some request
      generationMetadataBlockReplyEndpoint := some reply }

def installEndpoints : BootCall Unit := do
  let endpointIds ← addObjects (fun name objects => objects.addEndpoint name) config.endpoints
  updateInstalled fun installed => { installed with endpointIds }
  if config.stateVolumes ≠ [] then installStateVfsEndpoints
  installVertexFsDeviceEndpoints
  if config.hasProcess blockDriverProcessName then installGenerationMetadataEndpoints

def installResources (environment : BootEnvironment) (config : BootRuntimeConfig) :
    BootCall Unit := do
  let storeObjectIds ← addObjects
    (fun (store : BootStoreObjectConfig) objects =>
      objects.addStoreObject store.id store.base store.length store.hash) config.storeObjects
  let stateVolumeIds ← addObjects
    (fun (state : BootStateVolumeConfig) objects =>
      objects.addStateVolume (fun id => state.object id) fun _ => rfl) config.stateVolumes
  let networkPortIds ← addObjects (fun name objects => objects.addNetworkPort name)
    config.networkPorts
  let ioPortIds ← addDevices .ioPortRange (fun _ => rfl) config.ioPorts
  let mmioRegionIds ← addDevices .mmioRegion (fun _ => rfl) config.mmioRegions
  bootRequire (config.framebuffers = [] ∨ environment.framebufferUsable = true)
  let framebufferIds ← addDevices .framebuffer (fun _ => rfl) config.framebuffers
  let interruptLineIds ← addObjects
    (fun (line : BootInterruptLineConfig) objects => objects.addInterruptLine line.id line.line)
    config.interruptLines
  let dmaRegionIds ← addDevices .dmaRegion (fun _ => rfl) config.dmaRegions
  let pciDeviceIds ← addDevices .pciDevice (fun _ => rfl) config.pciDevices
  let virtioDeviceIds ← addDevices .virtioDevice (fun _ => rfl) config.virtioDevices
  let timer ← addObject fun objects => objects.addDevice .timer "monotonic-timer" fun _ => rfl
  updateInstalled fun installed => { installed with
    storeObjectIds, stateVolumeIds, networkPortIds, ioPortIds, mmioRegionIds, framebufferIds
    interruptLineIds, dmaRegionIds, pciDeviceIds, virtioDeviceIds, timerId := some timer }

def namespaceEntry (installed : InstalledObjects) (entry : BootNamespaceEntryConfig) :
    Except InitError NamespaceEntry :=
  if namespaceEntryObjectKindAllowed entry.objectKind = false then .error .invalidBootManifest
  else do
    let object ← installed.grantObjectId entry.objectKind entry.objectIndex
    return { path := entry.path, object, rights := entry.rights }

def addNamespaceConfig (config : BootNamespaceConfig) : BootCall KernelObjectId := do
  let entries ← fromExcept (config.entries.mapM (namespaceEntry (← get).installed))
  addObject fun objects => objects.addNamespace config.id entries

def installNamespaces : List BootNamespaceConfig → BootCall (List KernelObjectId)
  | [] => return []
  | first :: rest => do
    let id ← addNamespaceConfig first
    let ids ← installNamespaces rest
    return id :: ids

def installAuthorities : BootCall Unit := do
  let namespaceIds ← installNamespaces config.namespaces
  updateInstalled fun installed => { installed with namespaceIds }
  let vfsRootIds ← addObjects
    (fun (root : BootVfsRootConfig) objects => objects.addVfsRoot root.id root.rootPath)
    config.vfsRoots
  let secret ← addObject fun objects => objects.addSecret logdSecretName nativeSecretValue
  updateInstalled fun installed => { installed with vfsRootIds, secretId := some secret }

/-- A capability of the first process that the configuration does not list. -/
def grantBootstrap (initialProcess : BootProcessConfig)
    (authority rule : String) (rights : Rights) (pid : ProcessId) (slot : Nat)
    (object : KernelObjectId) : BootCall Unit := do
  bootRequire (config.bootstrapAuthorityAllows initialProcess.graphNode authority rule rights
    = true)
  grantRootCapability object rights pid slot

def grantInitialManifest (initialProcess : BootProcessConfig)
    (pid : ProcessId) : BootCall Unit := do
  match config.manifestModule with
  | none => pure ()
  | some file =>
    -- The policy is asked before the module object is made.
    bootRequire (config.bootstrapAuthorityAllows initialProcess.graphNode
      "boot-module:krustboot-manifest" "initial-manifest" rightRead = true)
    let object ← addObject fun objects => objects.addBootModule file.name file.base file.length
    grantRootCapability object rightRead pid initialManifestCapSlot

def installInitialProcess (environment : BootEnvironment) (config : BootRuntimeConfig)
    (initialIndex : Nat) (initialProcess : BootProcessConfig) : BootCall Unit := do
  let mountRoot ← fromExcept (VfsPath.fromBootRootPath initialProcess.mountRoot)
  let runtime ← get
  let (pid, processes) ← fromExcept
    (runtime.processes.addProcess initialProcess.name environment.initialContext
      initialProcess.imageBase initialProcess.imageLength .running .new mountRoot)
  set { runtime with processes }
  installDeclaredProcessMounts initialProcess pid mountRoot
  modify fun runtime => { runtime with
    processTemplatePids := Function.update runtime.processTemplatePids initialIndex (some pid)
    processes := { runtime.processes with current := some pid } }
  grantConfigCapsToProcess config initialIndex pid
  grantInitialManifest config initialProcess pid
  let control ← addObject fun objects => objects.addProcessControl "process-control"
  updateInstalled fun installed => { installed with processControlId := some control }
  grantBootstrap config initialProcess "process-control" "initial-process-control"
    initialProcessControlRights pid initialProcessControlCapSlot control
  let timer ← fromOption .invalidBootManifest (← get).installed.timerId
  grantBootstrap config initialProcess "timer:monotonic-timer" "initial-restart-timer"
    rightControl pid initTimerCapSlot timer

def buildBootConfigRuntime (environment : BootEnvironment) (config : BootRuntimeConfig)
    (files : VertexFsBootFiles) (initialIndex : Nat) (initialProcess : BootProcessConfig) :
    BootCall Unit := do
  installEndpoints config
  installResources environment config
  installVfsNodes environment.vertexFsImage files
  validateProcessMountRoots config
  installAuthorities config
  installInitialProcess environment config initialIndex initialProcess

end VertexOS
