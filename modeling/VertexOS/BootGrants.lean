import VertexOS.CoreSyscalls

/-!
# The capabilities a process starts with

Grants are resolved to objects and put into the slots they name.
-/

namespace VertexOS

open FailingCalls

variable (config : BootRuntimeConfig) (installed : InstalledObjects)

abbrev BootCall := Call InitError RuntimeState

def logdProcessName : String := "logd"
def logdSecretName : String := "secret:logd-token"

def initialManifestCapSlot : Nat := 0
def initialProcessControlCapSlot : Nat := 2
def initTimerCapSlot : Nat := 30
def logdSecretCapSlot : Nat := 6

def initialProcessControlRights : Rights :=
  rightControl ||| rightAllocate ||| rightDelegate ||| rightRevoke ||| rightInspect |||
    rightCreate ||| rightStart ||| rightKill ||| rightWait

def logdSecretRights : Rights := rightRead ||| rightInspectMetadata

namespace BootRuntimeConfig

def bootstrapAuthorityAllows (service authority rule : String)
    (rights : Rights) : Bool :=
  config.policyBootstraps.any fun bootstrap =>
    bootstrap.service = service ∧ bootstrap.authority = authority ∧ bootstrap.rule = rule ∧
      Rights.Within rights bootstrap.rights

def hasProcess (name : String) : Bool :=
  config.processes.any fun process => process.name = name

def initialProcessIndex : Except InitError Nat :=
  match config.processes.findIdx? BootProcessConfig.initial with
  | none => .error .invalidBootManifest
  | some index =>
    if config.processes.countP BootProcessConfig.initial = 1 then .ok index
    else .error .invalidBootManifest

end BootRuntimeConfig

structure InternalEndpointGrant where
  authority : String
  rule : String
  rights : Rights
  slot : Nat
  endpoint : InstalledObjects → Option KernelObjectId

structure InternalEndpointPair where
  processName : String
  request : InternalEndpointGrant
  reply : InternalEndpointGrant

def vertexStatePair : InternalEndpointPair where
  processName := vertexStateProcessName
  request := ⟨"endpoint:state-vfs-request", "state-vfs-request", rightReceive, 7,
    InstalledObjects.stateVfsRequestEndpoint⟩
  reply := ⟨"endpoint:state-vfs-reply", "state-vfs-reply", rightSend, 6,
    InstalledObjects.stateVfsReplyEndpoint⟩

def blockDriverVertexFsPair : InternalEndpointPair where
  processName := blockDriverProcessName
  request := ⟨"endpoint:vertexfs-device-request", "vertexfs-device-request", rightReceive, 13,
    InstalledObjects.vertexfsDeviceRequestEndpoint⟩
  reply := ⟨"endpoint:vertexfs-device-reply", "vertexfs-device-reply", rightSend, 14,
    InstalledObjects.vertexfsDeviceReplyEndpoint⟩

def blockDriverMetadataPair : InternalEndpointPair where
  processName := blockDriverProcessName
  request := ⟨"endpoint:generation-metadata-block-request", "generation-metadata-block-request",
    rightReceive, 16, InstalledObjects.generationMetadataBlockRequestEndpoint⟩
  reply := ⟨"endpoint:generation-metadata-block-reply", "generation-metadata-block-reply",
    rightSend, 17, InstalledObjects.generationMetadataBlockReplyEndpoint⟩

def generationManagerPair : InternalEndpointPair where
  processName := generationManagerProcessName
  request := ⟨"endpoint:generation-metadata-block-request", "generation-metadata-block-request",
    rightSend, 4, InstalledObjects.generationMetadataBlockRequestEndpoint⟩
  reply := ⟨"endpoint:generation-metadata-block-reply", "generation-metadata-block-reply",
    rightReceive, 5, InstalledObjects.generationMetadataBlockReplyEndpoint⟩

def internalEndpointPairs : List InternalEndpointPair :=
  [vertexStatePair, blockDriverVertexFsPair, blockDriverMetadataPair, generationManagerPair]

/-- The object that a grant or a namespace entry names.  State volumes and secrets
are never granted this way. -/
def InstalledObjects.grantObjectId (kind : BootObjectKind) (index : Nat) :
    Except InitError KernelObjectId :=
  let found : Option KernelObjectId :=
    match kind with
    | .endpoint => installed.endpointIds[index]?
    | .store => installed.storeObjectIds[index]?
    | .timer => if index = 0 then installed.timerId else none
    | .networkPort => installed.networkPortIds[index]?
    | .ioPortRange => installed.ioPortIds[index]?
    | .mmioRegion => installed.mmioRegionIds[index]?
    | .framebuffer => installed.framebufferIds[index]?
    | .interruptLine => installed.interruptLineIds[index]?
    | .dmaRegion => installed.dmaRegionIds[index]?
    | .pciDevice => installed.pciDeviceIds[index]?
    | .virtioDevice => installed.virtioDeviceIds[index]?
    | .namespaceObject => installed.namespaceIds[index]?
    | .vfsRoot => installed.vfsRootIds[index]?
    | .state => none
    | .secret => none
    | .unknown _ => none
  found.elim (.error .invalidBootManifest) .ok

def namespaceEntryObjectKindAllowed : BootObjectKind → Bool
  | .endpoint => true
  | .store => true
  | .timer => true
  | .networkPort => true
  | _ => false

def bootRequire (condition : Prop) [Decidable condition] : BootCall Unit :=
  require .invalidBootManifest condition

def grantProcessCapByPid (pid : ProcessId) (slot : Nat) (cap : Capability)
    (persistForRestart : Bool) : BootCall Unit :=
  grantByPid .invalidBootManifest id pid slot cap persistForRestart

/-- A capability without a parent, in a slot of a process and of its restarts. -/
def grantRootCapability (object : KernelObjectId) (rights : Rights) (owner : ProcessId)
    (slot : Nat) : BootCall Unit := do
  let (cap, after) ← fromExcept
    (((← get).newCapability object rights owner 0 .empty).mapError fun _ => .capabilityTableFull)
  set after
  grantProcessCapByPid owner slot cap true

def grantConfigCap (owner : ProcessId) (grant : BootGrantConfig) : BootCall Unit := do
  let object ← fromExcept
    ((← get).installed.grantObjectId grant.objectKind grant.objectIndex)
  grantRootCapability object grant.rights owner grant.capSlot

def grantLogdSecret (process : BootProcessConfig)
    (owner : ProcessId) : BootCall Unit := do
  bootRequire (config.bootstrapAuthorityAllows process.graphNode logdSecretName "native-secret"
    logdSecretRights = true)
  let secret ← fromOption .invalidBootManifest (← get).installed.secretId
  grantRootCapability secret logdSecretRights owner logdSecretCapSlot

def grantInternalEndpoint (process : BootProcessConfig)
    (owner : ProcessId) (grant : InternalEndpointGrant) : BootCall Unit := do
  match grant.endpoint (← get).installed with
  | none => pure ()
  | some endpoint =>
    bootRequire (config.bootstrapAuthorityAllows process.graphNode grant.authority grant.rule
      grant.rights = true)
    grantRootCapability endpoint grant.rights owner grant.slot

def grantInternalPair (process : BootProcessConfig)
    (owner : ProcessId) (pair : InternalEndpointPair) : BootCall Unit := do
  if process.name = pair.processName then
    grantInternalEndpoint config process owner pair.request
    grantInternalEndpoint config process owner pair.reply

def BootRuntimeConfig.grantsOf (processIndex : Nat) :
    List BootGrantConfig :=
  config.grants.filter fun grant => grant.processIndex = processIndex

def grantConfigCapsToProcess (processIndex : Nat)
    (owner : ProcessId) : BootCall Unit := do
  inTurn (grantConfigCap owner) (config.grantsOf processIndex)
  let process ← fromOption .invalidBootManifest config.processes[processIndex]?
  if process.name = logdProcessName then grantLogdSecret config process owner
  inTurn (grantInternalPair config process owner) internalEndpointPairs

/-- The slots that the grants of a process take; two grants never share one. -/
def configCapSlots (installed : InstalledObjects) :
    List BootGrantConfig → List Nat → Except InitError (List Nat)
  | [], occupied => .ok occupied
  | grant :: rest, occupied => do
    let _ ← installed.grantObjectId grant.objectKind grant.objectIndex
    if maxCaps ≤ grant.capSlot then .error .capabilityTableFull
    else if grant.capSlot ∈ occupied then .error .invalidBootManifest
    else configCapSlots installed rest (grant.capSlot :: occupied)

def slotLeftFree (occupied : List Nat) (slot : Nat) : Except InitError Unit :=
  if maxCaps ≤ slot ∨ slot ∈ occupied then .error .invalidBootManifest else .ok ()

def validateInternalPair
    (process : BootProcessConfig) (occupied : List Nat) (pair : InternalEndpointPair) :
    Except InitError Unit :=
  if process.name = pair.processName ∧ (pair.reply.endpoint installed).isSome then
    if config.bootstrapAuthorityAllows process.graphNode pair.request.authority
          pair.request.rule pair.request.rights = false ∨
        config.bootstrapAuthorityAllows process.graphNode pair.reply.authority
          pair.reply.rule pair.reply.rights = false then
      .error .invalidBootManifest
    else do
      slotLeftFree occupied pair.request.slot
      slotLeftFree occupied pair.reply.slot
  else .ok ()

def validateLogdSecret
    (process : BootProcessConfig) (occupied : List Nat) : Except InitError Unit :=
  if process.name = logdProcessName then
    if config.bootstrapAuthorityAllows process.graphNode logdSecretName "native-secret"
        logdSecretRights = false then .error .invalidBootManifest
    else if installed.secretId = none then .error .invalidBootManifest
    else slotLeftFree occupied logdSecretCapSlot
  else .ok ()

def validateConfigCapsForProcess
    (processIndex : Nat) : Except InitError Unit := do
  let process ← config.processes[processIndex]?.elim (.error .invalidBootManifest) .ok
  let occupied ← configCapSlots installed (config.grantsOf processIndex) []
  validateLogdSecret config installed process occupied
  internalEndpointPairs.forM (validateInternalPair config installed process occupied)

end VertexOS
