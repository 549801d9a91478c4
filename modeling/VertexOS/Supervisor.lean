import VertexOS.HostedGrants

/-!
# The supervisor of a hosted generation

The supervisor starts the services of a manifest on a host.  It walks the start order, and
before a service it starts, and checks, everything that the service depends on.
-/

namespace VertexOS.Supervisor

open FailingCalls VertexIr

/-- What the supervisor has done to a service, as its log tells it. -/
inductive SupervisorStep where
  | skipsRoot (service : String)
  | wouldStart (service : String)
  | spawns (service : String)
  | ready (service : String)
  deriving DecidableEq

/-- The state of an activation.  `calls` counts what the host was asked. -/
structure Activation where
  children : List String := []
  started : List String := []
  ready : List String := []
  starting : List String := []
  steps : List SupervisorStep := []
  calls : Nat := 0

/-- A manifest on a host.  Whatever the host is asked, it answers in turn. -/
structure Supervision where
  manifest : GenerationManifest
  dryRun : Bool
  stateRoot : HostPath
  runtimeDir : HostPath
  files : Nat → HostFiles
  host : Nat → Except String Unit

/-- Why an activation stops: an error of the supervisor, or the bound on its recursion,
which the source does not have. -/
inductive ActivationError where
  | message (text : String)
  | unfinished

abbrev SupervisorCall := Call ActivationError Activation

def reported {α : Type} (outcome : Except String α) : SupervisorCall α :=
  fromExcept (outcome.mapError .message)

def step (step : SupervisorStep) : SupervisorCall Unit :=
  modify fun state => { state with steps := state.steps ++ [step] }

def insertStarted (service : String) : SupervisorCall Unit :=
  modify fun state => { state with started := service :: state.started }

namespace Supervision

variable (supervision : Supervision) (serviceId : String)

def askHost : SupervisorCall Unit := do
  let state ← get
  set { state with calls := state.calls + 1 }
  reported (supervision.host state.calls)

def appendRuntimeEvent : SupervisorCall Unit := supervision.askHost

def pushDependency (dependencies : List String) (dependency : String) :
    List String :=
  if dependency ≠ serviceId ∧ dependency ∉ dependencies then dependencies ++ [dependency]
  else dependencies

def requiredProvider (service : Service) (dependencies : List String)
    (requirement : CapabilityRequirement) : Except String (List String) := do
  let capability ← known (supervision.manifest.capability requirement.capability)
    s!"service {service.id} requires unknown capability {requirement.capability}"
  return if (supervision.manifest.service capability.provider).isSome then
      pushDependency service.id dependencies capability.provider
    else dependencies

def serviceDependencies (service : Service) : Except String (List String) :=
  service.requires.foldlM (supervision.requiredProvider service)
    (service.startAfter.foldl (pushDependency service.id) [])

def resolveServiceExecutable (service : Service) : Except String HostPath := do
  let executable ← known (supervision.manifest.executable service.executable)
    s!"service {service.id} has unknown executable {service.executable}"
  let store ← known (supervision.manifest.storeObject executable.storeObject)
    s!"executable {executable.id} has unknown store object {executable.storeObject}"
  return [store.path, executable.entrypoint]

def skipRoot (service : Service) : SupervisorCall Unit := do
  insertStarted service.id
  modify fun state => { state with ready := service.id :: state.ready }
  step (.skipsRoot service.id)
  if supervision.dryRun then pure () else supervision.appendRuntimeEvent

def spawn (service : Service) (events : Nat) : SupervisorCall Unit := do
  supervision.askHost
  step (.spawns service.id)
  inTurn (fun _ => supervision.appendRuntimeEvent) (List.range events)
  modify fun state => { state with children := state.children ++ [service.id] }
  insertStarted service.id

def launch (service : Service) : SupervisorCall Unit := do
  let _ ← reported (supervision.resolveServiceExecutable service)
  let grants ← reported
    (capabilityGrantsForService service supervision.manifest supervision.runtimeDir)
  let _ ← reported
    (providedCapabilityGrantsForService service supervision.manifest supervision.runtimeDir)
  let state ← get
  let stateGrants ← reported (stateGrantsForService (supervision.files state.calls) service
    supervision.manifest supervision.stateRoot)
  if supervision.dryRun then do
    step (.wouldStart service.id)
    insertStarted service.id
  else
    -- one event for the start, one for each capability and one for each volume
    supervision.spawn service (1 + grants.length + stateGrants.length)

def startService : SupervisorCall Unit := do
  let state ← get
  if serviceId ∈ state.started then pure ()
  else do
    let service ← reported (known (supervision.manifest.service serviceId)
      s!"activation references unknown service {serviceId}")
    if service.id = supervision.manifest.rootService then supervision.skipRoot service
    else supervision.launch service

def ensureChildAlive : SupervisorCall Unit := do
  let state ← get
  require (.message s!"service {serviceId} has no hosted child process")
    (serviceId ∈ state.children)
  supervision.askHost

/-- Wait until the endpoint answers, as long as the child lives and time is left. -/
def waitForEndpoint : SupervisorCall Unit := do
  supervision.ensureChildAlive serviceId
  supervision.askHost

def healthTarget (health : HealthCheck) (suits : HostedEndpoint → Bool)
    (expected : String) : Except String HostedCapability := do
  let target ← known health.target s!"{health.kind} health for {serviceId} requires target"
  known ((hostedCapability supervision.manifest supervision.runtimeDir target).filter
      fun capability => suits capability.endpoint)
    s!"{health.kind} target {target} is not a hosted {expected} capability"

def isUnixSocket : HostedEndpoint → Bool
  | .unixSocket _ => true
  | _ => false

def isTcpListener : HostedEndpoint → Bool
  | .tcpListener _ _ => true
  | _ => false

def checkServiceHealth : Option HealthCheck → SupervisorCall Unit
  | none => pure ()
  | some health =>
    if health.kind = "none" then pure ()
    else if health.kind = "process-alive" then supervision.ensureChildAlive serviceId
    else if health.kind = "ipc-ping" then do
      let _ ← reported (supervision.healthTarget serviceId health isUnixSocket "Unix socket")
      supervision.waitForEndpoint serviceId
    else if health.kind = "tcp-listen" then do
      let _ ← reported (supervision.healthTarget serviceId health isTcpListener "TCP")
      supervision.waitForEndpoint serviceId
    else throw (.message
      s!"service {serviceId} has unsupported hosted health kind {health.kind}")

def insertReady : SupervisorCall Unit := do
  modify fun state => { state with ready := serviceId :: state.ready }
  step (.ready serviceId)

def ensureServiceReady : SupervisorCall Unit := do
  let state ← get
  if serviceId ∈ state.ready then pure ()
  else if supervision.dryRun then insertReady serviceId
  else do
    let service ← reported (known (supervision.manifest.service serviceId)
      s!"readiness references unknown service {serviceId}")
    match ← attempt (supervision.checkServiceHealth serviceId service.health) with
    | .ok () =>
      insertReady serviceId
      supervision.appendRuntimeEvent
    | .error error =>
      supervision.appendRuntimeEvent
      throw error

def startServiceTreeInner (walk : String → SupervisorCall Unit) (serviceId : String) :
    SupervisorCall Unit := do
  let service ← reported (known (supervision.manifest.service serviceId)
    s!"activation references unknown service {serviceId}")
  let dependencies ← reported (supervision.serviceDependencies service)
  inTurn (fun dependency => do
    walk dependency
    supervision.ensureServiceReady dependency) dependencies
  supervision.startService serviceId

/-- Start a service behind its dependencies, at most `fuel` services deep. -/
def startServiceTree : (fuel : Nat) → (serviceId : String) → SupervisorCall Unit
  | 0, _ => throw .unfinished
  | fuel + 1, serviceId => do
    let state ← get
    if serviceId ∈ state.started then pure ()
    else do
      require (.message s!"service dependency cycle includes {serviceId}")
        (serviceId ∉ state.starting)
      set { state with starting := serviceId :: state.starting }
      let result ← attempt (supervision.startServiceTreeInner (startServiceTree fuel) serviceId)
      modify fun state => { state with starting := state.starting.erase serviceId }
      fromExcept result

/-- The walk is never deeper than this. -/
def depth : Nat := supervision.manifest.services.length + 2

def activateStartOrder : SupervisorCall Unit :=
  inTurn (supervision.startServiceTree supervision.depth) supervision.manifest.startOrder

end Supervision

end VertexOS.Supervisor
