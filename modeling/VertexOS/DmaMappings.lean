import VertexOS.ByteImages
import VertexOS.FailingCalls
import VertexOS.ObjectTable
import VertexOS.PageFrames
import VertexOS.ProcessTable

/-!
# DMA regions and the processes that map them

A driver maps a region of physical memory that its device reads and writes.  The region
records which process has it, and each process records the mappings it has.
-/

namespace VertexOS.DmaMappings

open ByteImages FailingCalls SlotTables

variable (hhdmOffset : Option Nat)

def dmaMappingInfoBytes : Nat := 24

def userDmaMappingBase : Nat := 0x0000_6000_0000_0000

def userDeviceMappingStride : Nat := 2 ^ 30

structure BootDmaRegionConfig where
  id : String
  base : Nat
  length : Nat

def validateDeviceBootRange (base length : Nat) (pageAlignedBase : Bool) : Except InitError Unit :=
  if length = 0 ∨ userDeviceMappingStride < length then .error .invalidBootManifest
  else if addressLimit ≤ base + (length - 1) then .error .invalidBootManifest
  else if pageAlignedBase = true ∧ base % frameSize ≠ 0 then .error .invalidBootManifest
  else .ok ()

def bootRangesOverlap (base length otherBase otherLength : Nat) : Except InitError Bool :=
  if length = 0 ∨ otherLength = 0 then .ok false
  else if addressLimit ≤ base + length ∨ addressLimit ≤ otherBase + otherLength then
    .error .invalidBootManifest
  else .ok (decide (base < otherBase + otherLength ∧ otherBase < base + length))

def validateApart (region prior : BootDmaRegionConfig) : Except InitError Unit := do
  let overlap ← bootRangesOverlap region.base region.length prior.base prior.length
  if overlap then .error .invalidBootManifest else .ok ()

def validateDmaRegion (earlier : List BootDmaRegionConfig) (region : BootDmaRegionConfig) :
    Except InitError Unit := do
  validateDeviceBootRange region.base region.length true
  if region.length % frameSize ≠ 0 ∨ userDeviceMappingStride < region.length then
    .error .invalidBootManifest
  else earlier.forM (validateApart region)

def validateDmaRegions (earlier : List BootDmaRegionConfig) :
    List BootDmaRegionConfig → Except InitError Unit
  | [] => pure ()
  | region :: rest => do
    validateDmaRegion earlier region
    validateDmaRegions (earlier ++ [region]) rest

structure DmaRegionObject where
  name : String
  base : Nat
  length : Nat
  mappedBy : ProcessId := .empty
  mapCount : Nat := 0
  releaseCount : Nat := 0

structure DmaUserMapping where
  region : KernelObjectId
  virtualBase : Nat
  physicalBase : Nat
  length : Nat
deriving DecidableEq, Repr

/-- The frame behind a page, for the pages of the DMA window. -/
abbrev PageTable := Nat → Option Nat

structure DmaProcess where
  state : ProcessState
  cr3 : Nat
  contextReaped : Bool := false
  dmaMappings : Slots DmaUserMapping := List.replicate maxObjects none
  window : PageTable := fun _ => none

/-- `accepted` are the mappings that the serial log tells of, the latest one first. -/
structure DmaRuntime where
  region : KernelObjectId → Option DmaRegionObject
  process : ProcessId → Option DmaProcess
  current : Option ProcessId
  nextId : Nat
  memory : Image
  accepted : List (ProcessId × KernelObjectId) := []
  halted : Bool := false

abbrev DmaCall := Call IpcError DmaRuntime

namespace DmaProcess

def dmaMapping (process : DmaProcess) (region : KernelObjectId) : Option DmaUserMapping :=
  select (fun mapping => if mapping.region = region then some mapping else none)
    process.dmaMappings

def addDmaMapping (process : DmaProcess) (mapping : DmaUserMapping) : Except IpcError DmaProcess :=
  if (process.dmaMapping mapping.region).isSome then .ok process
  else
    match fillFirst mapping process.dmaMappings with
    | some mappings => .ok { process with dmaMappings := mappings }
    | none => .error .vfsNoSpace

def clearDmaMappings (process : DmaProcess) : DmaProcess :=
  { process with dmaMappings := List.replicate process.dmaMappings.length none }

def takeDmaMapping (process : DmaProcess) (slot : Nat) : Option DmaUserMapping × DmaProcess :=
  (process.dmaMappings[slot]?.join,
    { process with dmaMappings := process.dmaMappings.set slot none })

end DmaProcess

namespace DmaRuntime

variable (runtime : DmaRuntime)

def currentProcess : Option (ProcessId × DmaProcess) := do
  let pid ← runtime.current
  let process ← runtime.process pid
  return (pid, process)

def putProcess (pid : ProcessId) (process : DmaProcess) : DmaRuntime :=
  { runtime with process := Function.update runtime.process pid (some process) }

def removeProcess (pid : ProcessId) : DmaRuntime :=
  { runtime with process := Function.update runtime.process pid none }

def putRegion (id : KernelObjectId) (region : DmaRegionObject) : DmaRuntime :=
  { runtime with region := Function.update runtime.region id (some region) }

def zeroDmaPhysicalRange (physicalBase length : Nat) (memory : Image) : Option Image :=
  if length = 0 then some memory
  else do
    let offset ← hhdmOffset
    if addressLimit ≤ length ∨ addressLimit ≤ offset + physicalBase then none
    else some (clearBytes memory physicalBase length)

def releaseDmaRegionClaim (id : KernelObjectId) (owner : ProcessId) : DmaRuntime :=
  match runtime.region id with
  | some region =>
    if region.mappedBy = owner then
      runtime.putRegion id
        { region with mappedBy := .empty, releaseCount := region.releaseCount + 1 }
    else runtime
  | none => runtime

def releaseDmaMapping (runtime : DmaRuntime) (owner : ProcessId)
    (mapping : DmaUserMapping) : DmaRuntime :=
  let zeroed := zeroDmaPhysicalRange hhdmOffset mapping.physicalBase mapping.length runtime.memory
  { runtime with memory := zeroed.getD runtime.memory }.releaseDmaRegionClaim mapping.region owner

def releaseSlot (pid : ProcessId) (runtime : DmaRuntime) (slot : Nat) : DmaRuntime :=
  match runtime.process pid with
  | none => runtime
  | some process =>
    match process.takeDmaMapping slot with
    | (some mapping, left) =>
      (runtime.putProcess pid left).releaseDmaMapping hhdmOffset pid mapping
    | (none, left) => runtime.putProcess pid left

@[irreducible]
def releaseProcessDmaMappings (runtime : DmaRuntime) (pid : ProcessId) : DmaRuntime :=
  (List.range maxObjects).foldl (releaseSlot hhdmOffset pid) runtime

end DmaRuntime

def claimDmaRegion (id : KernelObjectId) (owner : ProcessId) : DmaCall Unit := do
  let runtime ← get
  let region ← fromOption .badCapability (runtime.region id)
  require .badCapability (region.mappedBy = .empty ∨ region.mappedBy = owner)
  if region.mappedBy = .empty then
    set (runtime.putRegion id { region with mappedBy := owner, mapCount := region.mapCount + 1 })

/-- What a call of `dma_map` is given and meets: the object that the capability slot
designates, the state of the buffer, and the answers of the page tables. -/
structure DmaMapRequest where
  destination : Nat
  maxLen : Nat
  object : Option KernelObjectId
  bufferWritable : Bool
  rangeFree : Bool
  pageMaps : Nat → Bool
  copied : Bool

def alignUp (value align : Nat) : Option Nat :=
  if addressLimit ≤ value + (align - 1) then none
  else some ((value + (align - 1)) / align * align)

def deviceUserMappingBase (windowBase : Nat) (object : KernelObjectId) (length : Nat) :
    Except IpcError Nat :=
  let offset := object.raw * userDeviceMappingStride
  let base := windowBase + offset
  if length = 0 ∨ userDeviceMappingStride < length then .error .badCapability
  else if addressLimit ≤ offset ∨ addressLimit ≤ base ∨ addressLimit ≤ base + length then
    .error .badCapability
  else if userCanonicalLimit ≤ base ∨ userCanonicalLimit < base + length then
    .error .badCapability
  else .ok base

def clearPages (table : PageTable) (first count : Nat) : PageTable := fun page =>
  if first ≤ page ∧ page < first + count then none else table page

/-- Where the page tables refuse a page, those that are mapped go again. -/
def mapPages (maps : Nat → Bool) (first frame : Nat) (table : PageTable) (done : Nat) :
    (left : Nat) → Bool × PageTable
  | 0 => (true, table)
  | left + 1 =>
    if maps done then
      mapPages maps first frame (Function.update table (first + done) (some (frame + done)))
        (done + 1) left
    else (false, clearPages table first done)

def mapCurrentProcessPhysicalRange (request : DmaMapRequest)
    (virtualBase physicalBase length : Nat) : DmaCall Unit := do
  require .badCapability (length ≠ 0 ∧ length % frameSize = 0 ∧ virtualBase % frameSize = 0 ∧
    physicalBase % frameSize = 0)
  require .badCapability (virtualBase + length < addressLimit)
  require .badCapability
    (virtualBase < userCanonicalLimit ∧ virtualBase + length ≤ userCanonicalLimit)
  require .badCapability (physicalBase + length < addressLimit)
  require .badCapability (hhdmOffset.isSome = true)
  let runtime ← get
  let (pid, process) ← fromOption .badCapability runtime.currentProcess
  let first := virtualBase / frameSize
  let count := length / frameSize
  require .badCapability
    (request.rangeFree = true ∧ ∀ index < count, process.window (first + index) = none)
  let (complete, window) :=
    mapPages request.pageMaps first (physicalBase / frameSize) process.window 0 count
  set (runtime.putProcess pid { process with window })
  require .badCapability (complete = true)

def unmapCurrentProcessPhysicalRange (virtualBase length : Nat) (runtime : DmaRuntime) :
    DmaRuntime :=
  match runtime.currentProcess with
  | some (pid, process) =>
    runtime.putProcess pid { process with
      window := clearPages process.window (virtualBase / frameSize) (length / frameSize) }
  | none => runtime

def abandonClaim {α : Type} (id : KernelObjectId) (owner : ProcessId) (error : IpcError) :
    DmaCall α := do
  modify fun runtime => runtime.releaseDmaRegionClaim id owner
  throw error

def abandonMapping {α : Type} (mapping : DmaUserMapping) (mapLen : Nat) (owner : ProcessId)
    (error : IpcError) : DmaCall α := do
  modify (unmapCurrentProcessPhysicalRange mapping.virtualBase mapLen)
  abandonClaim mapping.region owner error

def recordMapping (request : DmaMapRequest) (mapping : DmaUserMapping) (mapLen : Nat)
    (owner : ProcessId) : DmaCall Unit := do
  if request.copied then do
    let runtime ← get
    match runtime.currentProcess with
    | none => abandonMapping mapping mapLen owner .badCapability
    | some (pid, process) =>
      match process.addDmaMapping mapping with
      | .error _ => abandonMapping mapping mapLen owner .badCapability
      | .ok process =>
        set { runtime.putProcess pid process with
          accepted := (pid, mapping.region) :: runtime.accepted }
  else abandonMapping mapping mapLen owner .invalidUserBuffer

def mapClaimed (request : DmaMapRequest) (mapping : DmaUserMapping)
    (mapLen : Nat) (owner : ProcessId) : DmaCall Unit := do
  let runtime ← get
  match DmaRuntime.zeroDmaPhysicalRange hhdmOffset mapping.physicalBase mapping.length
      runtime.memory with
  | none => abandonClaim mapping.region owner .badCapability
  | some memory =>
    set { runtime with memory }
    match ← attempt (mapCurrentProcessPhysicalRange hhdmOffset request mapping.virtualBase
        mapping.physicalBase mapLen) with
    | .error error => abandonClaim mapping.region owner error
    | .ok () => recordMapping request mapping mapLen owner

def dmaMap (request : DmaMapRequest) : DmaCall Unit := do
  require .invalidUserBuffer (dmaMappingInfoBytes ≤ request.maxLen)
  let runtime ← get
  let id ← fromOption .badCapability request.object
  let region ← fromOption .badCapability (runtime.region id)
  let (owner, process) ← fromOption .badCapability runtime.currentProcess
  require .invalidUserBuffer (request.destination % 8 = 0)
  require .invalidUserBuffer (request.bufferWritable = true)
  let mapLen ← fromOption .badCapability (alignUp region.length frameSize)
  let virtualBase ← fromExcept (deviceUserMappingBase userDmaMappingBase id mapLen)
  if (process.dmaMapping id).isSome then
    require .invalidUserBuffer (request.copied = true)
  else do
    claimDmaRegion id owner
    mapClaimed hhdmOffset request ⟨id, virtualBase, region.base, region.length⟩ mapLen owner

variable (reclaims : Bool)

def reapProcessContext (pid : ProcessId) : DmaCall Unit := do
  let process ← fromOption .badCapability ((← get).process pid)
  modify fun runtime => runtime.releaseProcessDmaMappings hhdmOffset pid
  if process.contextReaped = false ∧ process.cr3 ≠ 0 then do
    require .badCapability (reclaims = true)
    let left ← fromOption .badCapability ((← get).process pid)
    modify fun runtime => runtime.putProcess pid
      { left with cr3 := 0, contextReaped := true, window := fun _ => none }

namespace DmaRuntime

def halt (runtime : DmaRuntime) : DmaRuntime := { runtime with halted := true }

def leaveEnded (pid : ProcessId) (next : Option ProcessId) (runtime : DmaRuntime) : DmaRuntime :=
  match next with
  | some next =>
    (exec (reapProcessContext hhdmOffset reclaims pid) { runtime with current := some next }).2
  | none => runtime.halt

def exitCurrentProcess (status : Nat)
    (next : Option ProcessId) (runtime : DmaRuntime) : DmaRuntime :=
  match runtime.currentProcess with
  | none =>
    if status ≠ 0 ∨ next = none then runtime.halt else { runtime with current := next }
  | some (pid, process) =>
    let ended := runtime.putProcess pid { process with state := .exited }
    if pid.raw = 1 ∧ status ≠ 0 then ended.halt
    else ended.leaveEnded hhdmOffset reclaims pid next

def faultCurrentProcess (next : Option ProcessId) (runtime : DmaRuntime) : DmaRuntime :=
  match runtime.currentProcess with
  | none => runtime.halt
  | some (pid, process) =>
    let ended := runtime.putProcess pid { process with state := .exited }
    if pid.raw = 1 then ended.halt else ended.leaveEnded hhdmOffset reclaims pid next

end DmaRuntime

def killProcess (pid : ProcessId) : DmaCall Unit := do
  let runtime ← get
  require .badCapability (runtime.currentProcess.map Prod.fst ≠ some pid)
  let process ← fromOption .badCapability (runtime.process pid)
  require .badCapability (pid.raw ≠ 1)
  set (runtime.putProcess pid { process with state := .exited })
  reapProcessContext hhdmOffset reclaims pid

def processWait (pid : ProcessId) : DmaCall Unit := do
  let process ← fromOption .badCapability ((← get).process pid)
  if process.state = .exited then reapProcessContext hhdmOffset reclaims pid

/-- Start a process that is declared, or one again that exited.  `loaded` is its address
space, and `mounted` tells whether its mounts were installed. -/
def startProcess (loaded : Option Nat) (mounted : Bool) (pid : ProcessId) : DmaCall Unit := do
  let snapshot ← fromOption .badCapability ((← get).process pid)
  require .badCapability (snapshot.state = .declared ∨ snapshot.state = .exited)
  if snapshot.state = .exited then do
    reapProcessContext hhdmOffset reclaims pid
    let cr3 ← fromOption .badCapability loaded
    require .badCapability (mounted = true)
    let process ← fromOption .badCapability ((← get).process pid)
    modify fun runtime => runtime.putProcess pid { process.clearDmaMappings with
      cr3, contextReaped := false, window := fun _ => none, state := .ready }
  else
    modify fun runtime => runtime.putProcess pid { snapshot with state := .ready }

def recycleExitedProcessTemplate : Option ProcessId → DmaCall Unit
  | none => pure ()
  | some pid => do
    let process ← fromOption .badCapability ((← get).process pid)
    require .badCapability (process.state = .exited)
    reapProcessContext hhdmOffset reclaims pid
    let runtime ← get
    require .badCapability (runtime.current ≠ some pid)
    set (runtime.removeProcess pid)

/-- `admitted` and `placed` are the checks before and after the image is loaded, `granted`
the installation of mounts and capabilities. -/
def createProcess (template : Option ProcessId)
    (admitted placed granted : Bool) (loaded : Option Nat) : DmaCall Unit := do
  recycleExitedProcessTemplate hhdmOffset reclaims template
  require .badCapability (admitted = true)
  let cr3 ← fromOption .badCapability loaded
  require .badCapability (placed = true)
  let runtime ← get
  let pid : ProcessId := ⟨runtime.nextId⟩
  let added := { runtime.putProcess pid { state := .declared, cr3 } with
    nextId := runtime.nextId + 1 }
  if granted then set added
  else do
    set { added.removeProcess pid with nextId := runtime.nextId }
    throw .badCapability

/-- What happens in a generation, as far as DMA regions are concerned.  A call that is
refused by the check of its capability is no event. -/
inductive DmaEvent where
  | dmaMap (request : DmaMapRequest)
  | exit (status : Nat) (next : Option ProcessId) (reclaims : Bool)
  | fault (next : Option ProcessId) (reclaims : Bool)
  | kill (pid : ProcessId) (reclaims : Bool)
  | wait (pid : ProcessId) (reclaims : Bool)
  | start (pid : ProcessId) (reclaims : Bool) (loaded : Option Nat) (mounted : Bool)
  | create (template : Option ProcessId) (reclaims admitted placed granted : Bool)
      (loaded : Option Nat)
  | schedule (next : ProcessId)
  /-- A process that lives blocks, wakes up or gets its turn. -/
  | alter (pid : ProcessId) (state : ProcessState)
  /-- The running process writes a byte through its DMA window. -/
  | write (address : Nat) (byte : UInt8)

namespace DmaRuntime

def alterState (pid : ProcessId) (state : ProcessState) (runtime : DmaRuntime) : DmaRuntime :=
  match runtime.process pid with
  | some process =>
    if process.state = .exited ∨ state = .exited then runtime
    else runtime.putProcess pid { process with state }
  | none => runtime

def writeWindow (address : Nat) (byte : UInt8) (runtime : DmaRuntime) : DmaRuntime :=
  match runtime.currentProcess with
  | some (_, process) =>
    match process.window (address / frameSize) with
    | some frame =>
      if process.state = .exited then runtime
      else { runtime with
        memory := writeBytes runtime.memory (frame * frameSize + address % frameSize) [byte] }
    | none => runtime
  | none => runtime

def perform (runtime : DmaRuntime) : DmaEvent → DmaRuntime
  | .dmaMap request => (exec (DmaMappings.dmaMap hhdmOffset request) runtime).2
  | .exit status next reclaims => runtime.exitCurrentProcess hhdmOffset reclaims status next
  | .fault next reclaims => runtime.faultCurrentProcess hhdmOffset reclaims next
  | .kill pid reclaims => (exec (killProcess hhdmOffset reclaims pid) runtime).2
  | .wait pid reclaims => (exec (processWait hhdmOffset reclaims pid) runtime).2
  | .start pid reclaims loaded mounted =>
    (exec (startProcess hhdmOffset reclaims loaded mounted pid) runtime).2
  | .create template reclaims admitted placed granted loaded =>
    (exec (createProcess hhdmOffset reclaims template admitted placed granted loaded) runtime).2
  | .schedule next => { runtime with current := some next }
  | .alter pid state => runtime.alterState pid state
  | .write address byte => runtime.writeWindow address byte

/-- Nothing happens on a machine that halted. -/
def step (runtime : DmaRuntime) (event : DmaEvent) : DmaRuntime :=
  if runtime.halted then runtime else runtime.perform hhdmOffset event

def run (runtime : DmaRuntime) (events : List DmaEvent) : DmaRuntime :=
  events.foldl (step hhdmOffset) runtime

/-- A generation that was just installed: nobody has a region yet, and the first process is
the only one. -/
def boot (firstId : Nat) (regions : List BootDmaRegionConfig) (cr3 : Nat) (memory : Image) :
    DmaRuntime where
  region id :=
    if firstId ≤ id.raw then
      regions[id.raw - firstId]?.map fun region =>
        { name := region.id, base := region.base, length := region.length }
    else none
  process pid := if pid.raw = 1 then some { state := .running, cr3 } else none
  current := some ⟨1⟩
  nextId := 2
  memory

end DmaRuntime

end VertexOS.DmaMappings
