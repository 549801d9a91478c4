import VertexOS.HostedGrants
import VertexOS.WorkLists

/-!
# The references of a manifest

Which references the checks of a manifest cover, and which store objects they warn about.
-/

namespace VertexOS.VertexIr

theorem errorIf_eq_nil {wrong : Prop} [Decidable wrong] {message : String} :
    errorIf wrong message = [] ↔ ¬wrong := by
  unfold errorIf
  split <;> simp_all

def ManifestCapability.object (capability : ManifestCapability) : Option String :=
  (capability.properties.get "object").bind JsonValue.asStr

def unreachableWarning (store : StoreObject) : String :=
  s!"store object {store.id} is unreachable from the kernel or any executable"

namespace GenerationManifest

variable (manifest : GenerationManifest)

def storeGraph : FiniteGraph String where
  nodes := manifest.store.map (·.id)
  next id := ((manifest.storeObject id).map (·.references)).getD []
  next_eq_nil := by
    intro id unknown
    have missing : manifest.storeObject id = none := by
      apply List.find?_eq_none.mpr
      intro store member same
      exact unknown (List.mem_map.mpr ⟨store, member, of_decide_eq_true same⟩)
    simp [missing]

def storeQueue : List String :=
  manifest.kernelStoreObject :: manifest.executables.map (·.storeObject) ++
    manifest.capabilities.filterMap (fun capability =>
      capability.object.filter fun object => (manifest.storeObject object).isSome) ++
    manifest.services.flatMap (·.configs)

def warnForUnreachableStoreObjects : List String :=
  let reachable := manifest.storeGraph.search manifest.storeQueue []
  (manifest.store.filter fun store => store.id ∉ reachable).map unreachableWarning

/-- A store object refers to another one; an identifier stands for the first object that has
it. -/
def RefersTo (first second : String) : Prop :=
  ∃ store, manifest.storeObject first = some store ∧ second ∈ store.references

/-- What needs no reference to be in use. -/
def StoreRoot (executables : List Executable) (root : String) : Prop :=
  root = manifest.kernelStoreObject ∨ (∃ executable ∈ executables, executable.storeObject = root) ∨
    (∃ capability ∈ manifest.capabilities, capability.object = some root) ∨
    ∃ service ∈ manifest.services, root ∈ service.configs

def StoreReachable (executables : List Executable) (id : String) : Prop :=
  ∃ root, manifest.StoreRoot executables root ∧ Relation.ReflTransGen manifest.RefersTo root id

theorem refersTo_eq_leads : manifest.RefersTo = manifest.storeGraph.Leads := by
  funext first second
  apply propext
  cases found : manifest.storeObject first <;>
    simp [RefersTo, FiniteGraph.Leads, storeGraph, found]

theorem mem_storeQueue {root : String} (isObject : (manifest.storeObject root).isSome) :
    root ∈ manifest.storeQueue ↔ manifest.StoreRoot manifest.executables root := by
  have object (capability : ManifestCapability) :
      capability.object.filter (fun object => (manifest.storeObject object).isSome) = some root ↔
        capability.object = some root := by
    rw [Option.filter_eq_some_iff, and_iff_left isObject]
  simp only [storeQueue, StoreRoot, List.cons_append, List.mem_cons, List.mem_append, List.mem_map,
    List.mem_filterMap, List.mem_flatMap, object, or_assoc]

theorem isSome_storeObject {root : String} {store : StoreObject} (member : store ∈ manifest.store)
    (path : Relation.ReflTransGen manifest.RefersTo root store.id) :
    (manifest.storeObject root).isSome := by
  rcases path.cases_head with rfl | ⟨second, ⟨first, found, -⟩, -⟩
  · exact List.find?_isSome.mpr ⟨store, member, by simp⟩
  · simp [found]

open Classical in
/-- The search ends on every manifest, and the warnings are about the store objects that no
chain of references leads to. -/
theorem unreachable_warnings_exact :
    manifest.warnForUnreachableStoreObjects =
      (manifest.store.filter fun store =>
        ¬manifest.StoreReachable manifest.executables store.id).map unreachableWarning := by
  refine congrArg _ (List.filter_congr fun store member => ?_)
  have nothing : manifest.storeGraph.ClosedUpTo manifest.storeQueue [] := by
    simp [FiniteGraph.ClosedUpTo]
  rw [decide_eq_decide, not_iff_not, nothing.mem_search, FiniteGraph.ReachedFrom,
    ← refersTo_eq_leads, or_iff_right List.not_mem_nil]
  exact exists_congr fun root => and_congr_left fun path =>
    manifest.mem_storeQueue (manifest.isSome_storeObject member path)

def serviceExecutables : List Executable :=
  manifest.executables.filter fun executable =>
    manifest.services.any fun service => service.executable = executable.id

end GenerationManifest

def unusedTool : GenerationManifest :=
  { Supervisor.twoOwners "state:x" "state:y" with
    store := [{ id := "store:worker", kind := "executable", path := "/store/worker" },
      { id := "store:tool", kind := "executable", path := "/store/tool" }]
    executables := [{ id := "exe:worker", storeObject := "store:worker", entrypoint := "worker" },
      { id := "exe:tool", storeObject := "store:tool", entrypoint := "tool" }] }

/-- There is no warning about an object that only an executable outside all services needs. -/
theorem unusedTool_without_warning :
    unusedTool.warnForUnreachableStoreObjects = [] ∧
      ¬unusedTool.StoreReachable unusedTool.serviceExecutables "store:tool" := by
  constructor
  · unfold GenerationManifest.warnForUnreachableStoreObjects
    simp [GenerationManifest.storeQueue, unusedTool, Supervisor.twoOwners, FiniteGraph.search,
      GenerationManifest.storeGraph, GenerationManifest.storeObject, Supervisor.volumeOwner]
  · rintro ⟨root, isRoot, path⟩
    have noReferences : ∀ store ∈ unusedTool.store, store.references = [] := by simp [unusedTool]
    rcases path.cases_head with rfl | ⟨second, ⟨store, found, refers⟩, -⟩
    · simp [GenerationManifest.StoreRoot, GenerationManifest.serviceExecutables, unusedTool,
        Supervisor.twoOwners, Supervisor.volumeOwner] at isRoot
    · rw [noReferences store (List.mem_of_find?_eq_some found)] at refers
      cases refers

namespace GenerationManifest

variable (manifest : GenerationManifest) (generations : List String)

/-- What a capability can come from. -/
def Provides (id : String) : Prop :=
  id = manifest.kernelId ∨ (manifest.service id).isSome ∨ (manifest.storeObject id).isSome ∨
    ∃ device ∈ manifest.devices, device.id = id

/-- The references that are taken as they are name what they should, where `generations` are
those that a rollback can go to. -/
structure UncheckedClosed : Prop where
  references : ∀ store ∈ manifest.store, ∀ id ∈ store.references, (manifest.storeObject id).isSome
  objects : ∀ capability ∈ manifest.capabilities, ∀ id ∈ capability.object,
    (manifest.storeObject id).isSome
  providers : ∀ capability ∈ manifest.capabilities, manifest.Provides capability.provider
  owners : ∀ state ∈ manifest.stateVolumes, (manifest.service state.owner).isSome
  targets : ∀ service ∈ manifest.services, ∀ health ∈ service.health, ∀ id ∈ health.target,
    (manifest.capability id).isSome
  parent : ∀ id ∈ manifest.generationParent, id ∈ generations

structure ServiceClosed (service : Service) : Prop where
  executable : (manifest.executable service.executable).isSome
  provides : ∀ id ∈ service.provides, (manifest.capability id).isSome
  requires : ∀ requirement ∈ service.requires, (manifest.capability requirement.capability).isSome
  state : ∀ id ∈ service.state, (manifest.stateVolume id).isSome
  secrets : ∀ id ∈ service.secrets, (manifest.secret id).isSome
  configs : ∀ id ∈ service.configs, ∃ store ∈ manifest.storeObject id, store.kind = "config"
  startAfter : ∀ id ∈ service.startAfter, (manifest.service id).isSome
  stopBefore : ∀ id ∈ service.stopBefore, (manifest.service id).isSome

/-- Every reference names something of the kind it is meant for. -/
structure Closed : Prop extends UncheckedClosed manifest generations where
  kernel : (manifest.storeObject manifest.kernelStoreObject).isSome
  init : (manifest.executable manifest.initExecutable).isSome
  executables : ∀ executable ∈ manifest.executables,
    (manifest.storeObject executable.storeObject).isSome
  services : ∀ service ∈ manifest.services, manifest.ServiceClosed service
  sharing : ∀ state ∈ manifest.stateVolumes, ∀ field ∈ ["readers", "writers", "controllers"],
    ∀ value ∈ state.sharingPolicy.get field, ∀ entries ∈ value.asArray, ∀ entry ∈ entries,
      ∀ id ∈ entry.asStr, (manifest.service id).isSome
  drivers : ∀ device ∈ manifest.devices, (manifest.service device.driver).isSome
  rootService : (manifest.service manifest.rootService).isSome
  startOrder : ∀ id ∈ manifest.startOrder, (manifest.service id).isSome

variable {manifest}

theorem serviceClosed_of_validateService {service : Service}
    (clean : validateService manifest service = []) : manifest.ServiceClosed service := by
  unfold validateService at clean
  simp only [List.append_eq_nil_iff, List.flatMap_eq_nil_iff, errorIf_eq_nil, Bool.not_eq_true,
    Option.isNone_eq_false_iff] at clean
  obtain ⟨⟨⟨⟨⟨⟨⟨⟨⟨⟨executable, provides⟩, requires⟩, state⟩, secrets⟩, configs⟩, after⟩, before⟩,
    -⟩, -⟩, -⟩ := clean
  refine ⟨executable, ?_, ?_, ?_, secrets, ?_, after, before⟩
  · intro id member
    have clean := provides id member
    unfold validateProvided at clean
    split at clean <;> simp_all [errorIf_eq_nil]
  · intro requirement member
    have clean := requires requirement member
    unfold validateRequirement at clean
    split at clean <;> simp_all [errorIf_eq_nil]
  · intro id member
    have clean := state id member
    unfold validateServiceState at clean
    split at clean <;> simp_all [errorIf_eq_nil]
  · intro id member
    have clean := configs id member
    unfold validateServiceConfig at clean
    split at clean <;> simp_all [errorIf_eq_nil]

theorem sharing_of_validateStateVolume {state : StateVolume}
    (clean : validateStateVolume manifest state = []) {field : String}
    (shares : field ∈ ["readers", "writers", "controllers"]) {value : JsonValue}
    (declared : value ∈ state.sharingPolicy.get field) {entries : List JsonValue}
    (isArray : entries ∈ value.asArray) {entry : JsonValue} (member : entry ∈ entries) {id : String}
    (named : id ∈ entry.asStr) : (manifest.service id).isSome := by
  simp only [validateStateVolume, List.append_eq_nil_iff] at clean
  obtain ⟨⟨⟨⟨⟨-, hasMode⟩, -⟩, -⟩, -⟩, clean⟩ := clean
  rw [Option.mem_def] at declared isArray named
  cases mode : (state.sharingPolicy.get "mode").bind JsonValue.asStr with
  | none =>
    simp only [requiredPolicyMode, mode] at hasMode
    split at hasMode <;> cases hasMode
  | some mode' =>
    simp only [validateStateSharingPolicy, mode, List.flatMap_eq_nil_iff] at clean
    have fieldClean := clean field shares
    simp only [declared, isArray] at fieldClean
    split at fieldClean
    · cases fieldClean
    · have entryClean := List.flatMap_eq_nil_iff.mp fieldClean entry member
      simpa [validateSharingEntry, errorIf_eq_nil, named, ← Option.isSome_iff_ne_none]
        using entryClean

/-- A manifest without errors is closed exactly when the references are good that no check looks
up. -/
theorem closed_iff_of_accepted (accepted : manifest.Accepted) :
    manifest.Closed generations ↔ manifest.UncheckedClosed generations := by
  constructor
  · exact Closed.toUncheckedClosed
  · intro unchecked
    simp only [Accepted, validateManifest, validateKernelAndInit, validateExecutables,
      validateServices, validateStateVolumes, validateDevices, validateActivation,
      List.append_eq_nil_iff, List.flatMap_eq_nil_iff, errorIf_eq_nil, Bool.not_eq_true,
      Option.isNone_eq_false_iff] at accepted
    obtain ⟨⟨⟨⟨⟨⟨⟨-, ⟨kernel, init⟩, -⟩, executables⟩, -⟩, services⟩, states⟩, devices, -⟩,
      ⟨rootService, startOrder⟩, -⟩ := accepted
    refine { unchecked with
      kernel, init, executables, rootService, startOrder
      services := fun service member => serviceClosed_of_validateService (services service member)
      sharing := fun state member _ shares _ declared _ isArray _ inside _ =>
        sharing_of_validateStateVolume (states state member) shares declared isArray inside
      drivers := ?_ }
    intro device member
    have clean := devices device member
    unfold validateDevice at clean
    split at clean <;> simp_all [errorIf_eq_nil]

end GenerationManifest

def referring (references : List String) : GenerationManifest :=
  { Supervisor.twoOwners "state:x" "state:y" with
    store := [{ id := "store:worker", kind := "executable", path := "/store/worker", references }] }

/-- A store object may refer to one that does not exist. -/
theorem not_closed_of_dangling_reference : (referring ["store:missing"]).Accepted ∧
    ∀ generations, ¬(referring ["store:missing"]).Closed generations := by
  refine ⟨by decide +kernel, fun generations closed => ?_⟩
  have found := closed.references _ List.mem_cons_self _ List.mem_cons_self
  revert found
  decide +kernel

theorem closed_referring_worker : (referring ["store:worker"]).Closed [] := by
  apply (GenerationManifest.closed_iff_of_accepted [] (by decide +kernel)).mpr
  refine ⟨?_, ?_, ?_, ?_, ?_, ?_⟩ <;>
    simp [referring, Supervisor.twoOwners, Supervisor.volumeOwner, Supervisor.ownVolume,
      GenerationManifest.storeObject, GenerationManifest.service]

end VertexOS.VertexIr
