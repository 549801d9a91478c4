import VertexOS.CapabilityCreation

/-!
# What the steps of a boot can do

A relation that each part of the installation keeps is kept by all of it.
-/

namespace VertexOS

open FailingCalls ObjectTable

variable {R : RuntimeState → RuntimeState → Prop}

section

variable [IsTrans RuntimeState R] [Std.Refl R]

/-- A process may be declared with these rights to the object: by a grant of the
configuration, as the log service, or as one end of an internal conversation. -/
inductive InstalledObjects.Declares (installed : InstalledObjects) (object : KernelObjectId) :
    Rights → Prop
  | configured {kind : BootObjectKind} {index : Nat}
      (granted : installed.grantObjectId kind index = .ok object) (rights : Rights) :
      Declares installed object rights
  | secret (isSecret : installed.secretId = some object) (rights : Rights) :
      Declares installed object rights
  | paired {pair : InternalEndpointPair} {grant : InternalEndpointGrant}
      (known : pair ∈ internalEndpointPairs) (isEnd : grant = pair.request ∨ grant = pair.reply)
      (there : grant.endpoint installed = some object) : Declares installed object grant.rights

theorem always_grantDeclaredCaps
    (grants : ∀ runtime object rights owner slot, runtime.installed.Declares object rights →
      Evolves R (grantRootCapability object rights owner slot) runtime)
    (config : BootRuntimeConfig) (processIndex : Nat) (owner : ProcessId) :
    Always R (grantConfigCapsToProcess config processIndex owner) := by
  have configured (grant : BootGrantConfig) : Always R (grantConfigCap owner grant) :=
    .get_bind fun runtime => .fromExcept_bind fun object granted =>
      grants runtime object grant.rights owner grant.capSlot (.configured granted _)
  have secret (process : BootProcessConfig) : Always R (grantLogdSecret config process owner) :=
    .bind (.require ..) fun _ => .get_bind fun runtime => .fromOption_bind fun object isSecret =>
      grants runtime object _ owner _ (.secret isSecret _)
  have endpoint (process : BootProcessConfig) {pair : InternalEndpointPair}
      (known : pair ∈ internalEndpointPairs) {grant : InternalEndpointGrant}
      (isEnd : grant = pair.request ∨ grant = pair.reply) :
      Always R (grantInternalEndpoint config process owner grant) := by
    refine .get_bind fun runtime => ?_
    cases there : grant.endpoint runtime.installed with
    | none => exact .pure ()
    | some object =>
      exact .require_bind fun _ => grants runtime object _ owner _ (.paired known isEnd there)
  have pairs (process : BootProcessConfig) :
      Always R (inTurn (grantInternalPair config process owner) internalEndpointPairs) :=
    .inTurn_of_mem fun pair known => .ite (.bind (endpoint process known (.inl rfl)) fun _ =>
        endpoint process known (.inr rfl)) (.pure _)
  exact .bind (.inTurn configured _) fun _ => .bind (.fromOption ..) fun process =>
      .ite (.bind (secret process) fun _ => pairs process) (pairs process)

theorem always_grantConfigCapsToProcess
    (grants : ∀ object rights owner slot, Always R (grantRootCapability object rights owner slot))
    (config : BootRuntimeConfig) (processIndex : Nat) (owner : ProcessId) :
    Always R (grantConfigCapsToProcess config processIndex owner) :=
  always_grantDeclaredCaps (fun runtime _ _ _ _ _ => (grants ..).evolves runtime) ..

end

/-- A relation that holds for each of the steps that a boot is made of. -/
structure BootSteps (R : RuntimeState → RuntimeState → Prop) : Prop where
  vfs : ∀ runtime vfs, R runtime { runtime with vfs }
  mount : ∀ {runtime after : RuntimeState} {name rootNode rootPath source flags dynamic owner id},
    runtime.addVfsMount name rootNode rootPath source flags dynamic owner = .ok (id, after) →
      R runtime after
  objects : ∀ {runtime : RuntimeState} {objects}, runtime.objects.AddsOne objects →
    R runtime { runtime with objects }
  installed : ∀ runtime installed, R runtime { runtime with installed }
  process : ∀ {runtime : RuntimeState} {name context imageBase imageLength state mountRoot pid
    processes},
    runtime.processes.addProcess name context imageBase imageLength state .new mountRoot =
      .ok (pid, processes) → R runtime { runtime with processes }
  starts : ∀ runtime processTemplatePids current,
    R runtime { runtime with
      processTemplatePids
      processes := { runtime.processes with current } }
  grants : ∀ object rights owner slot, Always R (grantRootCapability object rights owner slot)

namespace BootSteps

variable [IsTrans RuntimeState R] [Std.Refl R]

section

variable (steps : BootSteps R) (name : String) (environment : BootEnvironment)
  (config : BootRuntimeConfig) (initialProcess : BootProcessConfig)

include steps

omit [IsTrans RuntimeState R] in
theorem always_addNode (parent : Option VfsNodeId) (kind : VfsNodeKind) (backing : VfsBacking)
    (mountSource : String) : Always R (addNode name parent kind backing mountSource) :=
  .get_bind fun runtime => .fromExcept_bind fun (_, vfs) _ => steps.vfs runtime vfs

omit [IsTrans RuntimeState R] in
theorem always_addMount (rootNode : VfsNodeId) (rootPath : VfsPath) (source : String)
    (flags : BitVec 64) (owner : ProcessId) :
    Always R (addMount name rootNode rootPath source flags owner) :=
  .get_bind fun _ => .fromExcept_bind fun (_, _) added => steps.mount added

theorem always_addMountedDirectory (parent : Option VfsNodeId) (mountName path source : String)
    (flags : BitVec 64) : Always R (addMountedDirectory name parent mountName path source flags) :=
  .bind (steps.always_addNode ..) fun _ => .bind (.fromExcept _) fun _ =>
    .bind (steps.always_addMount ..) fun _ => .pure _

theorem always_addVertexFsNode (parent : VfsNodeId) (file : VertexFsBootFile) :
    Always R (addVertexFsNode name parent file) :=
  .get_bind fun runtime => .fromExcept_bind fun (_, vfs) _ => .set_bind (steps.vfs runtime vfs)
      ((Always.bind (steps.always_addNode ..) fun _ => .pure _).evolves _)

theorem always_addMemoryNode (parent : VfsNodeId) (initial : ByteStrings.Bytes) :
    Always R (addMemoryNode name parent initial) :=
  .get_bind fun runtime => .fromExcept_bind fun (_, vfs) _ => .set_bind (steps.vfs runtime vfs)
      ((Always.bind (steps.always_addNode ..) fun _ => .pure _).evolves _)

theorem always_addStateVolumeNodes (stateRoot : VfsNodeId) (object : KernelObjectId) :
    Always R (addStateVolumeNodes stateRoot object) :=
  .get_bind fun runtime => .fromOption_bind fun _ _ => .fromExcept_bind fun _ _ =>
    .fromExcept_bind fun _ _ => .require_bind fun _ => .fromExcept_bind fun (_, vfs) _ =>
    .set_bind (steps.vfs runtime vfs)
      ((Always.bind (steps.always_addNode ..) fun _ => .bind (steps.always_addNode ..) fun _ =>
        steps.always_addMount ..).evolves _)

theorem always_addStoreNode (storeRoot : VfsNodeId) (object : KernelObjectId) :
    Always R (addStoreNode storeRoot object) :=
  .bind .get fun _ => .bind (.fromOption ..) fun _ => .bind (steps.always_addNode ..) fun _ =>
    .pure _

theorem always_addDeviceNode (devRoot : VfsNodeId) (object : KernelObjectId) :
    Always R (addDeviceNode devRoot object) :=
  .bind .get fun _ => .bind (.fromOption ..) fun _ => .bind (steps.always_addNode ..) fun _ =>
    .pure _

theorem always_installVertexFsNodes (root : VfsNodeId) (files : VertexFsBootFiles) :
    Always R (installVertexFsNodes root files) :=
  .bind (steps.always_addMountedDirectory ..) fun _ =>
    .bind (steps.always_addVertexFsNode ..) fun _ => .bind (steps.always_addNode ..) fun _ =>
    steps.always_addVertexFsNode ..

theorem always_installStateNodes (stateRoot : VfsNodeId) : Always R (installStateNodes stateRoot) :=
  .bind (steps.always_addMemoryNode ..) fun _ => .bind (steps.always_addNode ..) fun _ =>
    .bind (steps.always_addMemoryNode ..) fun _ => .bind (steps.always_addNode ..) fun _ =>
    .bind (.fromExcept _) fun _ => .bind (steps.always_addMount ..) fun _ => .bind .get fun _ =>
    .inTurn (steps.always_addStateVolumeNodes stateRoot) _

theorem always_installVfsNodes (image : ByteImages.Image) (files : VertexFsBootFiles) :
    Always R (installVfsNodes image files) :=
  .bind (.modify fun runtime => steps.vfs runtime _) fun _ =>
    .bind (steps.always_addMountedDirectory ..) fun root =>
    .bind (steps.always_addMountedDirectory ..) fun storeRoot =>
    .bind (steps.always_addMountedDirectory ..) fun stateRoot =>
    .bind (steps.always_addMountedDirectory ..) fun devRoot =>
    .bind (steps.always_addMountedDirectory ..) fun _ =>
    .bind (steps.always_installVertexFsNodes root files) fun _ =>
    .bind (steps.always_installStateNodes stateRoot) fun _ => .bind (steps.always_addNode ..) fun _ =>
    .bind (steps.always_addNode ..) fun _ => .bind .get fun _ =>
    .bind (.inTurn (steps.always_addStoreNode storeRoot) _) fun _ => .bind .get fun _ =>
    .inTurn (steps.always_addDeviceNode devRoot) _

theorem always_installDeclaredMount (pid : ProcessId) (mountRoot : VfsPath)
    (mount : BootProcessMountConfig) : Always R (installDeclaredMount pid mountRoot mount) :=
  .bind (.fromExcept _) fun _ => .bind (.fromExcept _) fun _ => .bind (.fromExcept _) fun _ =>
    .bind .get fun _ => .bind (.fromOption ..) fun _ => .bind (.require ..) fun _ =>
    .bind (.fromOption ..) fun _ => .bind (.require ..) fun _ => .bind (.fromOption ..) fun _ =>
    .bind (.fromExcept _) fun _ => steps.always_addMount ..

theorem always_installDeclaredProcessMounts (process : BootProcessConfig) (pid : ProcessId)
    (mountRoot : VfsPath) : Always R (installDeclaredProcessMounts process pid mountRoot) :=
  .inTurn (steps.always_installDeclaredMount pid mountRoot) _

omit [IsTrans RuntimeState R] in
theorem always_addObject {add : ObjectTable → Except InitError (KernelObjectId × ObjectTable)}
    (addsOne : ∀ table id after, add table = .ok (id, after) → table.AddsOne after) :
    Always R (addObject add) :=
  .get_bind fun _ => .fromExcept_bind fun (_, _) added => steps.objects (addsOne _ _ _ added)

theorem always_addObjects {α : Type}
    {add : α → ObjectTable → Except InitError (KernelObjectId × ObjectTable)}
    (addsOne : ∀ a table id after, add a table = .ok (id, after) → table.AddsOne after)
    (list : List α) : Always R (addObjects add list) := by
  induction list with
  | nil => exact .pure _
  | cons first rest ih =>
    exact .bind (steps.always_addObject (addsOne first)) fun _ => .bind ih fun _ => .pure _

theorem always_addDevices (kind : DeviceObject → KernelObject)
    (kept : ∀ device, (kind device).id = device.id) (names : List String) :
    Always R (addDevices kind kept names) :=
  steps.always_addObjects (fun _ _ _ _ added => addsOne_append added) _

omit [IsTrans RuntimeState R] in
theorem always_addEndpoint : Always R (addObject fun objects => objects.addEndpoint name) :=
  steps.always_addObject fun _ _ _ added => addsOne_addEndpoint added

omit [IsTrans RuntimeState R] [Std.Refl R] in
theorem always_updateInstalled (change : InstalledObjects → InstalledObjects) :
    Always R (updateInstalled change) :=
  .modify fun runtime => steps.installed runtime _

theorem always_installEndpointPair (requestName replyName : String)
    (record : KernelObjectId → KernelObjectId → InstalledObjects → InstalledObjects) :
    Always R (installEndpointPair requestName replyName record) :=
  .bind (steps.always_addEndpoint _) fun _ => .bind (steps.always_addEndpoint _) fun _ =>
    steps.always_updateInstalled _

theorem always_installEndpoints : Always R (installEndpoints config) := by
  have added : Always R
      (addObjects (fun name objects => objects.addEndpoint name) config.endpoints) :=
    steps.always_addObjects (fun _ _ _ _ added => addsOne_addEndpoint added) _
  have rest : Always R (do
      installVertexFsDeviceEndpoints
      if config.hasProcess blockDriverProcessName then installGenerationMetadataEndpoints) :=
    .bind (steps.always_installEndpointPair ..) fun _ =>
      .ite (steps.always_installEndpointPair ..) (.pure _)
  exact .bind added fun _ => .bind (steps.always_updateInstalled _) fun _ =>
    .ite (.bind (steps.always_installEndpointPair ..) fun _ => rest) rest

theorem always_installResources : Always R (installResources environment config) :=
  .bind
    (steps.always_addObjects (fun _ _ _ _ added => addsOne_append added) _) fun _ => .bind
      (steps.always_addObjects (fun _ _ _ _ added => addsOne_append added) _) fun _ =>
    .bind (steps.always_addObjects (fun _ _ _ _ added => addsOne_append added) _) fun _ =>
    .bind (steps.always_addDevices ..) fun _ => .bind (steps.always_addDevices ..) fun _ =>
    .bind (.require ..) fun _ => .bind (steps.always_addDevices ..) fun _ => .bind
      (steps.always_addObjects (fun _ _ _ _ added => addsOne_append added) _) fun _ =>
    .bind (steps.always_addDevices ..) fun _ => .bind (steps.always_addDevices ..) fun _ =>
    .bind (steps.always_addDevices ..) fun _ => .bind
      (steps.always_addObject fun _ _ _ added => addsOne_append added) fun _ =>
    steps.always_updateInstalled _

theorem always_installNamespaces (namespaces : List BootNamespaceConfig) :
    Always R (installNamespaces namespaces) := by
  induction namespaces with
  | nil => exact .pure _
  | cons first rest ih =>
    refine .bind ?_ fun _ => .bind ih fun _ => .pure _
    exact .bind .get fun _ => .bind (.fromExcept _) fun _ =>
      steps.always_addObject fun _ _ _ added => addsOne_append added

theorem always_installAuthorities : Always R (installAuthorities config) :=
  .bind (steps.always_installNamespaces _) fun _ => .bind (steps.always_updateInstalled _) fun _ =>
    .bind (steps.always_addObjects (fun _ _ _ _ added => addsOne_addVfsRoot added) _) fun _ =>
    .bind (steps.always_addObject fun _ _ _ added => addsOne_append added) fun _ =>
    steps.always_updateInstalled _

theorem always_grantBootstrap (authority rule : String) (rights : Rights) (pid : ProcessId)
    (slot : Nat) (object : KernelObjectId) :
    Always R (grantBootstrap config initialProcess authority rule rights pid slot object) :=
  .bind (.require ..) fun _ => steps.grants ..

theorem always_grantInitialManifest (pid : ProcessId) :
    Always R (grantInitialManifest config initialProcess pid) := by
  unfold grantInitialManifest
  split
  · exact .pure _
  · exact .bind (.require ..) fun _ => .bind
        (steps.always_addObject fun _ _ _ added => addsOne_append added) fun _ =>
      steps.grants ..

theorem always_installInitialProcess (initialIndex : Nat) (initialProcess : BootProcessConfig) :
    Always R (installInitialProcess environment config initialIndex initialProcess) := by
  refine .bind (.fromExcept _) fun mountRoot => .get_bind fun runtime => .fromExcept_bind ?_
  rintro ⟨pid, processes⟩ added
  refine .set_bind (steps.process added) (Always.evolves ?_ _)
  exact .bind (steps.always_installDeclaredProcessMounts ..) fun _ =>
    .bind (.modify fun runtime => steps.starts runtime _ _) fun _ =>
    .bind (always_grantConfigCapsToProcess steps.grants ..) fun _ =>
    .bind (steps.always_grantInitialManifest ..) fun _ => .bind
      (steps.always_addObject fun _ _ _ added => addsOne_append added) fun _ =>
    .bind (steps.always_updateInstalled _) fun _ => .bind (steps.always_grantBootstrap ..) fun _ =>
    .bind .get fun _ => .bind (.fromOption ..) fun _ => steps.always_grantBootstrap ..

theorem always_buildBootConfigRuntime (files : VertexFsBootFiles) (initialIndex : Nat)
    (initialProcess : BootProcessConfig) :
    Always R (buildBootConfigRuntime environment config files initialIndex initialProcess) :=
  .bind (steps.always_installEndpoints _) fun _ => .bind (steps.always_installResources ..) fun _ =>
    .bind (steps.always_installVfsNodes ..) fun _ =>
    .bind (.bind .get fun _ => .require ..) fun _ =>
    .bind (steps.always_installAuthorities _) fun _ => steps.always_installInitialProcess ..

end

end BootSteps

end VertexOS
