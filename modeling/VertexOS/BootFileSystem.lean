import VertexOS.BootGrants

/-! # The file system after boot -/

namespace VertexOS

open ByteStrings ByteImages FailingCalls SlotTables

def stateVolumeValueFileName : String := "value"
def stateVolumeControlFileName : String := "control"
def statefsSource : String := "statefs"
def statePathPrefix : String := "/state/"
def stateVolumePrefix : String := "state:"
def vfsSyntheticInspectBytes : Bytes := utf8 "krust synthetic inspect node\n"

def stateVolumeMountComponent (id : String) : Except InitError Bytes :=
  let kind := utf8 stateVolumePrefix
  if kind <+: utf8 id then
    let component := (utf8 id).drop kind.length
    if component = [] ∨ maxVfsNameBytes < component.length ∨ slash ∈ component ∨
        (0 : UInt8) ∈ component then .error .invalidBootManifest
    else .ok component
  else .error .invalidBootManifest

def stateVolumeVfsName (id : String) : Except InitError VfsName := do
  let component ← stateVolumeMountComponent id
  (VfsName.fromBytes component).elim (.error .invalidBootManifest) .ok

def stateVolumeVfsPath (id : String) : Except InitError VfsPath := do
  let component ← stateVolumeMountComponent id
  (VfsPath.fromRootPath (utf8 statePathPrefix ++ component)).mapError
    fun _ => .invalidBootManifest

def addNode (name : String) (parent : Option VfsNodeId) (kind : VfsNodeKind)
    (backing : VfsBacking) (mountSource : String) : BootCall VfsNodeId := do
  let runtime ← get
  let (id, vfs) ← fromExcept (runtime.vfs.addVfsNode name parent kind backing mountSource)
  set { runtime with vfs }
  return id

def addMount (name : String) (rootNode : VfsNodeId) (rootPath : VfsPath) (source : String)
    (flags : BitVec 64) (owner : ProcessId) : BootCall Unit := do
  let (_, after) ← fromExcept
    ((← get).addVfsMount name rootNode rootPath source flags false owner)
  set after

def addMountedDirectory (name : String) (parent : Option VfsNodeId) (mountName path source : String)
    (flags : BitVec 64) : BootCall VfsNodeId := do
  let node ← addNode name parent .directory .none source
  let rootPath ← fromExcept (VfsPath.fromBootRootPath path)
  addMount mountName node rootPath source flags .empty
  return node

def addVertexFsNode (name : String) (parent : VfsNodeId) (file : VertexFsBootFile) :
    BootCall Unit := do
  let runtime ← get
  let (index, vfs) ← fromExcept (runtime.vfs.addVertexFsFile name file.payload (some file.inode))
  set { runtime with vfs }
  let _ ← addNode name (some parent) .regularFile (.vertexFsFile index) vertexFsSource

def stateVolatileSource : String := "state:volatile"

def addMemoryNode (name : String) (parent : VfsNodeId) (initial : Bytes) : BootCall Unit := do
  let runtime ← get
  let (index, vfs) ← fromExcept (runtime.vfs.addVfsMemoryFile name initial)
  set { runtime with vfs }
  let _ ← addNode name (some parent) .regularFile (.memoryFile index) stateVolatileSource

def addStateVolumeNodes (stateRoot : VfsNodeId) (object : KernelObjectId) : BootCall Unit := do
  let runtime ← get
  let state ← fromOption .invalidBootManifest (runtime.objects.getStateVolume object)
  let name ← fromExcept (stateVolumeVfsName state.name)
  let rootPath ← fromExcept (stateVolumeVfsPath state.name)
  bootRequire (runtime.vfsNodeByPath rootPath.bytes = none)
  let (root, vfs) ← fromExcept
    (runtime.vfs.addVfsNodeWithName name (some stateRoot) .directory (.stateVolume object)
      statefsSource)
  set { runtime with vfs }
  let _ ← addNode stateVolumeValueFileName (some root) .regularFile (.stateVolumeValue object)
    statefsSource
  let _ ← addNode stateVolumeControlFileName (some root) .regularFile
    (.stateVolumeControl object) statefsSource
  addMount state.name root rootPath statefsSource 0 .empty

def addStoreNode (storeRoot : VfsNodeId) (object : KernelObjectId) : BootCall Unit := do
  let store ← fromOption .invalidBootManifest ((← get).objects.getStoreObject object)
  let _ ← addNode store.name (some storeRoot) .regularFile (.storeObject object) "storefs"

def addDeviceNode (devRoot : VfsNodeId) (object : KernelObjectId) : BootCall Unit := do
  let device ← fromOption .invalidBootManifest ((← get).objects.getVirtioDevice object)
  let _ ← addNode device.name (some devRoot) .deviceNode (.device object) "devfs"

def installVertexFsNodes (root : VfsNodeId) (files : VertexFsBootFiles) : BootCall Unit := do
  let fsRoot ← addMountedDirectory "fs" (some root) "mount:vertexfs-v1" "/fs" vertexFsSource 0
  addVertexFsNode "readme" fsRoot files.readme
  let app ← addNode "app" (some fsRoot) .directory .none vertexFsSource
  addVertexFsNode "a" app files.appA

def installStateNodes (stateRoot : VfsNodeId) : BootCall Unit := do
  addMemoryNode "a" stateRoot (utf8 "state:a=0\n")
  let sub ← addNode "sub" (some stateRoot) .directory .none stateVolatileSource
  addMemoryNode "a" sub (utf8 "state:sub:a=0\n")
  let report ← addNode "service-report" (some stateRoot) .regularFile .fsServiceReport "servicefs"
  let reportPath ← fromExcept (VfsPath.fromBootRootPath "/state/service-report")
  addMount "mount:servicefs" report reportPath "servicefs" vfsMountReadOnly .empty
  inTurn (addStateVolumeNodes stateRoot) (← get).installed.stateVolumeIds

def installVfsNodes (image : Image) (files : VertexFsBootFiles) : BootCall Unit := do
  modify fun runtime => runtime.updateVfs fun vfs =>
    { vfs with vertexfs := vfs.vertexfs.loadVertexFsImage image }
  let root ← addMountedDirectory "/" none "mount:rootfs" "/" "rootfs" 0
  let storeRoot ← addMountedDirectory "store" (some root) "mount:storefs" "/store" "storefs" 0
  let stateRoot ← addMountedDirectory "state" (some root) "mount:state-volatile" "/state"
    stateVolatileSource vfsMountVolatile
  let devRoot ← addMountedDirectory "dev" (some root) "mount:devfs" "/dev" "devfs" 0
  let procRoot ← addMountedDirectory "proc" (some root) "mount:procfs" "/proc" "procfs" 0
  installVertexFsNodes root files
  installStateNodes stateRoot
  let _ ← addNode "inspect" (some procRoot) .syntheticNode (.synthetic vfsSyntheticInspectBytes)
    "procfs"
  let _ ← addNode "log-stream" (some procRoot) .pipe .pipe "pipefs"
  inTurn (addStoreNode storeRoot) (← get).installed.storeObjectIds
  inTurn (addDeviceNode devRoot) (← get).installed.virtioDeviceIds

def validateProcessMountRoots (config : BootRuntimeConfig) : BootCall Unit := do
  let runtime ← get
  bootRequire (∀ process ∈ config.processes,
    (runtime.vfsNodeByPath (utf8 process.mountRoot)).any (fun node => node.kind = .directory) = true)

def bootProcessMountFlagsToVfs (flags : BitVec 16) : Except InitError (BitVec 64) :=
  if flags &&& ~~~(bootProcessMountBind ||| bootProcessMountReadOnly) ≠ 0 ∨
      flags &&& bootProcessMountBind = 0 then .error .invalidBootManifest
  else
    .ok (ObjectTable.vfsMountBind |||
      if flags &&& bootProcessMountReadOnly ≠ 0 then vfsMountReadOnly else 0)

def resolveDeclaredPath (mountRoot : VfsPath) (path : String) : Except InitError VfsPath :=
  (resolveVfsPathUnderRoot mountRoot (utf8 path)).mapError fun _ => .invalidBootManifest

def installDeclaredMount (pid : ProcessId) (mountRoot : VfsPath)
    (mount : BootProcessMountConfig) : BootCall Unit := do
  let destination ← fromExcept (resolveDeclaredPath mountRoot mount.path)
  let source ← fromExcept (resolveDeclaredPath mountRoot mount.source)
  let (parentPath, _) ← fromExcept
    ((splitVfsParentChild destination.bytes).mapError fun _ => InitError.invalidBootManifest)
  let runtime ← get
  let parent ← fromOption .invalidBootManifest (runtime.vfsNodeByPath parentPath)
  bootRequire (parent.kind = .directory ∧ runtime.vfsNodeByPath destination.bytes = none ∧
    runtime.objects.getVfsMountByExactPath destination.bytes = none)
  let sourceNode ← fromOption .invalidBootManifest (runtime.vfsNodeByPath source.bytes)
  bootRequire (sourceNode.kind = .directory)
  let sourceMount ← fromOption .invalidBootManifest
    (runtime.objects.getVfsMountByPath source.bytes)
  let flags ← fromExcept (bootProcessMountFlagsToVfs mount.flags)
  addMount "mount:declared-bind" sourceNode.id destination sourceNode.mountSource
    (flags ||| (sourceMount.flags &&& vfsMountReadOnly)) pid

def installDeclaredProcessMounts (process : BootProcessConfig) (pid : ProcessId)
    (mountRoot : VfsPath) : BootCall Unit :=
  inTurn (installDeclaredMount pid mountRoot) process.mounts

end VertexOS
