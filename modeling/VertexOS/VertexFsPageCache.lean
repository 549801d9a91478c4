import VertexOS.VertexFsCommit

/-!
# The page cache of VertexFS

Eight pages of one sector each stand in front of the files.  A sync pins the dirty
pages of its file, and its end cleans every page of the file.  The counters of the
cache are left out: nothing reads them.
-/

namespace VertexOS

open ByteStrings ByteImages FailingCalls

def vertexFsPageCacheDirtyByteLimit : Nat := vertexFsSectorSize * 6
def vertexFsPageCachePerMountDirtyByteLimit : Nat := vertexFsPageCacheDirtyByteLimit

namespace VertexFsState

variable (fs : VertexFsState)

def updateFile (backing : Nat) (change : VfsVertexFsFile → VfsVertexFsFile) :
    VertexFsState :=
  { fs with files := Function.update fs.files backing (change (fs.files backing)) }

def updatePage (page : PageIndex)
    (change : VfsPageCachePage → VfsPageCachePage) : VertexFsState :=
  { fs with pageCache := Function.update fs.pageCache page (change (fs.pageCache page)) }

def updatePagesOf (backing : Nat)
    (change : VfsPageCachePage → VfsPageCachePage) : VertexFsState :=
  { fs with
    pageCache := fun page =>
      let cached := fs.pageCache page
      if cached.valid ∧ cached.backing = backing then change cached else cached }

/-- The key of a file in the cache: its inode, or a number of its own without one. -/
def vertexFsPageCacheInodeKey (backing : Nat) : Except IpcError Nat :=
  if fs.fileCount ≤ backing then .error .vfsBadHandle
  else if (fs.files backing).inodeId ≠ 0 then .ok (fs.files backing).inodeId
  else .ok (2 ^ 32 - 1 - backing)

def vertexFsPageCacheLookup (backing mountId inodeId pageOffset : Nat) :
    Option PageIndex :=
  (List.finRange maxVertexFsPageCachePages).find? fun index =>
    let page := fs.pageCache index
    page.valid ∧ page.backing = backing ∧ page.mountId = mountId ∧ page.inodeId = inodeId ∧
      page.pageOffset = pageOffset

def dirtyBytesWhere (counted : VfsPageCachePage → Bool) : Nat :=
  vertexFsSectorSize * (List.finRange maxVertexFsPageCachePages).countP fun index =>
    (fs.pageCache index).valid && (fs.pageCache index).dirty && counted (fs.pageCache index)

def vertexFsPageCacheDirtyBytes : Nat :=
  fs.dirtyBytesWhere fun _ => true

def vertexFsPageCacheDirtyBytesForMount (mountId : Nat) : Nat :=
  fs.dirtyBytesWhere fun page => page.mountId = mountId

def vertexFsPageCacheVictim : Except IpcError PageIndex :=
  let slots := List.finRange maxVertexFsPageCachePages
  match slots.find? fun index => !(fs.pageCache index).valid with
  | some index => .ok index
  | none =>
    match slots.find? fun index =>
      !(fs.pageCache index).dirty && !(fs.pageCache index).pinned &&
        !(fs.pageCache index).writeback with
    | some index => .ok index
    | none => .error .vfsNoSpace

/-- The page of a file as it is read in: what the file holds there, zeros behind. -/
def freshPage (mountId inodeId backing pageOffset : Nat) :
    VfsPageCachePage :=
  let file := fs.files backing
  let pageStart := pageOffset * vertexFsSectorSize
  let len := min vertexFsSectorSize (file.len - pageStart)
  { valid := true
    dirty := file.dirty
    pinned := false
    writeback := false
    writebackError := false
    mountId, inodeId, backing, pageOffset, len
    bytes := fun cursor => if cursor < len then file.bytes (pageStart + cursor) else 0 }

end VertexFsState

def ensureVertexFsPageCachePage (mountId backing pageOffset : Nat) : VertexFsCall PageIndex := do
  let fs ← get
  let inodeId ← fromExcept (fs.vertexFsPageCacheInodeKey backing)
  match fs.vertexFsPageCacheLookup backing mountId inodeId pageOffset with
  | some index => return index
  | none =>
    let slot ← fromExcept fs.vertexFsPageCacheVictim
    set (fs.updatePage slot fun _ => fs.freshPage mountId inodeId backing pageOffset)
    return slot

def ensureVertexFsPageCacheDirty (index : PageIndex) : VertexFsCall Unit := do
  let fs ← get
  let page := fs.pageCache index
  require .vfsBadHandle page.valid
  require .vfsNoSpace
    (page.dirty ∨
      (fs.vertexFsPageCacheDirtyBytes + vertexFsSectorSize ≤ vertexFsPageCacheDirtyByteLimit ∧
        fs.vertexFsPageCacheDirtyBytesForMount page.mountId + vertexFsSectorSize ≤
          vertexFsPageCachePerMountDirtyByteLimit))

/-- Read from a file: the bytes for the user and the offset behind them.
`copied` says whether the user's buffer took them. -/
def readVertexFsPageCache (mountId backing offset maxLen : Nat) (copied : Bool) :
    VertexFsCall (Bytes × Nat) := do
  let fs ← get
  require .vfsBadHandle (backing < fs.fileCount)
  let fileLen := (fs.files backing).len
  let start := min offset fileLen
  let copyLen := min (fileLen - start) maxLen
  if copyLen = 0 then return ([], offset)
  else
    let index ← ensureVertexFsPageCachePage mountId backing (start / vertexFsSectorSize)
    let page := (← get).pageCache index
    require .invalidUserBuffer copied
    require .vfsUnsupported (offset + copyLen < 2 ^ 64)
    return (readBytes page.bytes (start % vertexFsSectorSize) copyLen, offset + copyLen)

namespace VfsPageCachePage

variable (page : VfsPageCachePage)

/-- A page that was just changed: dirty, and no writeback holds it. -/
def touched : VfsPageCachePage :=
  { page with dirty := true, pinned := false, writeback := false, writebackError := false }

def written (start : Nat) (bytes : Bytes) : VfsPageCachePage :=
  { page with
    bytes := writeBytes page.bytes start bytes
    len := max page.len (start + bytes.length) }.touched

def truncated (oldLen len : Nat) : VfsPageCachePage :=
  { page with
    bytes := clearBytes page.bytes (min oldLen len) (max oldLen len - min oldLen len)
    len }.touched

/-- A page after its file was synced; it takes the length of the file. -/
def cleaned (fileLen : Nat) : VfsPageCachePage :=
  { page with
    dirty := false, pinned := false, writeback := false, writebackError := false
    len := fileLen }

def failed : VfsPageCachePage :=
  { page with dirty := true, pinned := false, writeback := false, writebackError := true }

end VfsPageCachePage

namespace VfsVertexFsFile

/-- Mark a changed file dirty and take its checksum anew. -/
def touched (file : VfsVertexFsFile) : VfsVertexFsFile :=
  { file with dirty := true, checksum := vertexFsChecksum32 file.content }

def written (file : VfsVertexFsFile) (start : Nat) (bytes : Bytes) : VfsVertexFsFile :=
  { file with
    bytes := writeBytes file.bytes start bytes
    len := max file.len (start + bytes.length) }.touched

def truncated (file : VfsVertexFsFile) (len : Nat) : VfsVertexFsFile :=
  { file with
    bytes := clearBytes file.bytes (min file.len len) (max file.len len - min file.len len)
    len }.touched

end VfsVertexFsFile

def writeVertexFsPageCache (mountId backing offset : Nat) (bytes : Bytes) :
    VertexFsCall (Nat × Nat) := do
  require .vfsNoSpace (offset + bytes.length ≤ maxVertexFsFileBytes)
  require .vfsBadHandle (backing < (← get).fileCount)
  if bytes = [] then return (0, offset)
  else
    let index ← ensureVertexFsPageCachePage mountId backing (offset / vertexFsSectorSize)
    ensureVertexFsPageCacheDirty index
    modify fun fs =>
      (fs.updatePage index fun page =>
        page.written (offset % vertexFsSectorSize) bytes).updateFile backing fun file =>
        file.written offset bytes
    return (bytes.length, offset + bytes.length)

def truncateVertexFsPageCache (mountId backing len : Nat) : VertexFsCall Unit := do
  require .vfsNoSpace (len ≤ maxVertexFsFileBytes)
  require .vfsBadHandle (backing < (← get).fileCount)
  let oldLen := ((← get).files backing).len
  if oldLen = len then return ()
  else
    let index ← ensureVertexFsPageCachePage mountId backing 0
    ensureVertexFsPageCacheDirty index
    modify fun fs =>
      (fs.updatePage index fun page => page.truncated oldLen len).updateFile backing fun file =>
        file.truncated len

namespace VertexFsState

variable (fs : VertexFsState)

def beginVertexFsPageCacheWriteback (backing : Nat) : VertexFsState :=
  fs.updatePagesOf backing fun page =>
    if page.dirty then { page with pinned := true, writeback := true } else page

def finishVertexFsPageCacheWriteback (backing : Nat) : VertexFsState :=
  fs.updatePagesOf backing fun page => page.cleaned (fs.files backing).len

def recordVertexFsPageCacheWritebackError (backing : Nat) : VertexFsState :=
  if fs.fileCount ≤ backing then fs
  else
    (fs.updateFile backing fun file => { file with dirty := true }).updatePagesOf backing
      VfsPageCachePage.failed

def invalidateVertexFsPageCache (backing : Nat) : VertexFsState :=
  fs.updatePagesOf backing fun _ => .empty

/-- Drop the count of the table to just behind the last file that a node names. -/
def trimFileCount (inUse : Nat → Bool) : Nat → Nat
  | 0 => 0
  | count + 1 => if inUse count then count + 1 else trimFileCount inUse count

def releaseVertexFsFile (inUse : Nat → Bool) (backing : Nat) :
    Except IpcError VertexFsState :=
  if maxVertexFsFiles ≤ backing ∨ inUse backing then .error .badCapability
  else
    .ok { (fs.invalidateVertexFsPageCache backing).updateFile backing fun _ => .empty with
      fileCount := trimFileCount inUse fs.fileCount }

def loadVertexFsImage (image : Image) : VertexFsState :=
  { fs with image, imageLoaded := true, pageCache := fun _ => .empty }

end VertexFsState

inductive VertexFsSyncResult where
  | cached (checksum : Nat)
  | journaled (inodeId checksum writeCount : Nat)
deriving DecidableEq, Repr

def finishVertexFsSyncFile (backing checksum : Nat) : VertexFsCall Unit := do
  require .vfsBadHandle (backing < (← get).fileCount)
  modify fun fs =>
    (fs.updateFile backing fun file =>
      { file with checksum, dirty := false }).finishVertexFsPageCacheWriteback backing

def prepareVertexFsSyncFile (backing : Nat) : VertexFsCall VertexFsSyncResult := do
  require .vfsBadHandle (backing < (← get).fileCount)
  modify fun fs => fs.beginVertexFsPageCacheWriteback backing
  let file := (← get).files backing
  let checksum := vertexFsChecksum32 file.content
  if file.inodeId = 0 then do
    finishVertexFsSyncFile backing checksum
    return .cached checksum
  else if (← get).imageLoaded = false then do
    modify fun fs => fs.recordVertexFsPageCacheWritebackError backing
    throw .vfsUnsupported
  else
    match ← attempt (commitVertexFsFileToImage file checksum) with
    | .ok writeCount => return .journaled file.inodeId checksum writeCount
    | .error error => do
      modify fun fs => fs.recordVertexFsPageCacheWritebackError backing
      throw error

end VertexOS
