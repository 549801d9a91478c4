import VertexOS.VfsFileSyscalls

/-!
# Listing a directory

`vfs_readdir` keeps no more than the number of entries that it has returned.  An entry that
goes away in front of it, or a new one there, moves all later entries by one place.
-/

namespace VertexOS

open ByteStrings SlotTables FailingCalls

inductive DirectoryChange where
  | create (name : VfsName) (parent : VfsNodeId) (kind : VfsNodeKind) (backing : VfsBacking)
      (mountSource : String)
  | remove (id : VfsNodeId)
  | detach (id : VfsNodeId)
  | rename (id newParent : VfsNodeId) (newName : VfsName)

namespace VfsState

/-- The tree after a change; one that is refused changes nothing. -/
def changeDirectory (vfs : VfsState) : DirectoryChange → VfsState
  | .create name parent kind backing mountSource =>
    ((vfs.addVfsNodeWithName name (some parent) kind backing mountSource).map
      Prod.snd).toOption.getD vfs
  | .remove id => vfs.orKeep (vfs.removeVfsNode id)
  | .detach id => vfs.orKeep ((vfs.detachVfsNode id).map Prod.snd)
  | .rename id newParent newName => vfs.orKeep ((vfs.renameVfsNode id newParent newName).map Prod.snd)

def childIds (vfs : VfsState) (directory : VfsNodeId) : List VfsNodeId :=
  (vfs.children directory).map VfsNode.id

/-- No two nodes have one number, and the next number is new. -/
structure Numbered (vfs : VfsState) : Prop where
  nodup : ((contents vfs.nodes).map VfsNode.id).Nodup
  fresh : ∀ id ∈ (contents vfs.nodes).map VfsNode.id, id.raw < vfs.nextNodeId

variable {vfs : VfsState}

theorem Numbered.childIds_nodup (numbered : vfs.Numbered) (directory : VfsNodeId) :
    (vfs.childIds directory).Nodup := by
  have distinct : (vfs.nodes.reduceOption.map VfsNode.id).Nodup := numbered.nodup
  exact distinct.sublist (List.filter_sublist.map _)

theorem Numbered.of_le (numbered : vfs.Numbered) {after : VfsState}
    (fewer : (contents after.nodes).map VfsNode.id ≤ (contents vfs.nodes).map VfsNode.id)
    (next : after.nextNodeId = vfs.nextNodeId) : after.Numbered :=
  ⟨Multiset.nodup_of_le fewer numbered.nodup,
    fun id member => next ▸ numbered.fresh id (Multiset.mem_of_le fewer member)⟩

theorem Numbered.changeVfsNode (numbered : vfs.Numbered) {id : VfsNodeId}
    {change : VfsNode → VfsNode} (kept : ∀ node, (change node).id = node.id) :
    (vfs.orKeep ((vfs.changeVfsNode id change).map Prod.snd)).Numbered := by
  unfold VfsState.changeVfsNode
  split
  · exact numbered
  · refine numbered.of_le (Eq.le ?_) rfl
    apply contents_map_updateFirst
    exact fun node => kept node

theorem Numbered.changeDirectory (numbered : vfs.Numbered) (change : DirectoryChange) :
    (vfs.changeDirectory change).Numbered := by
  cases change with
  | create name parent kind backing mountSource =>
    have added {nodes : Slots VfsNode} (holds : contents nodes = ⟨⟨vfs.nextNodeId⟩, name,
        some parent, kind, backing, mountSource, vfs.nextMetadataVersion⟩ ::ₘ contents vfs.nodes) :
        { vfs with
          nodes
          nextNodeId := vfs.nextNodeId + 1
          nextMetadataVersion := vfs.nextMetadataVersion + 1 }.Numbered := by
      constructor
      · rw [holds, Multiset.map_cons]
        refine Multiset.nodup_cons.mpr ⟨fun old => ?_, numbered.nodup⟩
        exact absurd (numbered.fresh _ old) (lt_irrefl _)
      · rw [holds, Multiset.map_cons]
        intro id member
        obtain rfl | old := Multiset.mem_cons.mp member
        · exact Nat.lt_succ_self _
        · exact (numbered.fresh id old).trans (Nat.lt_succ_self _)
    simp only [VfsState.changeDirectory, addVfsNodeWithName]
    split
    · exact added (contents_fillFirst ‹_›)
    split
    · refine added ?_
      rw [contents_append, add_comm]
      rfl
    · exact numbered
  | remove id =>
    simp only [VfsState.changeDirectory, removeVfsNode]
    split
    · exact numbered
    · refine numbered.of_le (Multiset.map_le_map ?_) rfl
      exact (contents_trimEmptyTail _).trans_le (contents_clearFirst_le ..)
  | detach id => exact numbered.changeVfsNode fun _ => rfl
  | rename id newParent newName => exact numbered.changeVfsNode fun _ => rfl

end VfsState

variable {machine : Machine} {handle destination maxLen count : Nat} {runtime after : RuntimeState}

/-- A call returns the entry behind those that the open file has seen, if there is one. -/
theorem vfsReaddir_ok
    (run : exec (vfsReaddir machine handle destination maxLen) runtime = (.ok count, after)) :
    ∃ description node, runtime.currentOpenFile handle = .ok (description, node) ∧
      match (runtime.vfs.children node.id)[description.offset]? with
      | none => count = 0 ∧ after = runtime
      | some child => count = vfsDirentBytes ∧ ∃ copied,
          runtime.copyToUser machine runtime.currentProcessId destination
            (vfsDirentRecord child) = some copied ∧
          after = copied.updateVfs fun vfs => vfs.updateDescription description.id fun file =>
            { file with offset := description.offset + 1 } := by
  unfold vfsReaddir openDirectory at run
  simp only [bind_assoc, exec_require_bind_ok, exec_get_bind, exec_fromExcept_bind_ok,
    pure_bind] at run
  obtain ⟨-, ⟨description, node⟩, opens, -, -, run⟩ := run
  refine ⟨description, node, opens, ?_⟩
  dsimp only at run
  cases here : (runtime.vfs.children node.id)[description.offset]? with
  | none =>
    rw [here] at run
    obtain ⟨isZero, same⟩ := exec_pure_ok.mp run
    exact ⟨isZero.symm, same.symm⟩
  | some child =>
    rw [here] at run
    unfold copyOut setOffset at run
    simp only [bind_assoc, exec_get_bind, exec_fromOption_bind_ok, exec_set_bind,
      exec_require_bind_ok, exec_modify_bind, exec_pure_ok] at run
    obtain ⟨copied, isCopied, -, isCount, isAfter⟩ := run
    exact ⟨isCount.symm, copied, isCopied, isAfter.symm⟩

structure Listing where
  vfs : VfsState
  offset : Nat
  returned : List VfsNodeId

inductive ListingEvent where
  | read
  | change (change : DirectoryChange)

namespace Listing

variable {directory : VfsNodeId}

def next (directory : VfsNodeId) (listing : Listing) : Option VfsNode :=
  (listing.vfs.children directory)[listing.offset]?

def step (directory : VfsNodeId) (listing : Listing) : ListingEvent → Listing
  | .read =>
    match listing.next directory with
    | none => listing
    | some child =>
      { listing with offset := listing.offset + 1, returned := listing.returned ++ [child.id] }
  | .change change => { listing with vfs := listing.vfs.changeDirectory change }

def run (directory : VfsNodeId) (listing : Listing) (events : List ListingEvent) : Listing :=
  events.foldl (step directory) listing

/-- A change leaves the entries that were returned in their places. -/
def Spares (directory : VfsNodeId) (listing : Listing) : ListingEvent → Prop
  | .read => True
  | .change change => ((listing.vfs.changeDirectory change).childIds directory).take
      listing.offset = (listing.vfs.childIds directory).take listing.offset

def SparesAlong (directory : VfsNodeId) (listing : Listing) : List ListingEvent → Prop
  | [] => True
  | event :: rest =>
    listing.Spares directory event ∧ (listing.step directory event).SparesAlong directory rest

/-- The returned entries are the first ones of the directory. -/
structure Sound (directory : VfsNodeId) (listing : Listing) : Prop where
  numbered : listing.vfs.Numbered
  returned : listing.returned = (listing.vfs.childIds directory).take listing.offset

theorem Sound.step {listing : Listing} (sound : listing.Sound directory) {event : ListingEvent}
    (spares : listing.Spares directory event) : (listing.step directory event).Sound directory := by
  cases event with
  | read =>
    simp only [Listing.step]
    split
    · exact sound
    rename_i child found
    refine ⟨sound.numbered, ?_⟩
    have entry : (listing.vfs.childIds directory)[listing.offset]? = some child.id := by
      rw [VfsState.childIds, List.getElem?_map, show (listing.vfs.children directory)[_]? = _
        from found]
      rfl
    rw [List.take_add_one, entry, sound.returned]
    rfl
  | change change => exact ⟨sound.numbered.changeDirectory change, sound.returned.trans spares.symm⟩

theorem Sound.run {listing : Listing} (sound : listing.Sound directory)
    {events : List ListingEvent} (spares : listing.SparesAlong directory events) :
    (listing.run directory events).Sound directory := by
  induction events generalizing listing with
  | nil => exact sound
  | cons event rest ih => exact ih (sound.step spares.1) spares.2

theorem Sound.count_eq_one {listing : Listing} (sound : listing.Sound directory)
    (ended : listing.next directory = none) {child : VfsNodeId}
    (present : child ∈ listing.vfs.childIds directory) : listing.returned.count child = 1 := by
  have all : (listing.vfs.childIds directory).length ≤ listing.offset := by
    rw [VfsState.childIds, List.length_map]
    exact List.getElem?_eq_none_iff.mp ended
  rw [sound.returned, List.take_of_length_le all]
  exact List.count_eq_one_of_mem (sound.numbered.childIds_nodup directory) present

end Listing

def Listing.start (history : List DirectoryChange) : Listing :=
  ⟨history.foldl VfsState.changeDirectory .empty, 0, []⟩

theorem numbered_history (history : List DirectoryChange) :
    (Listing.start history).vfs.Numbered := by
  have from' : ∀ vfs : VfsState, vfs.Numbered →
      (history.foldl VfsState.changeDirectory vfs).Numbered := by
    induction history with
    | nil => exact fun vfs numbered => numbered
    | cons change rest ih => exact fun vfs numbered => ih _ (numbered.changeDirectory change)
  exact from' _ ⟨Multiset.nodup_zero, nofun⟩

/-- An entry that is there all the time is returned exactly once, where no change moves the
entries that were returned before it. -/
theorem listed_once_of_spares (history : List DirectoryChange) (directory : VfsNodeId)
    {events : List ListingEvent} (spares : (Listing.start history).SparesAlong directory events)
    (ended : ((Listing.start history).run directory events).next directory = none)
    {child : VfsNodeId}
    (present : ∀ earlier ∈ events.inits,
      child ∈ ((Listing.start history).run directory earlier).vfs.childIds directory) :
    ((Listing.start history).run directory events).returned.count child = 1 := by
  have sound : (Listing.start history).Sound directory := ⟨numbered_history history, rfl⟩
  exact (sound.run spares).count_eq_one ended (present events (by simp))

def threeFiles : List DirectoryChange :=
  let top : VfsNodeId := ⟨Nat.succPNat 0⟩
  [.create ⟨utf8 "d", by decide⟩ ⟨Nat.succPNat 8⟩ .directory .none "root",
    .create .empty top .regularFile (.memoryFile 0) "root",
    .create ⟨utf8 "b", by decide⟩ top .regularFile (.memoryFile 1) "root",
    .create ⟨utf8 "c", by decide⟩ top .regularFile (.memoryFile 2) "root"]

/-- The last entry goes away after the first one was returned. -/
theorem listed_once_of_spares_threeFiles :
    ((Listing.start threeFiles).run ⟨1⟩
      [.read, .change (.remove ⟨4⟩), .read]).returned.count ⟨3⟩ = 1 := by
  have spares : (Listing.start threeFiles).SparesAlong ⟨1⟩ [.read, .change (.remove ⟨4⟩), .read] :=
    ⟨trivial, show _ = _ by decide, trivial, trivial⟩
  exact listed_once_of_spares threeFiles ⟨1⟩ spares (by decide) (by decide)

/-- The first entry goes away after it was returned, and the second one is left out. -/
theorem exists_entry_left_out : let events := [.read, .change (.remove ⟨2⟩), .read]
    (∀ earlier ∈ events.inits,
        ⟨3⟩ ∈ ((Listing.start threeFiles).run ⟨1⟩ earlier).vfs.childIds ⟨1⟩) ∧
      ((Listing.start threeFiles).run ⟨1⟩ events).next ⟨1⟩ = none ∧
      ((Listing.start threeFiles).run ⟨1⟩ events).returned = [⟨2⟩, ⟨4⟩] := by
  decide

end VertexOS
