import Mathlib
import VertexOS.FailingCalls
import VertexOS.PageFrames

/-!
# The allocator of physical frames

A frame is above the cursor of its range, where it was never handed out; in the
ledger of allocated frames; or on the stack of frames that were given back.  Every
operation moves frames from one place to another.
-/

namespace VertexOS

open FailingCalls

def maxRanges : Nat := 64
def freeStackCapacity : Nat := 8192
def maxFrameRecords : Nat := 16384

structure PhysicalFrame where
  start : Nat
deriving DecidableEq, Repr

def frameBlock (start count : Nat) : List PhysicalFrame :=
  (List.range count).map fun index => ⟨start + index * frameSize⟩

/-- A usable range, of whole frames, with the first one that was never handed out. -/
structure FrameRange where
  start : Nat
  next : Nat
  endAddress : Nat
  start_le : start ≤ next
  next_le : next ≤ endAddress
  start_aligned : frameSize ∣ start
  next_aligned : frameSize ∣ next
  end_aligned : frameSize ∣ endAddress
deriving DecidableEq

namespace FrameRange

variable (range : FrameRange)

def frameCount : Nat := (range.endAddress - range.start) / frameSize

def contains (frame : PhysicalFrame) : Bool :=
  frame.start + frameSize < 2 ^ 64 ∧ range.start ≤ frame.start ∧
    frame.start + frameSize ≤ range.endAddress

def take (count : Nat)
    (fits : range.next + count * frameSize ≤ range.endAddress) : FrameRange :=
  { range with
    next := range.next + count * frameSize
    start_le := range.start_le.trans (Nat.le_add_right ..)
    next_le := fits
    next_aligned := range.next_aligned.add (Nat.dvd_mul_left ..) }

def frames : List PhysicalFrame :=
  frameBlock range.start range.frameCount

def unallocated : List PhysicalFrame :=
  frameBlock range.next ((range.endAddress - range.next) / frameSize)

theorem fits_one (range : FrameRange) (left : range.next < range.endAddress) :
    range.next + 1 * frameSize ≤ range.endAddress := by
  obtain ⟨first, same⟩ := range.next_aligned
  obtain ⟨last, sameEnd⟩ := range.end_aligned
  rw [same, sameEnd] at left ⊢
  have : first < last := Nat.lt_of_mul_lt_mul_left left
  unfold frameSize
  omega

end FrameRange

open FrameRange

inductive FrameOwnerKind where
  | kernel
  | pageTable
  | processMemory
  | dma
  | scratch
deriving DecidableEq, Repr

structure FrameOwner where
  kind : FrameOwnerKind
  id : Nat
deriving DecidableEq, Repr

structure FrameRecord where
  frame : PhysicalFrame
  owner : FrameOwner
deriving DecidableEq, Repr

inductive FrameInitError where
  | tooManyRanges
  | noUsableFrames
deriving DecidableEq, Repr

inductive FreeError where
  | unalignedFrame
  | outsideUsableRanges
  | freeStackFull
  | unallocatedFrame
  | wrongOwner
deriving DecidableEq, Repr

/-- The state of the allocator.  The top of the stack comes first. -/
structure FrameAllocator where
  ranges : List FrameRange
  nextRange : Nat
  freeStack : List PhysicalFrame
  totalFrames : Nat
  allocatedFrames : Nat
  reclaimedFrames : Nat
  highWaterFrames : Nat
  failedAllocations : Nat
  records : List FrameRecord
deriving DecidableEq

structure MemmapEntry where
  base : Nat
  length : Nat
  entryType : Nat
deriving DecidableEq, Repr

def memmapUsable : Nat := 0

def saturatingAdd (left right : Nat) : Nat := min (left + right) (2 ^ 64 - 1)

def alignUp (value : Nat) : Nat := saturatingAdd value (frameSize - 1) / frameSize * frameSize

namespace FrameRange

def new (start endAddress : Nat) (ordered : start ≤ endAddress) (aligned : frameSize ∣ start)
    (endAligned : frameSize ∣ endAddress) : FrameRange :=
  ⟨start, start, endAddress, le_rfl, ordered, aligned, aligned, endAligned⟩

def ofEntry (entry : MemmapEntry) : Option FrameRange :=
  if some' : alignUp entry.base < alignDown (saturatingAdd entry.base entry.length) then
    some (.new _ _ some'.le (Nat.dvd_mul_left ..) (Nat.dvd_mul_left ..))
  else none

end FrameRange

namespace FrameAllocator

def new : FrameAllocator := ⟨[], 0, [], 0, 0, 0, 0, 0, []⟩

def addRange (allocator : FrameAllocator) (range : FrameRange) : FrameAllocator :=
  { allocator with
    ranges := allocator.ranges ++ [range]
    totalFrames := allocator.totalFrames + range.frameCount }

end FrameAllocator

/-- Take the frames of an entry of the memory map in; entries may be missing. -/
def addUsableEntry (entry : Option MemmapEntry) : Call FrameInitError FrameAllocator Unit :=
  match (entry.filter fun entry => entry.entryType = memmapUsable).bind ofEntry with
  | none => pure ()
  | some range => do
    require .tooManyRanges ((← get).ranges.length ≠ maxRanges)
    modify fun allocator => allocator.addRange range

def initFromLimine (memoryMap : List (Option MemmapEntry)) :
    Call FrameInitError FrameAllocator Unit := do
  set FrameAllocator.new
  inTurn addUsableEntry memoryMap
  require .noUsableFrames ((← get).totalFrames ≠ 0)

/-- The search goes on to the next range, takes frames of this one, or gives up
because the address behind them does not exist. -/
inductive Room where
  | full
  | taken (range : FrameRange)
  | overflow

namespace FrameRange

def roomForOne (range : FrameRange) : Room :=
  if left : range.next < range.endAddress then .taken (range.take 1 (range.fits_one left))
  else .full

def roomFor (count : Nat) (range : FrameRange) : Room :=
  if 2 ^ 64 ≤ count * frameSize ∨ 2 ^ 64 ≤ range.next + count * frameSize then .overflow
  else if fits : range.next + count * frameSize ≤ range.endAddress then
    .taken (range.take count fits)
  else .full

end FrameRange

/-- The range the search ended at, and if it found room, that range before and
after. -/
def seekRoom (room : FrameRange → Room) :
    Nat → List FrameRange → Nat × Option (FrameRange × FrameRange)
  | index, [] => (index, none)
  | index, range :: rest =>
    match room range with
    | .full => seekRoom room (index + 1) rest
    | .taken taken => (index, some (range, taken))
    | .overflow => (index, none)

namespace FrameAllocator

variable (allocator : FrameAllocator)

def recordAllocated (owner : FrameOwner)
    (frames : List PhysicalFrame) : FrameAllocator :=
  { allocator with records := allocator.records ++ frames.map fun frame => ⟨frame, owner⟩ }

def countAllocated (count : Nat) : FrameAllocator :=
  { allocator with
    allocatedFrames := allocator.allocatedFrames + count
    highWaterFrames := max allocator.highWaterFrames (allocator.allocatedFrames + count) }

def failAllocation : Option PhysicalFrame × FrameAllocator :=
  (none, { allocator with failedAllocations := saturatingAdd allocator.failedAllocations 1 })

def allocateFromRanges (room : FrameRange → Room) (count : Nat)
    (owner : FrameOwner) : Option PhysicalFrame × FrameAllocator :=
  let (index, found) :=
    seekRoom room allocator.nextRange (allocator.ranges.drop allocator.nextRange)
  let sought := { allocator with nextRange := index }
  match found with
  | none => sought.failAllocation
  | some (range, taken) =>
    (some ⟨range.next⟩,
      ({ sought with ranges := sought.ranges.set index taken }.recordAllocated owner
        (frameBlock range.next count)).countAllocated count)

def allocateOwned (owner : FrameOwner) :
    Option PhysicalFrame × FrameAllocator :=
  if allocator.records.length = maxFrameRecords then allocator.failAllocation
  else
    match allocator.freeStack with
    | frame :: rest =>
      (some frame,
        ({ allocator with freeStack := rest }.recordAllocated owner [frame]).countAllocated 1)
    | [] => allocator.allocateFromRanges roomForOne 1 owner

/-- A block of frames comes from the ranges only, never from the stack. -/
def allocateContiguousOwned (frameCount : Nat)
    (owner : FrameOwner) : Option PhysicalFrame × FrameAllocator :=
  if frameCount = 0 then allocator.failAllocation
  else if maxFrameRecords - allocator.records.length < frameCount then allocator.failAllocation
  else allocator.allocateFromRanges (roomFor frameCount) frameCount owner

def contains (allocator : FrameAllocator) (frame : PhysicalFrame) : Bool :=
  allocator.ranges.any fun range => range.contains frame

def recordIndex (frame : PhysicalFrame) : Option Nat :=
  allocator.records.findIdx? fun record => record.frame.start = frame.start

end FrameAllocator

def swapRemove {α : Type} (list : List α) (index : Nat) : List α :=
  match list.getLast? with
  | none => []
  | some last => (list.set index last).dropLast

def FrameAllocator.release (allocator : FrameAllocator) (frame : PhysicalFrame) (index : Nat) :
    FrameAllocator :=
  { allocator with
    freeStack := frame :: allocator.freeStack
    records := swapRemove allocator.records index
    allocatedFrames := allocator.allocatedFrames - 1
    reclaimedFrames := saturatingAdd allocator.reclaimedFrames 1 }

/-- The record of a frame that may be changed: a frame of the ranges that is allocated. -/
def frameRecord (frame : PhysicalFrame) : Call FreeError FrameAllocator Nat := do
  let allocator ← get
  require .unalignedFrame (frame.start % frameSize = 0)
  require .outsideUsableRanges (allocator.contains frame = true)
  fromOption .unallocatedFrame (allocator.recordIndex frame)

def freeWithOwner (frame : PhysicalFrame) (expectedOwner : Option FrameOwner) :
    Call FreeError FrameAllocator Unit := do
  let index ← frameRecord frame
  let allocator ← get
  require .wrongOwner (expectedOwner.all fun owner =>
    allocator.records[index]?.any fun record => record.owner = owner)
  require .freeStackFull (allocator.freeStack.length ≠ freeStackCapacity)
  set (allocator.release frame index)

def free (frame : PhysicalFrame) : Call FreeError FrameAllocator Unit :=
  freeWithOwner frame none

def freeOwned (frame : PhysicalFrame) (expectedOwner : FrameOwner) :
    Call FreeError FrameAllocator Unit :=
  freeWithOwner frame (some expectedOwner)

def setOwner (frame : PhysicalFrame) (owner : FrameOwner) :
    Call FreeError FrameAllocator Unit := do
  let index ← frameRecord frame
  modify fun allocator => { allocator with
    records := allocator.records.modify index fun record => { record with owner } }

section

variable {α β : Type} {list : List α}

theorem perm_swapRemove {index : Nat} {taken : α} (found : list[index]? = some taken) :
    list.Perm (taken :: swapRemove list index) := by
  obtain ⟨inside, rfl⟩ := List.getElem?_eq_some_iff.mp found
  obtain ⟨last, isLast⟩ : ∃ last, list.getLast? = some last :=
    Option.isSome_iff_exists.mp (by
      rw [List.getLast?_isSome]
      exact List.ne_nil_of_length_pos (by omega))
  have stillLast : (list.set index last).getLast? = some last := by
    rw [List.getLast?_eq_getElem?] at isLast ⊢
    rw [List.length_set, List.getElem?_set]
    split
    · rfl
    · exact isLast
  have moved : (swapRemove list index ++ [last]).Perm (last :: list.eraseIdx index) := by
    rw [swapRemove, isLast]
    exact (List.dropLast_append_getLast? last stillLast).symm ▸
      List.set_perm_cons_eraseIdx inside last
  have rest : (swapRemove list index).Perm (list.eraseIdx index) :=
    (List.perm_cons _).mp ((List.perm_append_singleton ..).symm.trans moved)
  exact (List.getElem_cons_eraseIdx_perm inside).symm.trans (rest.symm.cons _)

theorem perm_flatMap_set {index : Nat} {old new : α} {block : List β} {parts : α → List β}
    (found : list[index]? = some old) (split : parts old = block ++ parts new) :
    (list.flatMap parts).Perm (block ++ (list.set index new).flatMap parts) := by
  induction list generalizing index with
  | nil => simp at found
  | cons first rest ih =>
    cases index with
    | zero =>
      obtain rfl : first = old := by simpa using found
      simp [split]
    | succ index =>
      have inRest := (ih (by simpa using found)).append_left (parts first)
      simp only [List.set_cons_succ, List.flatMap_cons]
      exact inRest.trans ((List.perm_append_comm_assoc ..))

theorem flatMap_set_same {index : Nat} {old new : α} {parts : α → List β}
    (found : list[index]? = some old) (same : parts new = parts old) :
    (list.set index new).flatMap parts = list.flatMap parts := by
  obtain ⟨inside, rfl⟩ := List.getElem?_eq_some_iff.mp found
  have kept : (list.map parts).set index (parts new) = list.map parts := by
    rw [same, ← List.getElem_map parts (h := by simpa using inside), List.set_getElem_self]
  rw [List.flatMap_def, List.flatMap_def, List.map_set, kept]

end

theorem frameBlock_add (start count more : Nat) :
    frameBlock start (count + more) =
      frameBlock start count ++ frameBlock (start + count * frameSize) more := by
  simp [frameBlock, List.range_add, add_mul, add_assoc]

theorem nodup_frameBlock (start count : Nat) : (frameBlock start count).Nodup := by
  refine List.Nodup.map (fun left right same => ?_) List.nodup_range
  simp only [PhysicalFrame.mk.injEq, frameSize] at same
  omega

variable {range : FrameRange} {ranges : List FrameRange} {frame : PhysicalFrame}
  {before initial : FrameAllocator}

theorem mem_frameBlock {start count : Nat} :
    frame ∈ frameBlock start count ↔ ∃ index < count, frame.start = start + index * frameSize := by
  constructor
  · intro member
    obtain ⟨index, inside, rfl⟩ := List.mem_map.mp member
    exact ⟨index, List.mem_range.mp inside, rfl⟩
  · rintro ⟨index, inside, same⟩
    exact List.mem_map.mpr ⟨index, List.mem_range.mpr inside, by rw [← same]⟩

namespace FrameRange

theorem unallocated_take (range : FrameRange) (count : Nat)
    (fits : range.next + count * frameSize ≤ range.endAddress) :
    range.unallocated = frameBlock range.next count ++ (range.take count fits).unallocated := by
  have size : 0 < frameSize := by decide
  have count_eq : (range.endAddress - range.next) / frameSize =
      count + (range.endAddress - (range.next + count * frameSize)) / frameSize := by
    rw [← Nat.add_mul_div_right _ _ size |>.trans (Nat.add_comm ..)]
    congr 1
    omega
  rw [unallocated, count_eq, frameBlock_add]
  rfl

theorem taken_of_roomForOne {range taken : FrameRange} (room : range.roomForOne = .taken taken) :
    range.unallocated = frameBlock range.next 1 ++ taken.unallocated ∧
      taken.frames = range.frames := by
  unfold roomForOne at room
  split at room
  · cases room
    exact ⟨range.unallocated_take 1 _, rfl⟩
  · cases room

theorem taken_of_roomFor {range taken : FrameRange} {count : Nat}
    (room : range.roomFor count = .taken taken) :
    range.unallocated = frameBlock range.next count ++ taken.unallocated ∧
      taken.frames = range.frames := by
  unfold roomFor at room
  split at room
  · cases room
  · split at room
    · cases room
      exact ⟨range.unallocated_take count _, rfl⟩
    · cases room

end FrameRange

theorem seekRoom_found {room : FrameRange → Room} {start index : Nat}
    {range taken : FrameRange} (sought : seekRoom room start ranges = (index, some (range, taken))) :
    start ≤ index ∧ ranges[index - start]? = some range ∧ room range = .taken taken := by
  induction ranges generalizing start with
  | nil => cases sought
  | cons first rest ih =>
    unfold seekRoom at sought
    split at sought
    · obtain ⟨later, found, taken⟩ := ih sought
      refine ⟨by omega, ?_, taken⟩
      rw [show index - start = index - (start + 1) + 1 by omega]
      simpa using found
    · cases sought
      exact ⟨le_rfl, by simp, ‹_›⟩
    · cases sought

namespace FrameAllocator

variable (allocator : FrameAllocator)

def ledgerFrames : List PhysicalFrame :=
  allocator.records.map FrameRecord.frame

def unallocatedFrames : List PhysicalFrame :=
  allocator.ranges.flatMap unallocated

def allFrames : List PhysicalFrame :=
  allocator.ranges.flatMap frames

/-- The three places together hold the frames of the ranges, each of them once. -/
structure Sound (allocator : FrameAllocator) : Prop where
  accounts : (allocator.ledgerFrames ++ allocator.freeStack ++ allocator.unallocatedFrames).Perm
    allocator.allFrames
  nodup : allocator.allFrames.Nodup

/-- A step moves frames between the three places and changes nothing else about them. -/
structure Moves (allocator after : FrameAllocator) : Prop where
  allFrames : after.allFrames = allocator.allFrames
  places : (after.ledgerFrames ++ after.freeStack ++ after.unallocatedFrames).Perm
    (allocator.ledgerFrames ++ allocator.freeStack ++ allocator.unallocatedFrames)

/-- What a step does with the frames: it moves `taken` from the stack or the ranges to
the ledger, and nothing else. -/
structure Hands (allocator after : FrameAllocator) (taken : List PhysicalFrame) : Prop where
  allFrames : after.allFrames = allocator.allFrames
  ledger : after.ledgerFrames = allocator.ledgerFrames ++ taken
  rest : (allocator.freeStack ++ allocator.unallocatedFrames).Perm
    (taken ++ (after.freeStack ++ after.unallocatedFrames))

variable {allocator after : FrameAllocator} {taken : List PhysicalFrame}

theorem Moves.sound (moves : Moves allocator after) (sound : allocator.Sound) : after.Sound :=
  ⟨moves.allFrames ▸ moves.places.trans sound.accounts, moves.allFrames ▸ sound.nodup⟩

theorem Hands.moves (hands : Hands allocator after taken) : Moves allocator after where
  allFrames := hands.allFrames
  places := by
    rw [hands.ledger]
    simp only [List.append_assoc]
    exact hands.rest.symm.append_left _

theorem Hands.fresh (hands : Hands allocator after taken) (sound : allocator.Sound)
    {frame : PhysicalFrame} (handed : frame ∈ taken) : frame ∉ allocator.ledgerFrames := by
  intro listed
  have nodup := (sound.accounts.nodup_iff.mpr sound.nodup)
  rw [List.append_assoc] at nodup
  exact List.disjoint_of_nodup_append nodup listed
    (hands.rest.mem_iff.mpr (List.mem_append_left _ handed))

theorem hands_failAllocation (allocator : FrameAllocator) :
    Hands allocator allocator.failAllocation.2 [] :=
  ⟨rfl, by simp [failAllocation, ledgerFrames], .refl _⟩

/-- The outcome of an allocation: the frames from the one it returns on, if it does. -/
def handedOut (outcome : Option PhysicalFrame) (count : Nat) : List PhysicalFrame :=
  outcome.elim [] fun frame => frameBlock frame.start count

theorem hands_allocateFromRanges (allocator : FrameAllocator) (owner : FrameOwner) {count : Nat}
    {room : FrameRange → Room}
    (takes : ∀ range taken, room range = .taken taken →
      range.unallocated = frameBlock range.next count ++ taken.unallocated ∧
        taken.frames = range.frames) :
    Hands allocator (allocator.allocateFromRanges room count owner).2
      (handedOut (allocator.allocateFromRanges room count owner).1 count) := by
  unfold allocateFromRanges
  rcases sought : seekRoom room allocator.nextRange
    (allocator.ranges.drop allocator.nextRange) with ⟨index, _ | ⟨range, taken⟩⟩
  · exact ⟨rfl, by simp [failAllocation, ledgerFrames, handedOut], .refl _⟩
  · obtain ⟨later, found, hasRoom⟩ := seekRoom_found sought
    obtain ⟨unallocated, frames⟩ := takes range taken hasRoom
    rw [List.getElem?_drop, Nat.add_sub_cancel' later] at found
    refine ⟨flatMap_set_same found frames, ?_, ?_⟩
    · simp [ledgerFrames, recordAllocated, countAllocated, handedOut, Function.comp_def]
    · exact ((perm_flatMap_set found unallocated).append_left _).trans
        (List.perm_append_comm_assoc ..)

theorem hands_allocateOwned (allocator : FrameAllocator) (owner : FrameOwner) :
    Hands allocator (allocator.allocateOwned owner).2
      (handedOut (allocator.allocateOwned owner).1 1) := by
  unfold allocateOwned
  split
  · exact allocator.hands_failAllocation
  split
  · rename_i frame rest stack
    refine ⟨rfl, by simp [ledgerFrames, recordAllocated, countAllocated, handedOut, frameBlock], ?_⟩
    rw [stack]
    exact .refl _
  · exact allocator.hands_allocateFromRanges owner fun _ _ => taken_of_roomForOne

theorem hands_allocateContiguousOwned (allocator : FrameAllocator) (frameCount : Nat)
    (owner : FrameOwner) :
    Hands allocator (allocator.allocateContiguousOwned frameCount owner).2
      (handedOut (allocator.allocateContiguousOwned frameCount owner).1 frameCount) := by
  unfold allocateContiguousOwned
  split
  · exact allocator.hands_failAllocation
  · split
    · exact allocator.hands_failAllocation
    · exact allocator.hands_allocateFromRanges owner fun _ _ => taken_of_roomFor

theorem moves_release {frame : PhysicalFrame} {index : Nat}
    (found : allocator.recordIndex frame = some index) :
    Moves allocator (allocator.release frame index) := by
  obtain ⟨inside, isFrame, _⟩ := List.findIdx?_eq_some_iff_getElem.mp found
  have same : allocator.records[index].frame = frame := by
    cases recorded : allocator.records[index].frame
    cases frame
    simpa [recorded] using isFrame
  have moved := (perm_swapRemove (List.getElem?_eq_getElem inside)).map FrameRecord.frame
  rw [List.map_cons, same] at moved
  refine ⟨rfl, List.Perm.append_right _ ?_⟩
  exact List.perm_middle.trans (moved.symm.append_right _)

instance : IsTrans FrameAllocator Moves :=
  ⟨fun _ _ _ first second =>
    ⟨second.allFrames.trans first.allFrames, second.places.trans first.places⟩⟩

instance : Std.Refl Moves := ⟨fun _ => ⟨rfl, .refl _⟩⟩

end FrameAllocator

open FrameAllocator (Moves)

theorem exec_frameRecord (frame : PhysicalFrame) (allocator : FrameAllocator) :
    (exec (frameRecord frame) allocator).2 = allocator := by
  have reads : Always Eq (frameRecord frame) :=
    .bind .get fun _ => .bind (.require ..) fun _ => .bind (.require ..) fun _ => .fromOption ..
  exact (reads.evolves allocator).symm

theorem recordIndex_of_frameRecord {allocator after : FrameAllocator}
    {index : Nat} (ended : exec (frameRecord frame) allocator = (.ok index, after)) :
    allocator.recordIndex frame = some index := by
  unfold frameRecord at ended
  rw [exec_get_bind, exec_require_bind_ok, exec_require_bind_ok] at ended
  obtain ⟨_, _, ended⟩ := ended
  cases found : allocator.recordIndex frame with
  | none => simp [found] at ended
  | some place => simpa [found] using congrArg Prod.fst ended

theorem exec_freeWithOwner (frame : PhysicalFrame) (expectedOwner : Option FrameOwner)
    (allocator : FrameAllocator) :
    (∃ index, allocator.recordIndex frame = some index ∧
      exec (freeWithOwner frame expectedOwner) allocator =
        (.ok (), allocator.release frame index)) ∨
      ∃ error, exec (freeWithOwner frame expectedOwner) allocator = (.error error, allocator) := by
  have unchanged := exec_frameRecord frame allocator
  unfold freeWithOwner
  rw [exec_bind]
  rcases ended : exec (frameRecord frame) allocator with ⟨error | index, after⟩
  · rw [ended] at unchanged
    exact .inr ⟨error, by rw [← unchanged]⟩
  · have found := recordIndex_of_frameRecord ended
    rw [ended] at unchanged
    subst unchanged
    dsimp only
    rw [exec_get_bind, exec_require_bind, exec_require_bind, exec_set]
    split
    · split
      · exact .inl ⟨index, found, rfl⟩
      · exact .inr ⟨_, rfl⟩
    · exact .inr ⟨_, rfl⟩

theorem moves_freeWithOwner (frame : PhysicalFrame) (expectedOwner : Option FrameOwner) :
    Always Moves (freeWithOwner frame expectedOwner) := by
  refine ⟨fun allocator => ?_⟩
  rcases exec_freeWithOwner frame expectedOwner allocator with ⟨index, found, ended⟩ | ⟨_, ended⟩
  · rw [Evolves, ended]
    exact FrameAllocator.moves_release found
  · rw [Evolves, ended]
    exact Std.Refl.refl _

theorem moves_setOwner (frame : PhysicalFrame) (owner : FrameOwner) :
    Always Moves (setOwner frame owner) := by
  refine .bind ⟨fun allocator => ?_⟩ fun index => .modify fun allocator => ?_
  · rw [Evolves, exec_frameRecord]
    exact Std.Refl.refl _
  · have ledger : (allocator.records.modify index fun record => { record with owner }).map
        FrameRecord.frame = allocator.records.map FrameRecord.frame := by
      refine List.ext_getElem (by simp) fun place _ _ => ?_
      simp only [List.getElem_map, List.getElem_modify]
      split <;> rfl
    refine ⟨rfl, ?_⟩
    rw [FrameAllocator.ledgerFrames, ledger]
    exact .refl _

inductive FrameOp where
  | allocateOwned (owner : FrameOwner)
  | allocateContiguousOwned (frameCount : Nat) (owner : FrameOwner)
  | free (frame : PhysicalFrame)
  | freeOwned (frame : PhysicalFrame) (expectedOwner : FrameOwner)
  | setOwner (frame : PhysicalFrame) (owner : FrameOwner)
deriving DecidableEq

namespace FrameAllocator

def perform (allocator : FrameAllocator) : FrameOp → FrameAllocator
  | .allocateOwned owner => (allocator.allocateOwned owner).2
  | .allocateContiguousOwned frameCount owner =>
    (allocator.allocateContiguousOwned frameCount owner).2
  | .free frame => (exec (VertexOS.free frame) allocator).2
  | .freeOwned frame expectedOwner => (exec (VertexOS.freeOwned frame expectedOwner) allocator).2
  | .setOwner frame owner => (exec (VertexOS.setOwner frame owner) allocator).2

def run (allocator : FrameAllocator) (ops : List FrameOp) : FrameAllocator :=
  ops.foldl perform allocator

theorem moves_perform (allocator : FrameAllocator) (op : FrameOp) :
    Moves allocator (allocator.perform op) := by
  cases op with
  | allocateOwned owner => exact (allocator.hands_allocateOwned owner).moves
  | allocateContiguousOwned frameCount owner =>
    exact (allocator.hands_allocateContiguousOwned frameCount owner).moves
  | free frame => exact (moves_freeWithOwner frame none).evolves allocator
  | freeOwned frame expectedOwner =>
    exact (moves_freeWithOwner frame (some expectedOwner)).evolves allocator
  | setOwner frame owner => exact (moves_setOwner frame owner).evolves allocator

theorem moves_run (allocator : FrameAllocator) (ops : List FrameOp) :
    Moves allocator (allocator.run ops) := by
  induction ops generalizing allocator with
  | nil => exact Std.Refl.refl _
  | cons op rest ih => exact IsTrans.trans _ _ _ (moves_perform allocator op) (ih _)

end FrameAllocator

def usableEntries (memoryMap : List (Option MemmapEntry)) : List MemmapEntry :=
  memoryMap.filterMap (Option.filter fun entry => entry.entryType = memmapUsable)

def MemmapEntry.addresses (entry : MemmapEntry) : Set Nat :=
  Set.Ico entry.base (entry.base + entry.length)

def UsableDisjoint (memoryMap : List (Option MemmapEntry)) : Prop :=
  (usableEntries memoryMap).Pairwise fun left right => Disjoint left.addresses right.addresses

theorem FrameRange.mem_addresses {entry : MemmapEntry} (made : ofEntry entry = some range)
    (member : frame ∈ range.frames) : frame.start ∈ entry.addresses := by
  unfold ofEntry at made
  split at made
  · rename_i ordered
    cases made
    obtain ⟨index, inside, same⟩ := mem_frameBlock.mp member
    have below : (index + 1) * frameSize ≤
        alignDown (saturatingAdd entry.base entry.length) - alignUp entry.base :=
      (Nat.le_div_iff_mul_le (by decide)).mp inside
    have up : entry.base ≤ alignUp entry.base := by
      unfold alignUp alignDown saturatingAdd frameSize at *
      omega
    have down : alignDown (saturatingAdd entry.base entry.length) ≤ entry.base + entry.length := by
      unfold alignDown saturatingAdd frameSize
      omega
    simp only [new] at same
    unfold frameSize at same below
    exact ⟨by omega, by omega⟩
  · cases made

theorem exec_addUsableEntry_ok {entry : Option MemmapEntry} {before after : FrameAllocator}
    (ended : exec (addUsableEntry entry) before = (.ok (), after)) :
    after.ranges = before.ranges ++
        ((entry.filter fun entry => entry.entryType = memmapUsable).bind ofEntry).toList ∧
      after.records = before.records ∧ after.freeStack = before.freeStack ∧
      after.nextRange = before.nextRange := by
  unfold addUsableEntry at ended
  split at ended
  · rename_i nothing
    obtain ⟨_, rfl⟩ := exec_pure_ok.mp ended
    simp [nothing]
  · rename_i range made
    rw [exec_get_bind, exec_require_bind_ok, exec_modify] at ended
    obtain ⟨_, ended⟩ := ended
    cases ended
    simp [made, FrameAllocator.addRange]

variable {memoryMap : List (Option MemmapEntry)}

theorem exec_addUsableEntries_ok {before after : FrameAllocator}
    (ended : exec (inTurn addUsableEntry memoryMap) before = (.ok (), after)) :
    after.ranges = before.ranges ++ (usableEntries memoryMap).filterMap ofEntry ∧
      after.records = before.records ∧ after.freeStack = before.freeStack ∧
      after.nextRange = before.nextRange := by
  induction memoryMap generalizing before with
  | nil =>
    obtain ⟨_, rfl⟩ := exec_pure_ok.mp ended
    simp [usableEntries]
  | cons entry rest ih =>
    obtain ⟨_, middle, first, ended⟩ := exec_bind_ok.mp ended
    obtain ⟨ranges, records, freeStack, cursor⟩ := exec_addUsableEntry_ok first
    obtain ⟨laterRanges, laterRecords, laterFreeStack, laterCursor⟩ := ih ended
    refine ⟨?_, laterRecords.trans records, laterFreeStack.trans freeStack,
      laterCursor.trans cursor⟩
    rw [laterRanges, ranges, List.append_assoc]
    congr 1
    unfold usableEntries
    cases usable : entry.filter fun entry => entry.entryType = memmapUsable with
    | none => simp [usable]
    | some entry => cases made : ofEntry entry <;> simp [usable, made]

theorem nodup_frames {entries : List MemmapEntry}
    (disjoint : entries.Pairwise fun left right => Disjoint left.addresses right.addresses) :
    ((entries.filterMap ofEntry).flatMap frames).Nodup := by
  refine List.nodup_flatMap.mpr ⟨fun range _ => nodup_frameBlock .., ?_⟩
  refine List.Pairwise.filterMap _ (fun left right apart range made other otherMade => ?_) disjoint
  intro frame inRange inOther
  exact Set.disjoint_left.mp apart (mem_addresses made inRange) (mem_addresses otherMade inOther)

theorem FrameRange.unallocated_ofEntry {entry : MemmapEntry}
    (made : ofEntry entry = some range) : range.unallocated = range.frames := by
  unfold ofEntry at made
  split at made
  · cases made
    rfl
  · cases made

theorem initFromLimine_ok (ended : exec (initFromLimine memoryMap) before = (.ok (), initial)) :
    initial.ranges = (usableEntries memoryMap).filterMap ofEntry ∧ initial.nextRange = 0 ∧
      (initial.ledgerFrames ++ initial.freeStack ++ initial.unallocatedFrames).Perm
        initial.allFrames := by
  unfold initFromLimine at ended
  rw [exec_set_bind] at ended
  obtain ⟨_, added, addedAll, ended⟩ := exec_bind_ok.mp ended
  rw [exec_get_bind, exec_require] at ended
  obtain rfl : added = initial := congrArg Prod.snd ended
  obtain ⟨ranges, records, freeStack, cursor⟩ := exec_addUsableEntries_ok addedAll
  replace ranges : added.ranges = (usableEntries memoryMap).filterMap ofEntry := ranges
  refine ⟨ranges, cursor, ?_⟩
  have unallocated : added.unallocatedFrames = added.allFrames := by
    rw [FrameAllocator.unallocatedFrames, FrameAllocator.allFrames, ranges]
    refine List.flatMap_congr fun range member => ?_
    obtain ⟨entry, _, made⟩ := List.mem_filterMap.mp member
    exact unallocated_ofEntry made
  rw [FrameAllocator.ledgerFrames, records, freeStack, unallocated]
  exact .refl _

theorem sound_initFromLimine (disjoint : UsableDisjoint memoryMap)
    (ended : exec (initFromLimine memoryMap) before = (.ok (), initial)) : initial.Sound := by
  obtain ⟨ranges, -, places⟩ := initFromLimine_ok ended
  refine ⟨places, ?_⟩
  rw [FrameAllocator.allFrames, ranges]
  exact nodup_frames disjoint

/-- After any operations no frame is in two places or twice in one, no allocation hands
out what is in the ledger, and a free that fails changes nothing. -/
theorem frames_apart_after_run {memoryMap : List (Option MemmapEntry)}
    (disjoint : UsableDisjoint memoryMap) {before initial : FrameAllocator}
    (started : exec (initFromLimine memoryMap) before = (.ok (), initial)) (ops : List FrameOp) :
    let reached := initial.run ops
    (reached.ledgerFrames.Nodup ∧ reached.freeStack.Nodup ∧ reached.unallocatedFrames.Nodup) ∧
      (reached.ledgerFrames.Disjoint reached.freeStack ∧
        reached.ledgerFrames.Disjoint reached.unallocatedFrames ∧
        reached.freeStack.Disjoint reached.unallocatedFrames) ∧
      (∀ owner frame after, reached.allocateOwned owner = (some frame, after) →
        frame ∉ reached.ledgerFrames) ∧
      (∀ frameCount owner frame after,
        reached.allocateContiguousOwned frameCount owner = (some frame, after) →
        ∀ member ∈ frameBlock frame.start frameCount, member ∉ reached.ledgerFrames) ∧
      (∀ frame error after, exec (free frame) reached = (.error error, after) → after = reached) ∧
      ∀ frame expectedOwner error after,
        exec (freeOwned frame expectedOwner) reached = (.error error, after) → after = reached := by
  intro reached
  have sound : reached.Sound := (initial.moves_run ops).sound (sound_initFromLimine disjoint started)
  have nodup := sound.accounts.nodup_iff.mpr sound.nodup
  obtain ⟨handled, unallocated, unallocatedApart⟩ := List.nodup_append'.mp nodup
  obtain ⟨ledger, stack, stackApart⟩ := List.nodup_append'.mp handled
  have failing (frame : PhysicalFrame) (expectedOwner : Option FrameOwner) (error : FreeError)
      (after : FrameAllocator)
      (failed : exec (freeWithOwner frame expectedOwner) reached = (.error error, after)) :
      after = reached := by
    rcases exec_freeWithOwner frame expectedOwner reached with ⟨_, _, ended⟩ | ⟨_, ended⟩
    · simp [ended] at failed
    · rw [ended] at failed
      exact (congrArg Prod.snd failed).symm
  refine ⟨⟨ledger, stack, unallocated⟩, ⟨stackApart,
    fun frame listed => unallocatedApart (List.mem_append_left _ listed),
    fun frame stacked => unallocatedApart (List.mem_append_right _ stacked)⟩, ?_, ?_,
    fun frame => failing frame none, fun frame owner => failing frame (some owner)⟩
  · intro owner frame after allocated
    have hands := reached.hands_allocateOwned owner
    rw [allocated] at hands
    exact hands.fresh sound (by simp [FrameAllocator.handedOut, frameBlock])
  · intro frameCount owner frame after allocated member inBlock
    have hands := reached.hands_allocateContiguousOwned frameCount owner
    rw [allocated] at hands
    exact hands.fresh sound inBlock

def lowMemoryMap : List (Option MemmapEntry) :=
  [some ⟨0x1000, 0x4800, 0⟩, none, some ⟨0x100000, 0x2000, 0⟩, some ⟨0x200000, 0x1000, 1⟩]

theorem frames_apart_after_run_lowMemoryMap :
    UsableDisjoint lowMemoryMap ∧
      ∃ initial, exec (initFromLimine lowMemoryMap) .new = (.ok (), initial) ∧
        (initial.run [.allocateOwned ⟨.kernel, 1⟩, .allocateContiguousOwned 2 ⟨.dma, 7⟩,
          .free ⟨0x1000⟩]).ledgerFrames.Nodup := by
  have entries : usableEntries lowMemoryMap = [⟨0x1000, 0x4800, 0⟩, ⟨0x100000, 0x2000, 0⟩] := rfl
  have disjoint : UsableDisjoint lowMemoryMap := by
    rw [UsableDisjoint, entries]
    simp [MemmapEntry.addresses, Set.Ico_disjoint_Ico]
  have started : exec (initFromLimine lowMemoryMap) .new =
      (.ok (), (exec (initFromLimine lowMemoryMap) .new).2) := rfl
  exact ⟨disjoint, _, started, (frames_apart_after_run disjoint started _).1.1⟩

/-- No operation makes a frame or loses one. -/
theorem frames_conserved {memoryMap : List (Option MemmapEntry)} {before initial : FrameAllocator}
    (started : exec (initFromLimine memoryMap) before = (.ok (), initial)) (ops : List FrameOp) :
    let reached := initial.run ops
    (reached.ledgerFrames ++ reached.freeStack ++ reached.unallocatedFrames).Perm
      (((usableEntries memoryMap).filterMap ofEntry).flatMap frames) := by
  obtain ⟨ranges, -, places⟩ := initFromLimine_ok started
  rw [FrameAllocator.allFrames, ranges] at places
  exact (initial.moves_run ops).places.trans places

theorem frames_conserved_lowMemoryMap :
    let reached := (exec (initFromLimine lowMemoryMap) .new).2.run [.allocateOwned ⟨.kernel, 1⟩]
    (reached.ledgerFrames ++ reached.freeStack ++ reached.unallocatedFrames).length = 6 := by
  have started : exec (initFromLimine lowMemoryMap) .new =
      (.ok (), (exec (initFromLimine lowMemoryMap) .new).2) := rfl
  exact (frames_conserved started _).length_eq

/-- The search passes only ranges whose frames have all been handed out. -/
def PassesFull (room : FrameRange → Room) : List FrameRange → Prop
  | [] => True
  | range :: rest =>
    room range = .full → range.next = range.endAddress ∧ PassesFull room rest

theorem FrameRange.next_eq_of_roomForOne (full : range.roomForOne = .full) :
    range.next = range.endAddress := by
  unfold roomForOne at full
  split at full
  · cases full
  · exact le_antisymm range.next_le (by omega)

theorem passesFull_roomForOne (ranges : List FrameRange) : PassesFull roomForOne ranges := by
  induction ranges with
  | nil => trivial
  | cons range rest ih => exact fun full => ⟨next_eq_of_roomForOne full, ih⟩

theorem seekRoom_none {start index : Nat}
    (sought : seekRoom roomForOne start ranges = (index, none)) :
    ∀ range ∈ ranges, range.next = range.endAddress := by
  induction ranges generalizing start with
  | nil => simp
  | cons first rest ih =>
    unfold seekRoom at sought
    split at sought
    · exact List.forall_mem_cons.mpr ⟨next_eq_of_roomForOne ‹_›, ih sought⟩
    · cases sought
    · rename_i overflow
      unfold roomForOne at overflow
      split at overflow <;> cases overflow

theorem seekRoom_passed {room : FrameRange → Room} {start : Nat} (passes : PassesFull room ranges) :
    start ≤ (seekRoom room start ranges).1 ∧
      ∀ range ∈ ranges.take ((seekRoom room start ranges).1 - start),
        range.next = range.endAddress := by
  induction ranges generalizing start with
  | nil => simp [seekRoom]
  | cons first rest ih =>
    unfold seekRoom
    split
    · rename_i full
      obtain ⟨isFull, restPasses⟩ := passes full
      obtain ⟨later, passed⟩ := @ih (start + 1) restPasses
      refine ⟨by omega, ?_⟩
      rw [show (seekRoom room (start + 1) rest).1 - start =
        (seekRoom room (start + 1) rest).1 - (start + 1) + 1 by omega, List.take_succ_cons]
      exact List.forall_mem_cons.mpr ⟨isFull, passed⟩
    · simp
    · simp

namespace FrameAllocator

/-- The ranges in front of the cursor have no frame left. -/
def Exhausted (allocator : FrameAllocator) : Prop :=
  ∀ range ∈ allocator.ranges.take allocator.nextRange, range.next = range.endAddress

/-- A block is only asked for where the search for it passes no frame. -/
def Unwasteful (allocator : FrameAllocator) : FrameOp → Prop
  | .allocateContiguousOwned frameCount _ =>
    frameCount ≠ 0 → frameCount ≤ maxFrameRecords - allocator.records.length →
      PassesFull (roomFor frameCount) (allocator.ranges.drop allocator.nextRange)
  | _ => True

def UnwastefulAlong (allocator : FrameAllocator) : List FrameOp → Prop
  | [] => True
  | op :: rest => allocator.Unwasteful op ∧ (allocator.perform op).UnwastefulAlong rest

variable {allocator : FrameAllocator}

theorem exhausted_allocateFromRanges (exhausted : allocator.Exhausted) {room : FrameRange → Room}
    (passes : PassesFull room (allocator.ranges.drop allocator.nextRange)) (count : Nat)
    (owner : FrameOwner) : (allocator.allocateFromRanges room count owner).2.Exhausted := by
  obtain ⟨later, passed⟩ := @seekRoom_passed _ _ allocator.nextRange passes
  have front : ∀ range ∈ allocator.ranges.take
      (seekRoom room allocator.nextRange (allocator.ranges.drop allocator.nextRange)).1,
      range.next = range.endAddress := by
    rw [← Nat.add_sub_cancel' later, List.take_add]
    exact fun range member => (List.mem_append.mp member).elim (exhausted range) (passed range)
  unfold allocateFromRanges
  rcases sought : seekRoom room allocator.nextRange
    (allocator.ranges.drop allocator.nextRange) with ⟨index, _ | ⟨range, taken⟩⟩
  all_goals rw [sought] at front
  · exact front
  · intro range member
    exact front range (List.take_set_of_le le_rfl ▸ member)

theorem exhausted_perform (exhausted : allocator.Exhausted) {op : FrameOp}
    (unwasteful : allocator.Unwasteful op) : (allocator.perform op).Exhausted := by
  have freed (frame : PhysicalFrame) (owner : Option FrameOwner) :
      (exec (freeWithOwner frame owner) allocator).2.Exhausted := by
    rcases exec_freeWithOwner frame owner allocator with ⟨_, _, ended⟩ | ⟨_, ended⟩
    all_goals
      rw [ended]
      exact exhausted
  cases op with
  | allocateOwned owner =>
    change (allocator.allocateOwned owner).2.Exhausted
    unfold allocateOwned
    split
    · exact exhausted
    · split
      · exact exhausted
      · exact exhausted_allocateFromRanges exhausted (passesFull_roomForOne _) 1 owner
  | allocateContiguousOwned frameCount owner =>
    change (allocator.allocateContiguousOwned frameCount owner).2.Exhausted
    unfold allocateContiguousOwned
    split
    · exact exhausted
    · split
      · exact exhausted
      · exact exhausted_allocateFromRanges exhausted (unwasteful ‹_› (by omega)) frameCount owner
  | free frame => exact freed frame none
  | freeOwned frame expectedOwner => exact freed frame (some expectedOwner)
  | setOwner frame owner =>
    change (exec (VertexOS.setOwner frame owner) allocator).2.Exhausted
    have same := exec_frameRecord frame allocator
    rw [VertexOS.setOwner, exec_bind]
    rcases ended : exec (frameRecord frame) allocator with ⟨_ | _, after⟩
    all_goals
      rw [ended] at same
      subst same
      exact exhausted

theorem exhausted_run (exhausted : allocator.Exhausted) {ops : List FrameOp}
    (unwasteful : allocator.UnwastefulAlong ops) : (allocator.run ops).Exhausted := by
  induction ops generalizing allocator with
  | nil => exact exhausted
  | cons op rest ih => exact ih (exhausted_perform exhausted unwasteful.1) unwasteful.2

theorem unallocated_of_refused (exhausted : allocator.Exhausted) {owner : FrameOwner}
    (refused : (allocator.allocateOwned owner).1 = none)
    (room : allocator.records.length ≠ maxFrameRecords) :
    allocator.freeStack = [] ∧ allocator.unallocatedFrames = [] := by
  rw [allocateOwned, if_neg room] at refused
  split at refused
  · cases refused
  · rename_i stack
    unfold allocateFromRanges at refused
    rcases sought : seekRoom roomForOne allocator.nextRange
      (allocator.ranges.drop allocator.nextRange) with ⟨index, _ | found⟩
    · refine ⟨stack, List.flatMap_eq_nil_iff.mpr fun range member => ?_⟩
      rw [← List.take_append_drop allocator.nextRange allocator.ranges] at member
      have empty : range.next = range.endAddress :=
        (List.mem_append.mp member).elim (exhausted range) (seekRoom_none sought range)
      simp [unallocated, empty, frameBlock]
    · rw [sought] at refused
      cases refused

end FrameAllocator

/-- No frame is abandoned in a run whose blocks are found without passing one. -/
theorem no_frame_abandoned {memoryMap : List (Option MemmapEntry)} {before initial : FrameAllocator}
    (started : exec (initFromLimine memoryMap) before = (.ok (), initial)) {ops : List FrameOp}
    (unwasteful : initial.UnwastefulAlong ops) {owner : FrameOwner}
    (refused : ((initial.run ops).allocateOwned owner).1 = none) :
    (initial.run ops).records.length = maxFrameRecords ∨
      ∀ frame ∈ initial.allFrames, frame ∈ (initial.run ops).ledgerFrames := by
  obtain ⟨-, cursor, places⟩ := initFromLimine_ok started
  have exhausted : initial.Exhausted := by simp [FrameAllocator.Exhausted, cursor]
  by_cases full : (initial.run ops).records.length = maxFrameRecords
  · exact .inl full
  · obtain ⟨stack, unallocated⟩ := FrameAllocator.unallocated_of_refused
      (FrameAllocator.exhausted_run exhausted unwasteful) refused full
    have moved := (initial.moves_run ops).places.trans places
    rw [stack, unallocated, List.append_nil, List.append_nil] at moved
    exact .inr fun frame member => moved.mem_iff.mpr member

theorem FrameRange.lt_of_roomFor {count : Nat}
    (full : range.roomFor count = .full) : range.endAddress < range.next + count * frameSize := by
  unfold roomFor at full
  split_ifs at full
  omega

theorem no_frame_abandoned_lowMemoryMap : let initial := (exec (initFromLimine lowMemoryMap) .new).2
    let ops := .allocateContiguousOwned 2 ⟨.dma, 7⟩ ::
      List.replicate 4 (.allocateOwned ⟨.kernel, 1⟩)
    initial.UnwastefulAlong ops ∧ ∀ frame ∈ initial.allFrames,
      frame ∈ (initial.run ops).ledgerFrames := by
  intro initial ops
  have started : exec (initFromLimine lowMemoryMap) .new = (.ok (), initial) := rfl
  have unwasteful : initial.UnwastefulAlong ops :=
    ⟨fun _ _ full => absurd (lt_of_roomFor full) (by decide),
      trivial, trivial, trivial, trivial, trivial⟩
  have refused : ((initial.run ops).allocateOwned ⟨.kernel, 1⟩).1 = none := by decide +kernel
  have room : (initial.run ops).records.length ≠ maxFrameRecords := by decide +kernel
  exact ⟨unwasteful, (no_frame_abandoned started unwasteful refused).resolve_left room⟩

/-- A block from the second range leaves the last frame of the first one to nobody. -/
theorem exists_abandoned_frame : let initial := (exec (initFromLimine lowMemoryMap) .new).2
    let reached := initial.run (List.replicate 3 (.allocateOwned ⟨.kernel, 1⟩) ++
      [.allocateContiguousOwned 2 ⟨.dma, 7⟩])
    exec (initFromLimine lowMemoryMap) .new = (.ok (), initial) ∧
      (reached.allocateOwned ⟨.kernel, 1⟩).1 = none ∧ reached.records.length ≠ maxFrameRecords ∧
      ⟨0x4000⟩ ∈ initial.allFrames ∧ ⟨0x4000⟩ ∉ reached.ledgerFrames := by
  decide

end VertexOS
