import VertexOS.DmaMappings

/-!
# A DMA region has one process at a time

A region that names a process is mapped by this process and by no other.  What a process
leaves in a region is zero again before the region goes to the next one.
-/

namespace VertexOS.DmaMappings

open ByteImages FailingCalls SlotTables DmaRuntime Function

def Zero (memory : Image) (base length : Nat) : Prop :=
  ∀ address, base ≤ address → address < base + length → memory address = 0

theorem zero_clearBytes (memory : Image) (base length : Nat) :
    Zero (clearBytes memory base length) base length :=
  fun _ above below => if_pos ⟨above, below⟩

theorem Zero.clearBytes {memory : Image} {base length : Nat} (zero : Zero memory base length)
    (start count : Nat) : Zero (clearBytes memory start count) base length := by
  intro address above below
  unfold ByteImages.clearBytes
  split
  · rfl
  · exact zero address above below

/-- A range that the higher half reaches, so that the kernel can write zeros to it. -/
def Clearable (hhdmOffset : Option Nat) (base length : Nat) : Prop :=
  length = 0 ∨ ∃ offset, hhdmOffset = some offset ∧ length < addressLimit ∧
    offset + base < addressLimit

theorem zeroDmaPhysicalRange_eq_some {hhdmOffset : Option Nat} {base length : Nat}
    {memory zeroed : Image} :
    zeroDmaPhysicalRange hhdmOffset base length memory = some zeroed ↔
      Clearable hhdmOffset base length ∧ zeroed = clearBytes memory base length := by
  unfold zeroDmaPhysicalRange Clearable
  by_cases empty : length = 0
  · have same : clearBytes memory base 0 = memory := by
      funext address
      exact clearBytes_outside (by omega)
    simp only [empty, if_true, Option.some.injEq, true_or, true_and, same]
    exact eq_comm
  · cases hhdmOffset with
    | none => simp [empty]
    | some offset =>
      simp only [empty, if_false, Option.bind_eq_bind, Option.bind_some, false_or,
        Option.some.injEq, exists_eq_left']
      split <;> rename_i far
      · simp only [reduceCtorEq, false_iff]
        omega
      · have near : length < addressLimit ∧ offset + base < addressLimit := by omega
        simp only [near, Option.some.injEq, and_self, true_and]
        exact eq_comm

def DmaProcess.Holds (process : DmaProcess) (id : KernelObjectId) : Prop :=
  ∃ mapping, some mapping ∈ process.dmaMappings ∧ mapping.region = id

namespace DmaRuntime

def Maps (runtime : DmaRuntime) (pid : ProcessId) (id : KernelObjectId) : Prop :=
  ∃ process, runtime.process pid = some process ∧ process.Holds id

def Fewer (before after : DmaRuntime) : Prop :=
  ∀ pid id, after.Maps pid id → before.Maps pid id

end DmaRuntime

theorem DmaProcess.dmaMapping_eq_none {process : DmaProcess} {id : KernelObjectId} :
    process.dmaMapping id = none ↔ ¬process.Holds id := by
  unfold DmaProcess.dmaMapping select DmaProcess.Holds
  rw [List.findSome?_eq_none_iff]
  constructor
  · rintro missing ⟨mapping, member, rfl⟩
    simpa using missing _ member
  · intro missing slot member
    cases slot with
    | none => rfl
    | some mapping =>
      have other : mapping.region ≠ id := fun same => missing ⟨mapping, member, same⟩
      simp [other]

/-- The records of regions, processes and memory agree with each other. -/
structure Exclusive (hhdmOffset : Option Nat) (runtime : DmaRuntime) : Prop where
  fresh : ∀ pid process, runtime.process pid = some process →
    pid ≠ .empty ∧ pid.raw < runtime.nextId
  slots : ∀ pid process, runtime.process pid = some process →
    process.dmaMappings.length = maxObjects
  /-- A process has a region in one slot only. -/
  once : ∀ pid process, runtime.process pid = some process → ∀ (i j : Nat) mapping other,
    process.dmaMappings[i]? = some (some mapping) → process.dmaMappings[j]? = some (some other) →
    mapping.region = other.region → i = j
  /-- A mapping is one of a region that names the process. -/
  named : ∀ pid process, runtime.process pid = some process → ∀ mapping,
    some mapping ∈ process.dmaMappings → ∃ region, runtime.region mapping.region = some region ∧
      region.base = mapping.physicalBase ∧ region.length = mapping.length ∧
      region.mappedBy = pid ∧ Clearable hhdmOffset region.base region.length
  /-- A region that names a process is mapped by it. -/
  owned : ∀ id region, runtime.region id = some region → region.mappedBy ≠ .empty →
    runtime.Maps region.mappedBy id
  /-- The pages of a process that lives show nothing but regions it has. -/
  shown : ∀ pid process, runtime.process pid = some process → process.state ≠ .exited →
    ∀ page frame, process.window page = some frame → ∃ mapping,
      some mapping ∈ process.dmaMappings ∧ mapping.physicalBase ≤ frame * frameSize ∧
      (frame + 1) * frameSize ≤ mapping.physicalBase + mapping.length
  /-- A region that was mapped before and is free is zero. -/
  clean : ∀ id region, runtime.region id = some region → region.mappedBy = .empty →
    (∃ pid, (pid, id) ∈ runtime.accepted) → Zero runtime.memory region.base region.length
  aligned : ∀ id region, runtime.region id = some region →
    region.base % frameSize = 0 ∧ region.length % frameSize = 0
  apart : ∀ id region, runtime.region id = some region → ∀ id' region',
    runtime.region id' = some region' → id ≠ id' →
    region.base + region.length ≤ region'.base ∨ region'.base + region'.length ≤ region.base
  counted : 0 < runtime.nextId

/-- Keep the records in agreement, and give no region to anyone. -/
def Releasing (hhdmOffset : Option Nat) (before after : DmaRuntime) : Prop :=
  Exclusive hhdmOffset before → Exclusive hhdmOffset after ∧ before.Fewer after

variable {hhdmOffset : Option Nat} {runtime : DmaRuntime} {pid : ProcessId} {process : DmaProcess}

section

protected theorem Releasing.refl (runtime : DmaRuntime) : Releasing hhdmOffset runtime runtime :=
  fun exclusive => ⟨exclusive, fun _ _ maps => maps⟩

protected theorem Releasing.trans {middle after : DmaRuntime}
    (first : Releasing hhdmOffset runtime middle) (second : Releasing hhdmOffset middle after) :
    Releasing hhdmOffset runtime after := by
  intro exclusive
  obtain ⟨between, fewer⟩ := first exclusive
  obtain ⟨last, stillFewer⟩ := second between
  exact ⟨last, fun pid id maps => fewer pid id (stillFewer pid id maps)⟩

instance : Std.Refl (Releasing hhdmOffset) := ⟨.refl⟩

instance : IsTrans DmaRuntime (Releasing hhdmOffset) := ⟨fun _ _ _ => .trans⟩

variable {process process' : DmaProcess}

theorem process_putProcess {other : ProcessId} {found : DmaProcess}
    (here : (runtime.putProcess pid process').process other = some found) :
    (other = pid ∧ found = process') ∨ (other ≠ pid ∧ runtime.process other = some found) := by
  by_cases same : other = pid
  · subst same
    simp only [putProcess, update_self, Option.some.injEq] at here
    exact .inl ⟨rfl, here.symm⟩
  · simp only [putProcess, update_of_ne same] at here
    exact .inr ⟨same, here⟩

theorem forall_putProcess {property : ProcessId → DmaProcess → Prop} (new : property pid process')
    (old : ∀ other found, runtime.process other = some found → property other found) :
    ∀ other found, (runtime.putProcess pid process').process other = some found →
      property other found := by
  intro other found there
  obtain ⟨rfl, rfl⟩ | ⟨_, there⟩ := process_putProcess there
  · exact new
  · exact old other found there

theorem releasing_putProcess (here : runtime.process pid = some process)
    (same : process'.dmaMappings = process.dmaMappings)
    (dark : process'.state ≠ .exited → ∀ page frame, process'.window page = some frame →
      process.state ≠ .exited ∧ process.window page = some frame) :
    Releasing hhdmOffset runtime (runtime.putProcess pid process') := by
  intro exclusive
  have before : ∀ {other found}, (runtime.putProcess pid process').process other = some found →
      ∃ old, runtime.process other = some old ∧ found.dmaMappings = old.dmaMappings := by
    intro other found there
    obtain ⟨rfl, rfl⟩ | ⟨_, there⟩ := process_putProcess there
    · exact ⟨process, here, same⟩
    · exact ⟨found, there, rfl⟩
  have fewer : runtime.Fewer (runtime.putProcess pid process') := by
    rintro other id ⟨found, there, mapping, member, rfl⟩
    obtain ⟨old, known, agree⟩ := before there
    exact ⟨old, known, mapping, agree ▸ member, rfl⟩
  have more : ∀ {other id}, runtime.Maps other id →
      (runtime.putProcess pid process').Maps other id := by
    rintro other id ⟨old, known, mapping, member, rfl⟩
    by_cases self : other = pid
    · subst self
      obtain rfl : process = old := Option.some.inj (here.symm.trans known)
      exact ⟨process', update_self .., mapping, same ▸ member, rfl⟩
    · exact ⟨old, (update_of_ne self ..).trans known, mapping, member, rfl⟩
  refine ⟨⟨?_, ?_, ?_, ?_, ?_, ?_, exclusive.clean, exclusive.aligned, exclusive.apart,
    exclusive.counted⟩, fewer⟩
  · intro other found there
    obtain ⟨old, known, _⟩ := before there
    exact exclusive.fresh other old known
  · intro other found there
    obtain ⟨old, known, agree⟩ := before there
    exact agree ▸ exclusive.slots other old known
  · intro other found there
    obtain ⟨old, known, agree⟩ := before there
    rw [agree]
    exact exclusive.once other old known
  · intro other found there mapping member
    obtain ⟨old, known, agree⟩ := before there
    exact exclusive.named other old known mapping (agree ▸ member)
  · intro id region there taken
    exact more (exclusive.owned id region there taken)
  · intro other found there alive page frame shows
    obtain ⟨rfl, rfl⟩ | ⟨_, there⟩ := process_putProcess there
    · obtain ⟨lived, showed⟩ := dark alive page frame shows
      rw [same]
      exact exclusive.shown other process here lived page frame showed
    · exact exclusive.shown other found there alive page frame shows

theorem releasing_clearBytes (base length : Nat) :
    Releasing hhdmOffset runtime
      { runtime with memory := clearBytes runtime.memory base length } := by
  intro exclusive
  refine ⟨{ exclusive with clean := ?_ }, fun _ _ maps => maps⟩
  intro id region here free used
  exact (exclusive.clean id region here free used).clearBytes base length

theorem releasing_current (current : Option ProcessId) :
    Releasing hhdmOffset runtime { runtime with current } :=
  fun exclusive => ⟨{ exclusive with }, fun _ _ maps => maps⟩

theorem releasing_halt : Releasing hhdmOffset runtime runtime.halt :=
  fun exclusive => ⟨{ exclusive with }, fun _ _ maps => maps⟩

end

section Release

variable {mapping : DmaUserMapping} {slot : Nat}

theorem region_putRegion {id other : KernelObjectId} {region found : DmaRegionObject}
    (here : (runtime.putRegion id region).region other = some found) :
    (other = id ∧ found = region) ∨ (other ≠ id ∧ runtime.region other = some found) := by
  by_cases same : other = id
  · subst same
    simp only [putRegion, update_self, Option.some.injEq] at here
    exact .inl ⟨rfl, here.symm⟩
  · simp only [putRegion, update_of_ne same] at here
    exact .inr ⟨same, here⟩

theorem placed_of_update {id other : KernelObjectId} {region region' found : DmaRegionObject}
    (here : runtime.region id = some region)
    (there : update runtime.region id (some region') other = some found)
    (base : region'.base = region.base) (length : region'.length = region.length) :
    ∃ old, runtime.region other = some old ∧ found.base = old.base ∧ found.length = old.length := by
  obtain ⟨rfl, rfl⟩ | ⟨_, there⟩ := @region_putRegion runtime _ _ _ _ there
  · exact ⟨region, here, base, length⟩
  · exact ⟨found, there, rfl, rfl⟩

theorem mem_set_none {slots : Slots DmaUserMapping} {other : DmaUserMapping}
    (member : some other ∈ slots.set slot none) :
    ∃ place, place ≠ slot ∧ slots[place]? = some (some other) := by
  obtain ⟨place, here⟩ := List.mem_iff_getElem?.mp member
  rw [List.getElem?_set] at here
  split at here
  · split at here <;> cases here
  · exact ⟨place, Ne.symm ‹_›, here⟩

section

variable (exclusive : Exclusive hhdmOffset runtime) (here : runtime.process pid = some process)
  (taken : process.dmaMappings[slot]? = some (some mapping))
include exclusive here taken

theorem Exclusive.mem_set_none_iff {other : DmaUserMapping} :
    some other ∈ process.dmaMappings.set slot none ↔
      some other ∈ process.dmaMappings ∧ other.region ≠ mapping.region := by
  constructor
  · intro member
    obtain ⟨place, elsewhere, there⟩ := mem_set_none member
    refine ⟨List.mem_of_getElem? there, fun same => elsewhere ?_⟩
    exact exclusive.once pid process here place slot other mapping there taken same
  · rintro ⟨member, different⟩
    obtain ⟨place, there⟩ := List.mem_iff_getElem?.mp member
    have elsewhere : slot ≠ place := by
      rintro rfl
      rw [taken] at there
      cases there
      exact different rfl
    exact List.mem_of_getElem? ((List.getElem?_set_ne elsewhere).trans there)

theorem releaseSlot_eq :
    ∃ region, runtime.region mapping.region = some region ∧ region.mappedBy = pid ∧
      runtime.releaseSlot hhdmOffset pid slot =
        ({ runtime with memory := clearBytes runtime.memory region.base region.length }.putProcess
          pid { process with dmaMappings := process.dmaMappings.set slot none }).putRegion
          mapping.region
          { region with mappedBy := .empty, releaseCount := region.releaseCount + 1 } := by
  obtain ⟨region, known, base, length, mappedBy, clearable⟩ :=
    exclusive.named pid process here mapping (List.mem_of_getElem? taken)
  have zeroed : zeroDmaPhysicalRange hhdmOffset mapping.physicalBase mapping.length
      runtime.memory = some (clearBytes runtime.memory region.base region.length) := by
    rw [← base, ← length]
    exact zeroDmaPhysicalRange_eq_some.mpr ⟨clearable, rfl⟩
  refine ⟨region, known, mappedBy, ?_⟩
  simp [releaseSlot, here, DmaProcess.takeDmaMapping, taken,
    releaseDmaMapping, releaseDmaRegionClaim, putProcess, zeroed,
    known, mappedBy, putRegion]

theorem Exclusive.released (ended : process.state = .exited) {region : DmaRegionObject}
    (known : runtime.region mapping.region = some region) (mappedBy : region.mappedBy = pid) :
    Exclusive hhdmOffset
      (({ runtime with memory := clearBytes runtime.memory region.base region.length }.putProcess
        pid { process with dmaMappings := process.dmaMappings.set slot none }).putRegion
        mapping.region
        { region with mappedBy := .empty, releaseCount := region.releaseCount + 1 }) := by
  have left {other : DmaUserMapping} : some other ∈ process.dmaMappings.set slot none ↔
      some other ∈ process.dmaMappings ∧ other.region ≠ mapping.region :=
    exclusive.mem_set_none_iff here taken
  refine ⟨?_, ?_, ?_, ?_, ?_, ?_, ?_, ?_, ?_, exclusive.counted⟩
  · exact forall_putProcess (exclusive.fresh pid process here) exclusive.fresh
  · exact forall_putProcess ((List.length_set ..).trans (exclusive.slots pid process here))
      exclusive.slots
  · intro other found there i j one two atOne atTwo
    obtain ⟨rfl, rfl⟩ | ⟨_, there⟩ := process_putProcess there
    · have kept {place : Nat} {entry : DmaUserMapping}
          (stays : (process.dmaMappings.set slot none)[place]? = some (some entry)) :
          process.dmaMappings[place]? = some (some entry) := by
        rw [List.getElem?_set] at stays
        split at stays
        · split at stays <;> cases stays
        · exact stays
      exact exclusive.once other process here i j one two (kept atOne) (kept atTwo)
    · exact exclusive.once other found there i j one two atOne atTwo
  · intro other found there entry member
    obtain ⟨rfl, rfl⟩ | ⟨different, there⟩ := process_putProcess there
    · obtain ⟨member, elsewhere⟩ := left.mp member
      obtain ⟨named, place, rest⟩ := exclusive.named other process here entry member
      exact ⟨named, (update_of_ne elsewhere ..).trans place, rest⟩
    · obtain ⟨named, place, base, length, owner, clearable⟩ :=
        exclusive.named other found there entry member
      have elsewhere : entry.region ≠ mapping.region := by
        intro same
        rw [same, known] at place
        cases place
        exact different (owner.symm.trans mappedBy)
      exact ⟨named, (update_of_ne elsewhere ..).trans place, base, length, owner, clearable⟩
  · intro id found there taken
    obtain ⟨rfl, rfl⟩ | ⟨different, there⟩ := region_putRegion there
    · exact absurd rfl taken
    · obtain ⟨owner, place, entry, member, rfl⟩ := exclusive.owned id found there taken
      by_cases self : found.mappedBy = pid
      · rw [self, here] at place
        cases place
        rw [self]
        exact ⟨_, update_self .., entry, left.mpr ⟨member, different⟩, rfl⟩
      · exact ⟨owner, (update_of_ne self ..).trans place, entry, member, rfl⟩
  · exact forall_putProcess (fun alive => absurd ended alive) exclusive.shown
  · intro id found there free used
    obtain ⟨rfl, rfl⟩ | ⟨_, there⟩ := region_putRegion there
    · exact zero_clearBytes runtime.memory region.base region.length
    · exact (exclusive.clean id found there free used).clearBytes region.base region.length
  · intro id found there
    obtain ⟨old, place, base, length⟩ := placed_of_update known there rfl rfl
    rw [base, length]
    exact exclusive.aligned id old place
  · intro id found there id' found' there' different
    obtain ⟨old, place, base, length⟩ := placed_of_update known there rfl rfl
    obtain ⟨old', place', base', length'⟩ := placed_of_update known there' rfl rfl
    rw [base, length, base', length']
    exact exclusive.apart id old place id' old' place' different

theorem Exclusive.fewer_released (memory : Image) (region : DmaRegionObject) :
    runtime.Fewer (({ runtime with memory }.putProcess pid
      { process with dmaMappings := process.dmaMappings.set slot none }).putRegion
      mapping.region region) := by
  rintro other id ⟨found, there, entry, member, rfl⟩
  obtain ⟨rfl, rfl⟩ | ⟨_, there⟩ := process_putProcess there
  · exact ⟨process, here, entry, ((exclusive.mem_set_none_iff here taken).mp member).1, rfl⟩
  · exact ⟨found, there, entry, member, rfl⟩

end

theorem releasing_releaseSlot (ended : ∀ process, runtime.process pid = some process →
    process.state = .exited) (slot : Nat) :
    Releasing hhdmOffset runtime (runtime.releaseSlot hhdmOffset pid slot) := by
  intro exclusive
  cases here : runtime.process pid with
  | none =>
    simp only [releaseSlot, here]
    exact Releasing.refl runtime exclusive
  | some process =>
    by_cases taken : ∃ mapping, process.dmaMappings[slot]? = some (some mapping)
    · obtain ⟨mapping, taken⟩ := taken
      obtain ⟨region, known, mappedBy, equal⟩ := releaseSlot_eq exclusive here taken
      rw [equal]
      exact ⟨exclusive.released here taken (ended process here) known mappedBy,
        exclusive.fewer_released here taken _ _⟩
    · have vacant : process.dmaMappings[slot]?.join = none := by
        rcases entry : process.dmaMappings[slot]? with _ | _ | mapping
        · rfl
        · rfl
        · exact absurd ⟨mapping, entry⟩ taken
      have unchanged : process.dmaMappings.set slot none = process.dmaMappings := by
        refine List.ext_getElem? fun place => ?_
        rw [List.getElem?_set]
        split
        · rename_i same
          subst same
          rcases entry : process.dmaMappings[slot]? with _ | _ | mapping
          · rw [if_neg (by simpa using entry)]
          · rw [if_pos (List.getElem?_eq_some_iff.mp entry).1]
          · exact absurd ⟨mapping, entry⟩ taken
        · rfl
      simp only [releaseSlot, here, DmaProcess.takeDmaMapping, vacant, unchanged]
      exact releasing_putProcess here rfl (fun alive _ _ shows => ⟨alive, shows⟩) exclusive

@[simp]
theorem process_releaseDmaRegionClaim (id : KernelObjectId) :
    (runtime.releaseDmaRegionClaim id pid).process = runtime.process := by
  unfold releaseDmaRegionClaim
  split
  · split <;> rfl
  · rfl

theorem process_releaseSlot (here : runtime.process pid = some process) (slot : Nat) :
    (runtime.releaseSlot hhdmOffset pid slot).process pid =
      some { process with dmaMappings := process.dmaMappings.set slot none } := by
  simp only [releaseSlot, here, DmaProcess.takeDmaMapping]
  cases process.dmaMappings[slot]?.join with
  | none => exact update_self ..
  | some mapping =>
    simp only [releaseDmaMapping, process_releaseDmaRegionClaim]
    exact update_self ..

theorem getElem?_foldl_set_none (places : List Nat) (slots : Slots DmaUserMapping) (place : Nat) :
    (places.foldl (fun slots slot => slots.set slot none) slots)[place]? =
      if place ∈ places ∧ place < slots.length then some none else slots[place]? := by
  induction places generalizing slots with
  | nil => simp
  | cons first rest ih =>
    rw [List.foldl_cons, ih, List.length_set, List.getElem?_set]
    by_cases same : first = place
    · by_cases inside : place < slots.length <;> simp [same, inside]
    · simp [same, Ne.symm same]

theorem foldl_set_none (slots : Slots DmaUserMapping) :
    (List.range slots.length).foldl (fun slots slot => slots.set slot none) slots =
      List.replicate slots.length none := by
  refine List.ext_getElem? fun place => ?_
  rw [getElem?_foldl_set_none, List.getElem?_replicate]
  by_cases inside : place < slots.length
  · simp [inside]
  · simp [inside]

theorem process_releaseSlots (here : runtime.process pid = some process) (places : List Nat) :
    (places.foldl (releaseSlot hhdmOffset pid) runtime).process pid =
      some { process with dmaMappings := places.foldl (fun slots slot =>
        slots.set slot none) process.dmaMappings } := by
  induction places generalizing runtime process with
  | nil => exact here
  | cons first rest ih => exact ih (process_releaseSlot here first)

theorem releasing_releaseSlots (here : runtime.process pid = some process)
    (ended : process.state = .exited) (places : List Nat) :
    Releasing hhdmOffset runtime (places.foldl (releaseSlot hhdmOffset pid) runtime) := by
  induction places generalizing runtime process with
  | nil => exact .refl runtime
  | cons first rest ih =>
    have step : Releasing hhdmOffset runtime (runtime.releaseSlot hhdmOffset pid first) := by
      refine releasing_releaseSlot (fun found there => ?_) first
      cases here.symm.trans there
      exact ended
    exact step.trans (ih (process_releaseSlot here first) ended)

end Release

section Lives

variable {reclaims : Bool} (template : Option ProcessId)

def DmaRuntime.Emptied (runtime : DmaRuntime) (pid : ProcessId) : Prop :=
  ∃ process, runtime.process pid = some process ∧ process.state = .exited ∧
    process.dmaMappings = List.replicate maxObjects none

theorem emptied_releaseProcessDmaMappings (exclusive : Exclusive hhdmOffset runtime)
    (here : runtime.process pid = some process) (ended : process.state = .exited) :
    (runtime.releaseProcessDmaMappings hhdmOffset pid).Emptied pid := by
  unfold releaseProcessDmaMappings
  refine ⟨_, process_releaseSlots here _, ended, ?_⟩
  rw [← exclusive.slots pid process here]
  exact foldl_set_none process.dmaMappings

theorem releasing_releaseProcessDmaMappings (here : runtime.process pid = some process)
    (ended : process.state = .exited) :
    Releasing hhdmOffset runtime (runtime.releaseProcessDmaMappings hhdmOffset pid) := by
  unfold releaseProcessDmaMappings
  exact releasing_releaseSlots here ended _

theorem releasing_reapProcessContext
    (ended : ∀ process, runtime.process pid = some process → process.state = .exited) :
    Evolves (Releasing hhdmOffset) (reapProcessContext hhdmOffset reclaims pid) runtime := by
  unfold reapProcessContext
  refine .get_bind (.fromOption_bind fun process here => ?_)
  refine .modify_bind (releasing_releaseProcessDmaMappings here (ended process here)) ?_
  refine .ite (fun _ => ?_) fun _ => .pure _
  refine .require_bind fun _ => .get_bind (.fromOption_bind fun left there => ?_)
  refine .modify (releasing_putProcess there rfl fun _ _ _ shows => ?_)
  cases shows

theorem emptied_of_reap (exclusive : Exclusive hhdmOffset runtime)
    (ended : ∀ process, runtime.process pid = some process → process.state = .exited)
    {after : DmaRuntime}
    (reaped : exec (reapProcessContext hhdmOffset reclaims pid) runtime = (.ok (), after)) :
    after.Emptied pid := by
  have ends : Ends (fun result => result.1 = .ok () → result.2.Emptied pid)
      (reapProcessContext hhdmOffset reclaims pid) runtime := by
    unfold reapProcessContext
    refine .get_bind (.fromOption_bind (fun _ => by simp) fun process here => ?_)
    have empty := emptied_releaseProcessDmaMappings exclusive here (ended process here)
    refine .modify_bind (.ite (fun _ => ?_) fun _ => .pure fun _ => empty)
    refine .require_bind (fun _ => by simp) fun _ => .get_bind ?_
    refine .fromOption_bind (fun _ => by simp) fun left there _ => ?_
    obtain ⟨process, here, ended, none⟩ := empty
    cases here.symm.trans there
    exact ⟨_, update_self .., ended, none⟩
  unfold Ends at ends
  rw [reaped] at ends
  exact ends rfl

theorem releasing_end (here : runtime.process pid = some process) :
    Releasing hhdmOffset runtime (runtime.putProcess pid { process with state := .exited }) :=
  releasing_putProcess here rfl fun alive => absurd rfl alive

theorem exited_putProcess {found : DmaProcess}
    (there : (runtime.putProcess pid { process with state := .exited }).process pid = some found) :
    found.state = .exited := by
  obtain ⟨_, rfl⟩ | ⟨different, _⟩ := process_putProcess there
  · rfl
  · exact absurd rfl different

theorem releasing_leaveEnded
    (ended : ∀ process, runtime.process pid = some process → process.state = .exited)
    (next : Option ProcessId) :
    Releasing hhdmOffset runtime (runtime.leaveEnded hhdmOffset reclaims pid next) := by
  cases next with
  | none => exact releasing_halt
  | some next =>
    exact (releasing_current (some next)).trans (releasing_reapProcessContext ended)

theorem currentProcess_eq_some (found : runtime.currentProcess = some (pid, process)) :
    runtime.current = some pid ∧ runtime.process pid = some process := by
  unfold currentProcess at found
  simp only [Option.bind_eq_bind, Option.bind_eq_some_iff, Option.pure_def, Option.some.injEq,
    Prod.mk.injEq] at found
  obtain ⟨_, current, _, known, rfl, rfl⟩ := found
  exact ⟨current, known⟩

theorem releasing_exitCurrentProcess (status : Nat) (next : Option ProcessId) :
    Releasing hhdmOffset runtime (runtime.exitCurrentProcess hhdmOffset reclaims status next) := by
  unfold exitCurrentProcess
  split
  · split
    · exact releasing_halt
    · exact releasing_current next
  · rename_i pid process found
    have ends : Releasing hhdmOffset runtime
        (runtime.putProcess pid { process with state := .exited }) :=
      releasing_end (currentProcess_eq_some found).2
    dsimp only
    split
    · exact ends.trans releasing_halt
    · exact ends.trans (releasing_leaveEnded (fun _ => exited_putProcess) next)

theorem releasing_faultCurrentProcess (next : Option ProcessId) :
    Releasing hhdmOffset runtime (runtime.faultCurrentProcess hhdmOffset reclaims next) := by
  unfold faultCurrentProcess
  split
  · exact releasing_halt
  rename_i pid process found
  have ends : Releasing hhdmOffset runtime
      (runtime.putProcess pid { process with state := .exited }) :=
    releasing_end (currentProcess_eq_some found).2
  dsimp only
  split
  · exact ends.trans releasing_halt
  · exact ends.trans (releasing_leaveEnded (fun _ => exited_putProcess) next)

theorem releasing_killProcess :
    Evolves (Releasing hhdmOffset) (killProcess hhdmOffset reclaims pid) runtime := by
  unfold killProcess
  refine .get_bind (.require_bind fun _ => .fromOption_bind fun process here => ?_)
  refine .require_bind fun _ => .set_bind (releasing_end here) ?_
  exact releasing_reapProcessContext fun _ => exited_putProcess

theorem releasing_processWait :
    Evolves (Releasing hhdmOffset) (processWait hhdmOffset reclaims pid) runtime := by
  unfold processWait
  refine .get_bind (.fromOption_bind fun process here => ?_)
  refine .ite (fun ended => releasing_reapProcessContext fun found there => ?_) fun _ => .pure _
  cases here.symm.trans there
  exact ended

theorem releasing_startProcess (loaded : Option Nat) (mounted : Bool) :
    Evolves (Releasing hhdmOffset) (startProcess hhdmOffset reclaims loaded mounted pid)
      runtime := by
  intro exclusive
  refine (?_ : Evolves (Releasing hhdmOffset) _ runtime) exclusive
  unfold startProcess
  refine .get_bind (.fromOption_bind fun snapshot here => ?_)
  refine .require_bind fun startable => .ite (fun ended => ?_) fun declared => ?_
  · have exited : ∀ process, runtime.process pid = some process → process.state = .exited := by
      intro process there
      cases here.symm.trans there
      exact ended
    refine .bind (releasing_reapProcessContext exited) fun _ middle reaped => ?_
    obtain ⟨process, known, _, empty⟩ := emptied_of_reap exclusive exited reaped
    refine .fromOption_bind fun cr3 _ => .require_bind fun _ => .get_bind ?_
    refine .fromOption_bind fun found there => .modify ?_
    cases known.symm.trans there
    refine releasing_putProcess known ?_ fun _ _ _ shows => ?_
    · simp [DmaProcess.clearDmaMappings, empty]
    · cases shows
  · refine .modify (releasing_putProcess here rfl fun _ _ _ shows => ⟨declared, shows⟩)

theorem releasing_removeProcess (empty : runtime.Emptied pid) :
    Releasing hhdmOffset runtime (runtime.removeProcess pid) := by
  intro exclusive
  obtain ⟨process, here, _, none⟩ := empty
  have kept {other found} (there : (runtime.removeProcess pid).process other = some found) :
      runtime.process other = some found := by
    by_cases same : other = pid
    · subst same
      simp [removeProcess] at there
    · exact (update_of_ne same ..).symm.trans there
  refine ⟨⟨fun other found there => exclusive.fresh other found (kept there),
    fun other found there => exclusive.slots other found (kept there),
    fun other found there => exclusive.once other found (kept there),
    fun other found there => exclusive.named other found (kept there), ?_,
    fun other found there => exclusive.shown other found (kept there), exclusive.clean,
    exclusive.aligned, exclusive.apart, exclusive.counted⟩, fun other id ⟨found, there, holds⟩ =>
      ⟨found, kept there, holds⟩⟩
  intro id region there taken
  obtain ⟨owner, known, mapping, member, same⟩ := exclusive.owned id region there taken
  have stays : region.mappedBy ≠ pid := by
    intro self
    rw [self, here] at known
    cases known
    rw [none] at member
    cases List.eq_of_mem_replicate member
  exact ⟨owner, (update_of_ne stays ..).trans known, mapping, member, same⟩

theorem releasing_recycleExitedProcessTemplate :
    Evolves (Releasing hhdmOffset) (recycleExitedProcessTemplate hhdmOffset reclaims template)
      runtime := by
  cases template with
  | none => exact .pure _
  | some pid =>
  intro exclusive
  refine (?_ : Evolves (Releasing hhdmOffset) _ runtime) exclusive
  unfold recycleExitedProcessTemplate
  refine .get_bind (.fromOption_bind fun snapshot here => ?_)
  refine .require_bind fun ended => ?_
  have exited : ∀ process, runtime.process pid = some process → process.state = .exited := by
    intro process there
    cases here.symm.trans there
    exact ended
  refine .bind (releasing_reapProcessContext exited) fun _ middle reaped => ?_
  refine .get_bind (.require_bind fun _ => .set ?_)
  exact releasing_removeProcess (emptied_of_reap exclusive exited reaped)

theorem Exclusive.process_nextId (exclusive : Exclusive hhdmOffset runtime) :
    runtime.process ⟨runtime.nextId⟩ = none := by
  cases here : runtime.process ⟨runtime.nextId⟩ with
  | none => rfl
  | some process => exact absurd (exclusive.fresh _ process here).2 (Nat.lt_irrefl _)

theorem releasing_addProcess (state : ProcessState) (cr3 : Nat) :
    Releasing hhdmOffset runtime
      { runtime.putProcess ⟨runtime.nextId⟩ { state, cr3 } with nextId := runtime.nextId + 1 } := by
  intro exclusive
  have vacant := exclusive.process_nextId
  have known {other : ProcessId} {found : DmaProcess}
      (there : (runtime.putProcess ⟨runtime.nextId⟩ { state, cr3 }).process other = some found)
      {mapping : DmaUserMapping} (member : some mapping ∈ found.dmaMappings) :
      runtime.process other = some found := by
    obtain ⟨_, rfl⟩ | ⟨_, there⟩ := process_putProcess there
    · cases List.eq_of_mem_replicate member
    · exact there
  refine ⟨⟨?_, ?_, ?_, ?_, ?_, ?_, exclusive.clean, exclusive.aligned, exclusive.apart,
    Nat.succ_pos _⟩, ?_⟩
  · intro other found there
    obtain ⟨rfl, _⟩ | ⟨_, there⟩ := process_putProcess there
    · refine ⟨fun zero => ?_, Nat.lt_succ_self _⟩
      exact absurd (congrArg ProcessId.raw zero) (Nat.ne_of_gt exclusive.counted)
    · obtain ⟨named, below⟩ := exclusive.fresh other found there
      exact ⟨named, Nat.lt_succ_of_lt below⟩
  · exact forall_putProcess List.length_replicate exclusive.slots
  · intro other found there i j one two atOne atTwo
    exact exclusive.once other found (known there (List.mem_of_getElem? atOne)) i j one two atOne atTwo
  · intro other found there mapping member
    exact exclusive.named other found (known there member) mapping member
  · intro id region there taken
    obtain ⟨owner, place, holds⟩ := exclusive.owned id region there taken
    have stays : region.mappedBy ≠ ⟨runtime.nextId⟩ := by
      intro self
      rw [self, vacant] at place
      cases place
    exact ⟨owner, (update_of_ne stays ..).trans place, holds⟩
  · exact forall_putProcess (fun _ _ _ shows => nomatch shows) exclusive.shown
  · rintro other id ⟨found, there, mapping, member, rfl⟩
    exact ⟨found, known there member, mapping, member, rfl⟩

theorem releasing_createProcess (admitted placed granted : Bool) (loaded : Option Nat) :
    Evolves (Releasing hhdmOffset)
      (createProcess hhdmOffset reclaims template admitted placed granted loaded) runtime := by
  unfold createProcess
  refine .bind (releasing_recycleExitedProcessTemplate template) fun _ middle _ => ?_
  refine .require_bind fun _ => .fromOption_bind fun cr3 _ => ?_
  refine .require_bind fun _ => .get_bind (.ite (fun _ => ?_) fun _ => ?_)
  · exact .set (releasing_addProcess _ cr3)
  · -- the process that was added goes again
    refine .set_bind ?_ (.throw _)
    intro exclusive
    have same : update (update middle.process ⟨middle.nextId⟩
        (some { state := .declared, cr3 })) ⟨middle.nextId⟩ none = middle.process := by
      rw [update_idem, ← exclusive.process_nextId, update_eq_self]
    simp only [removeProcess, putProcess, same]
    exact Releasing.refl middle exclusive

theorem releasing_alterState (state : ProcessState) :
    Releasing hhdmOffset runtime (runtime.alterState pid state) := by
  unfold alterState
  split
  · rename_i process here
    split
    · exact .refl runtime
    · rename_i alive
      exact releasing_putProcess here rfl fun _ _ _ shows => ⟨fun ended => alive (.inl ended), shows⟩
  · exact .refl runtime

theorem releasing_writeWindow (address : Nat) (byte : UInt8) :
    Releasing hhdmOffset runtime (runtime.writeWindow address byte) := by
  unfold writeWindow
  split
  · rename_i pid process found
    split
    · rename_i frame shows
      split
      · exact .refl runtime
      rename_i alive
      intro exclusive
      obtain ⟨_, here⟩ := currentProcess_eq_some found
      refine ⟨⟨exclusive.fresh, exclusive.slots, exclusive.once, exclusive.named, exclusive.owned,
        exclusive.shown, ?_, exclusive.aligned, exclusive.apart, exclusive.counted⟩,
        fun _ _ maps => maps⟩
      intro id region there free used place above below
      obtain ⟨mapping, member, starts, stops⟩ := exclusive.shown pid process here alive _ frame shows
      obtain ⟨taken, known, base, length, owner, _⟩ :=
        exclusive.named pid process here mapping member
      have different : id ≠ mapping.region := by
        rintro rfl
        cases there.symm.trans known
        exact (exclusive.fresh pid process here).1 (owner.symm.trans free)
      have apart := exclusive.apart id region there mapping.region taken known different
      have inside : address % frameSize < frameSize := Nat.mod_lt _ (by decide)
      rw [Nat.add_mul] at stops
      have outside : place < frame * frameSize + address % frameSize ∨
          frame * frameSize + address % frameSize + [byte].length ≤ place := by
        rw [List.length_singleton]
        omega
      exact (writeBytes_outside outside).trans
        (exclusive.clean id region there free used place above below)
    · exact .refl runtime
  · exact .refl runtime

end Lives

section Mapping

variable {pid owner : ProcessId} {request : DmaMapRequest} {mapping : DmaUserMapping}
  {region : DmaRegionObject} {id : KernelObjectId}

/-- The page table with `count` pages from `first` on mapped to the frames from `frame` on. -/
def overlay (table : PageTable) (first frame count : Nat) : PageTable := fun page =>
  if first ≤ page ∧ page < first + count then some (frame + (page - first)) else table page

theorem update_overlay (table : PageTable) (first frame done : Nat) :
    update (overlay table first frame done) (first + done) (some (frame + done)) =
      overlay table first frame (done + 1) := by
  funext page
  by_cases last : page = first + done
  · subst last
    rw [update_self, overlay, if_pos (by omega)]
    congr 1
    omega
  · rw [update_of_ne last]
    unfold overlay
    by_cases inside : first ≤ page ∧ page < first + done
    · rw [if_pos inside, if_pos (by omega)]
    · rw [if_neg inside, if_neg (by omega)]

theorem clearPages_overlay {table : PageTable} {first count : Nat}
    (vacant : ∀ index < count, table (first + index) = none) (frame : Nat) {done : Nat}
    (most : done ≤ count) : clearPages (overlay table first frame done) first done = table := by
  funext page
  unfold clearPages overlay
  by_cases inside : first ≤ page ∧ page < first + done
  · rw [if_pos inside]
    have empty := vacant (page - first) (by omega)
    rw [Nat.add_sub_of_le inside.1] at empty
    exact empty.symm
  · rw [if_neg inside, if_neg inside]

theorem mapPages_overlay {table : PageTable} {first count : Nat} (maps : Nat → Bool) (frame : Nat)
    (vacant : ∀ index < count, table (first + index) = none) {done left : Nat}
    (all : done + left = count) :
    mapPages maps first frame (overlay table first frame done) done left =
        (true, overlay table first frame count) ∨
      mapPages maps first frame (overlay table first frame done) done left = (false, table) := by
  induction left generalizing done with
  | zero =>
    obtain rfl : done = count := all
    exact .inl rfl
  | succ left ih =>
    unfold mapPages
    split
    · rw [update_overlay]
      exact ih (by omega)
    · rw [clearPages_overlay vacant frame (by omega)]
      exact .inr rfl

/-- The runtime in which the current process sees `count` frames more. -/
def Shown (runtime : DmaRuntime) (pid : ProcessId) (process : DmaProcess)
    (virtualBase physicalBase length : Nat) : DmaRuntime :=
  runtime.putProcess pid { process with
    window := overlay process.window (virtualBase / frameSize) (physicalBase / frameSize)
      (length / frameSize) }

theorem putProcess_self (here : runtime.process pid = some process) :
    runtime.putProcess pid process = runtime := by
  unfold putProcess
  rw [← here, update_eq_self]

theorem ends_mapCurrentProcessPhysicalRange
    (found : runtime.currentProcess = some (pid, process)) (virtualBase physicalBase length : Nat) :
    Ends (Lands
        (fun _ after => after = Shown runtime pid process virtualBase physicalBase length ∧
          ∀ index < length / frameSize, process.window (virtualBase / frameSize + index) = none)
        fun _ after => after = runtime)
      (mapCurrentProcessPhysicalRange hhdmOffset request virtualBase physicalBase length)
      runtime := by
  obtain ⟨_, here⟩ := currentProcess_eq_some found
  unfold mapCurrentProcessPhysicalRange
  refine .require_bind (fun _ => rfl) fun _ => .require_bind (fun _ => rfl) fun _ => ?_
  refine .require_bind (fun _ => rfl) fun _ => .require_bind (fun _ => rfl) fun _ => ?_
  refine .require_bind (fun _ => rfl) fun _ => .get_bind ?_
  rw [found]
  refine .fromOption_bind (fun _ => rfl) fun _ same => ?_
  cases same
  refine .require_bind (fun _ => rfl) fun ⟨_, vacant⟩ => ?_
  have start : overlay process.window (virtualBase / frameSize) (physicalBase / frameSize) 0 =
      process.window := by
    funext page
    exact if_neg (by omega)
  have mapped := mapPages_overlay request.pageMaps (physicalBase / frameSize) vacant
    (Nat.zero_add (length / frameSize))
  rw [start] at mapped
  obtain mapped | mapped := mapped
  · rw [mapped]
    exact .set_bind ⟨rfl, vacant⟩
  · rw [mapped]
    refine .set_bind ?_
    exact putProcess_self here

/-- The runtime in which the current process has one mapping more. -/
def Accepted (runtime : DmaRuntime) (owner : ProcessId) (process : DmaProcess)
    (mapping : DmaUserMapping) (mapLen : Nat) (filled : Slots DmaUserMapping) : DmaRuntime :=
  let cleared := clearBytes runtime.memory mapping.physicalBase mapping.length
  { { runtime with memory := cleared }.putProcess owner { process with
      window := overlay process.window (mapping.virtualBase / frameSize)
        (mapping.physicalBase / frameSize) (mapLen / frameSize)
      dmaMappings := filled } with
    accepted := (owner, mapping.region) :: runtime.accepted }

def MapEnds (hhdmOffset : Option Nat) (runtime : DmaRuntime) (owner : ProcessId)
    (process : DmaProcess) (mapping : DmaUserMapping) (mapLen : Nat) (after : DmaRuntime) : Prop :=
  (∃ memory, (memory = runtime.memory ∨
      memory = clearBytes runtime.memory mapping.physicalBase mapping.length) ∧
    after = { runtime with memory }.releaseDmaRegionClaim mapping.region owner) ∨
  Clearable hhdmOffset mapping.physicalBase mapping.length ∧
    ∃ filled, fillFirst mapping process.dmaMappings = some filled ∧
      after = Accepted runtime owner process mapping mapLen filled

theorem currentProcess_putProcess (current : runtime.current = some pid) :
    (runtime.putProcess pid process).currentProcess = some (pid, process) := by
  simp [currentProcess, putProcess, current]

theorem unmap_shown {process : DmaProcess} {virtualBase length : Nat}
    (found : runtime.currentProcess = some (pid, process)) (physicalBase : Nat)
    (vacant : ∀ index < length / frameSize, process.window (virtualBase / frameSize + index) = none) :
    unmapCurrentProcessPhysicalRange virtualBase length
      (Shown runtime pid process virtualBase physicalBase length) = runtime := by
  obtain ⟨current, here⟩ := currentProcess_eq_some found
  unfold unmapCurrentProcessPhysicalRange Shown
  rw [currentProcess_putProcess current]
  simp only [clearPages_overlay vacant _ le_rfl, putProcess, update_idem]
  exact putProcess_self here

theorem DmaProcess.addDmaMapping_of_none (new : process.dmaMapping mapping.region = none)
    (window : PageTable) :
    { process with window }.addDmaMapping mapping = match fillFirst mapping process.dmaMappings with
      | some mappings => .ok { process with window, dmaMappings := mappings }
      | none => .error .vfsNoSpace := by
  have missing : ({ process with window }.dmaMapping mapping.region).isSome = false :=
    congrArg Option.isSome new
  rw [DmaProcess.addDmaMapping, missing]
  exact if_neg Bool.false_ne_true

theorem mapEnds_abandonMapping {mapLen : Nat}
    (found : runtime.currentProcess = some (owner, process)) (vacant : ∀ index < mapLen / frameSize,
      process.window (mapping.virtualBase / frameSize + index) = none) (error : IpcError)
    (after : DmaRuntime → Prop)
    (holds : after (runtime.releaseDmaRegionClaim mapping.region owner)) :
    Ends (fun result : Except IpcError Unit × DmaRuntime => after result.2)
      (abandonMapping mapping mapLen owner error)
      (Shown runtime owner process mapping.virtualBase mapping.physicalBase mapLen) := by
  unfold abandonMapping abandonClaim
  refine .modify_bind (.modify_bind ?_)
  rw [unmap_shown found mapping.physicalBase vacant]
  exact holds

theorem mapEnds_mapClaimed (found : runtime.currentProcess = some (owner, process))
    (new : process.dmaMapping mapping.region = none) (mapLen : Nat) :
    Ends (fun result => MapEnds hhdmOffset runtime owner process mapping mapLen result.2)
      (mapClaimed hhdmOffset request mapping mapLen owner) runtime := by
  unfold mapClaimed
  refine .get_bind ?_
  split
  · exact .inl ⟨runtime.memory, .inl rfl, rfl⟩
  rename_i memory zeroed
  obtain ⟨clearable, rfl⟩ := zeroDmaPhysicalRange_eq_some.mp zeroed
  -- writing zeros leaves the current process alone
  have found : { runtime with
      memory := clearBytes runtime.memory mapping.physicalBase mapping.length }.currentProcess =
        some (owner, process) := found
  refine .set_bind (.lands_attempt_bind (ends_mapCurrentProcessPhysicalRange found _ _ _) ?_ ?_)
  · rintro error _ rfl
    exact .inl ⟨_, .inr rfl, rfl⟩
  · rintro _ _ ⟨rfl, vacant⟩
    have abandoned (error : IpcError) := mapEnds_abandonMapping found vacant error
      (MapEnds hhdmOffset runtime owner process mapping mapLen) (.inl ⟨_, .inr rfl, rfl⟩)
    unfold recordMapping
    refine .ite (fun _ => .get_bind ?_) fun _ => abandoned _
    obtain ⟨current, _⟩ := currentProcess_eq_some found
    rw [Shown, currentProcess_putProcess current]
    dsimp only
    rw [DmaProcess.addDmaMapping_of_none new]
    cases fills : fillFirst mapping process.dmaMappings with
    | none => exact abandoned _
    | some filled =>
      refine .inr ⟨clearable, filled, fills, ?_⟩
      simp only [exec_set, putProcess, update_idem, Accepted]

theorem releasing_recount (here : runtime.region id = some region) (mapCount releaseCount : Nat) :
    Releasing hhdmOffset runtime (runtime.putRegion id { region with mapCount, releaseCount }) := by
  intro exclusive
  refine ⟨⟨exclusive.fresh, exclusive.slots, exclusive.once, ?_, ?_, exclusive.shown, ?_, ?_, ?_,
    exclusive.counted⟩, fun _ _ maps => maps⟩
  · intro pid process known mapping member
    obtain ⟨named, place, rest⟩ := exclusive.named pid process known mapping member
    by_cases same : mapping.region = id
    · subst same
      cases here.symm.trans place
      exact ⟨_, update_self .., rest⟩
    · exact ⟨named, (update_of_ne same ..).trans place, rest⟩
  · intro other found there taken
    obtain ⟨rfl, rfl⟩ | ⟨_, there⟩ := region_putRegion there
    · exact exclusive.owned other region here taken
    · exact exclusive.owned other found there taken
  · intro other found there
    obtain ⟨rfl, rfl⟩ | ⟨_, there⟩ := region_putRegion there
    · exact exclusive.clean other region here
    · exact exclusive.clean other found there
  · intro other found there
    obtain ⟨old, place, base, length⟩ := placed_of_update here there rfl rfl
    rw [base, length]
    exact exclusive.aligned other old place
  · intro id found there id' found' there' different
    obtain ⟨old, place, base, length⟩ := placed_of_update here there rfl rfl
    obtain ⟨old', place', base', length'⟩ := placed_of_update here there' rfl rfl
    rw [base, length, base', length']
    exact exclusive.apart id old place id' old' place' different

theorem Exclusive.accepted (exclusive : Exclusive hhdmOffset runtime) {virtualBase mapCount : Nat}
    {filled : Slots DmaUserMapping} (here : runtime.region id = some region)
    (free : region.mappedBy = .empty) (known : runtime.process owner = some process)
    (new : ¬process.Holds id)
    (fills : fillFirst ⟨id, virtualBase, region.base, region.length⟩ process.dmaMappings =
      some filled) (clearable : Clearable hhdmOffset region.base region.length) :
    Exclusive hhdmOffset
      (Accepted (runtime.putRegion id { region with mappedBy := owner, mapCount }) owner process
        ⟨id, virtualBase, region.base, region.length⟩ region.length filled) := by
  have members {other : DmaUserMapping} : some other ∈ filled ↔
      other = ⟨id, virtualBase, region.base, region.length⟩ ∨ some other ∈ process.dmaMappings :=
    mem_of_fillFirst fills
  refine ⟨?_, ?_, ?_, ?_, ?_, ?_, ?_, ?_, ?_, exclusive.counted⟩
  · exact forall_putProcess (exclusive.fresh owner process known) exclusive.fresh
  · exact forall_putProcess ((length_of_fillFirst fills).trans
      (exclusive.slots owner process known)) exclusive.slots
  · intro other found there i j one two atOne atTwo same
    obtain ⟨rfl, rfl⟩ | ⟨_, there⟩ := process_putProcess there
    · obtain ⟨place, rfl, inside⟩ := eq_set_of_fillFirst fills
      -- an old entry is of another region than the new one
      have old {index : Nat} {entry : DmaUserMapping} (elsewhere : place ≠ index)
          (there : (process.dmaMappings.set place (some
            ⟨id, virtualBase, region.base, region.length⟩))[index]? = some (some entry)) :
          process.dmaMappings[index]? = some (some entry) ∧ entry.region ≠ id := by
        rw [List.getElem?_set_ne elsewhere] at there
        exact ⟨there, fun same => new ⟨entry, List.mem_of_getElem? there, same⟩⟩
      have added {entry : DmaUserMapping} (there : (process.dmaMappings.set place (some
          ⟨id, virtualBase, region.base, region.length⟩))[place]? = some (some entry)) :
          entry.region = id := by
        rw [List.getElem?_set_self inside] at there
        cases there
        rfl
      by_cases first : place = i
      · by_cases second : place = j
        · exact first.symm.trans second
        · subst first
          exact absurd (same.symm.trans (added atOne)) (old second atTwo).2
      · by_cases second : place = j
        · subst second
          exact absurd (same.trans (added atTwo)) (old first atOne).2
        · exact exclusive.once other process known i j one two (old first atOne).1
            (old second atTwo).1 same
    · exact exclusive.once other found there i j one two atOne atTwo same
  · intro other found there entry member
    obtain ⟨rfl, rfl⟩ | ⟨_, there⟩ := process_putProcess there
    · obtain rfl | member := members.mp member
      · exact ⟨_, update_self .., rfl, rfl, rfl, clearable⟩
      · obtain ⟨named, place, rest⟩ := exclusive.named other process known entry member
        have elsewhere : entry.region ≠ id := fun same => new ⟨entry, member, same⟩
        exact ⟨named, (update_of_ne elsewhere ..).trans place, rest⟩
    · obtain ⟨named, place, base, length, mappedBy, rest⟩ :=
        exclusive.named other found there entry member
      have elsewhere : entry.region ≠ id := by
        intro same
        rw [same, here] at place
        cases place
        exact (exclusive.fresh other found there).1 (mappedBy.symm.trans free)
      exact ⟨named, (update_of_ne elsewhere ..).trans place, base, length, mappedBy, rest⟩
  · intro other found there taken
    obtain ⟨rfl, rfl⟩ | ⟨_, there⟩ := region_putRegion there
    · exact ⟨_, update_self .., _, members.mpr (.inl rfl), rfl⟩
    · obtain ⟨holder, place, entry, member, same⟩ := exclusive.owned other found there taken
      by_cases self : found.mappedBy = owner
      · rw [self, known] at place
        cases place
        rw [self]
        exact ⟨_, update_self .., entry, members.mpr (.inr member), same⟩
      · exact ⟨holder, (update_of_ne self ..).trans place, entry, member, same⟩
  · intro other found there alive page frame shows
    obtain ⟨rfl, rfl⟩ | ⟨_, there⟩ := process_putProcess there
    · have shows : overlay process.window (virtualBase / frameSize) (region.base / frameSize)
          (region.length / frameSize) page = some frame := shows
      unfold overlay at shows
      split at shows
      · obtain ⟨base, length⟩ := exclusive.aligned id region here
        cases shows
        refine ⟨_, members.mpr (.inl rfl), ?_, ?_⟩ <;> simp only [frameSize] at * <;> omega
      · obtain ⟨entry, member, rest⟩ := exclusive.shown other process known alive page frame shows
        exact ⟨entry, members.mpr (.inr member), rest⟩
    · exact exclusive.shown other found there alive page frame shows
  · intro other found there unclaimed used
    obtain ⟨rfl, rfl⟩ | ⟨different, there⟩ := region_putRegion there
    · exact absurd unclaimed (exclusive.fresh owner process known).1
    · obtain ⟨pid, used⟩ := used
      obtain same | used := List.mem_cons.mp used
      · exact absurd (congrArg Prod.snd same) different
      · exact (exclusive.clean other found there unclaimed ⟨pid, used⟩).clearBytes _ _
  · intro other found there
    obtain ⟨old, place, base, length⟩ := placed_of_update here there rfl rfl
    rw [base, length]
    exact exclusive.aligned other old place
  · intro id found there id' found' there' different
    obtain ⟨old, place, base, length⟩ := placed_of_update here there rfl rfl
    obtain ⟨old', place', base', length'⟩ := placed_of_update here there' rfl rfl
    rw [base, length, base', length']
    exact exclusive.apart id old place id' old' place' different

/-- A process that gets a region gets zeros. -/
def DmaRuntime.Handover (before after : DmaRuntime) : Prop :=
  ∀ pid id region, ¬before.Maps pid id → after.Maps pid id → after.region id = some region →
    Zero after.memory region.base region.length

theorem DmaRuntime.Fewer.handover {before after : DmaRuntime} (fewer : before.Fewer after) :
    before.Handover after :=
  fun pid id _ missing maps => absurd (fewer pid id maps) missing

theorem ends_claimDmaRegion (exclusive : Exclusive hhdmOffset runtime)
    (here : runtime.region id = some region) (known : runtime.process owner = some process)
    (new : ¬process.Holds id) :
    Ends (Lands
        (fun _ after => region.mappedBy = .empty ∧ after = runtime.putRegion id
          { region with mappedBy := owner, mapCount := region.mapCount + 1 })
        fun _ after => after = runtime) (claimDmaRegion id owner) runtime := by
  have other : region.mappedBy ≠ owner := by
    intro self
    have taken : region.mappedBy ≠ .empty := self ▸ (exclusive.fresh owner process known).1
    obtain ⟨holder, place, holds⟩ := exclusive.owned id region here taken
    rw [self, known] at place
    cases place
    exact new holds
  unfold claimDmaRegion
  refine .get_bind ?_
  rw [here]
  refine .fromOption_bind (fun _ => rfl) fun _ same => ?_
  cases same
  refine .require_bind (fun _ => rfl) fun allowed => ?_
  have free : region.mappedBy = .empty := allowed.resolve_right other
  exact .ite (fun _ => ⟨free, rfl⟩) fun taken => absurd free taken

theorem alignUp_of_aligned {length aligned : Nat} (whole : length % frameSize = 0)
    (up : alignUp length frameSize = some aligned) : aligned = length := by
  unfold alignUp at up
  split at up
  · cases up
  · cases up
    simp only [frameSize] at *
    omega

theorem keeps_of_mapEnds (exclusive : Exclusive hhdmOffset runtime) {virtualBase : Nat}
    (here : runtime.region id = some region) (free : region.mappedBy = .empty)
    (known : runtime.process owner = some process) (new : ¬process.Holds id) {after : DmaRuntime}
    (ends : MapEnds hhdmOffset
      (runtime.putRegion id { region with mappedBy := owner, mapCount := region.mapCount + 1 })
      owner process ⟨id, virtualBase, region.base, region.length⟩ region.length after) :
    Exclusive hhdmOffset after ∧ runtime.Handover after := by
  obtain ⟨memory, written, rfl⟩ | ⟨clearable, filled, fills, rfl⟩ := ends
  · have zeroed : Releasing hhdmOffset runtime { runtime with memory } := by
      obtain rfl | rfl := written
      · exact .refl runtime
      · exact releasing_clearBytes region.base region.length
    have recounted := @releasing_recount hhdmOffset { runtime with memory } region id here
      (region.mapCount + 1) (region.releaseCount + 1)
    obtain ⟨exclusive, fewer⟩ := zeroed.trans recounted exclusive
    have same : { runtime.putRegion id
        { region with mappedBy := owner, mapCount := region.mapCount + 1 } with
          memory }.releaseDmaRegionClaim id owner =
        { runtime with memory }.putRegion id
          { region with mapCount := region.mapCount + 1,
                        releaseCount := region.releaseCount + 1 } := by
      simp [releaseDmaRegionClaim, putRegion, free]
    rw [same]
    exact ⟨exclusive, fewer.handover⟩
  · refine ⟨exclusive.accepted here free known new fills clearable, ?_⟩
    rintro pid other found missing ⟨holder, place, entry, member, rfl⟩ there
    -- the only mapping that is new is the one of the region that was cleared
    have cleared : entry.region = id := by
      by_contra elsewhere
      obtain ⟨rfl, rfl⟩ | ⟨_, place⟩ := process_putProcess place
      · obtain rfl | member := (mem_of_fillFirst fills).mp member
        · exact elsewhere rfl
        · exact missing ⟨process, known, entry, member, rfl⟩
      · exact missing ⟨holder, place, entry, member, rfl⟩
    obtain ⟨_, rfl⟩ | ⟨different, _⟩ := region_putRegion there
    · exact zero_clearBytes runtime.memory region.base region.length
    · exact absurd cleared different

theorem keeps_dmaMap (exclusive : Exclusive hhdmOffset runtime) :
    Ends (fun result => Exclusive hhdmOffset result.2 ∧ runtime.Handover result.2)
      (dmaMap hhdmOffset request) runtime := by
  have same : Exclusive hhdmOffset runtime ∧ runtime.Handover runtime :=
    ⟨exclusive, fun _ _ _ missing maps => absurd maps missing⟩
  unfold dmaMap
  refine .require_bind (fun _ => same) fun _ => .get_bind ?_
  refine .fromOption_bind (fun _ => same) fun id _ => ?_
  refine .fromOption_bind (fun _ => same) fun region here => ?_
  refine .fromOption_bind (fun _ => same) fun ⟨owner, process⟩ found => ?_
  refine .require_bind (fun _ => same) fun _ => .require_bind (fun _ => same) fun _ => ?_
  refine .fromOption_bind (fun _ => same) fun mapLen up => ?_
  refine .fromExcept_bind (fun _ _ => same) fun virtualBase _ => .ite (fun _ => ?_) fun absent => ?_
  · unfold Ends
    rw [exec_require]
    exact same
  · obtain rfl := alignUp_of_aligned (exclusive.aligned id region here).2 up
    have unmapped : process.dmaMapping id = none := by simpa using absent
    have new := DmaProcess.dmaMapping_eq_none.mp unmapped
    obtain ⟨_, known⟩ := currentProcess_eq_some found
    refine .lands_bind (ends_claimDmaRegion exclusive here known new) ?_ ?_
    · rintro _ _ rfl
      exact same
    · rintro _ _ ⟨free, rfl⟩
      have found : (runtime.putRegion id { region with
          mappedBy := owner, mapCount := region.mapCount + 1 }).currentProcess =
            some (owner, process) := found
      exact keeps_of_mapEnds exclusive here free known new (mapEnds_mapClaimed found unmapped _)

end Mapping

theorem keeps_perform (exclusive : Exclusive hhdmOffset runtime) (event : DmaEvent) :
    Exclusive hhdmOffset (runtime.perform hhdmOffset event) ∧
      runtime.Handover (runtime.perform hhdmOffset event) := by
  have keeps {after : DmaRuntime} (releasing : Releasing hhdmOffset runtime after) :
      Exclusive hhdmOffset after ∧ runtime.Handover after := by
    obtain ⟨exclusive, fewer⟩ := releasing exclusive
    exact ⟨exclusive, fewer.handover⟩
  cases event with
  | dmaMap request => exact keeps_dmaMap exclusive
  | exit status next reclaims => exact keeps (releasing_exitCurrentProcess status next)
  | fault next reclaims => exact keeps (releasing_faultCurrentProcess next)
  | kill pid reclaims => exact keeps releasing_killProcess
  | wait pid reclaims => exact keeps releasing_processWait
  | start pid reclaims loaded mounted => exact keeps (releasing_startProcess loaded mounted)
  | create template reclaims admitted placed granted loaded =>
    exact keeps (releasing_createProcess template admitted placed granted loaded)
  | schedule next => exact keeps (releasing_current (some next))
  | alter pid state => exact keeps (releasing_alterState state)
  | write address byte => exact keeps (releasing_writeWindow address byte)

theorem keeps_step (exclusive : Exclusive hhdmOffset runtime) (event : DmaEvent) :
    Exclusive hhdmOffset (runtime.step hhdmOffset event) ∧
      runtime.Handover (runtime.step hhdmOffset event) := by
  unfold DmaRuntime.step
  split
  · exact ⟨exclusive, fun _ _ _ missing maps => absurd maps missing⟩
  · exact keeps_perform exclusive event

theorem exclusive_run (exclusive : Exclusive hhdmOffset runtime) (events : List DmaEvent) :
    Exclusive hhdmOffset (runtime.run hhdmOffset events) := by
  induction events generalizing runtime with
  | nil => exact exclusive
  | cons first rest ih => exact ih (keeps_step exclusive first).1

def BootDmaRegionConfig.Apart (region other : BootDmaRegionConfig) : Prop :=
  region.base + region.length ≤ other.base ∨ other.base + other.length ≤ region.base

def BootDmaRegionConfig.Placed (region : BootDmaRegionConfig) : Prop :=
  region.length ≠ 0 ∧ region.base % frameSize = 0 ∧ region.length % frameSize = 0

theorem apart_of_validateApart {region prior : BootDmaRegionConfig} (filled : region.length ≠ 0)
    (priorFilled : prior.length ≠ 0) (valid : validateApart region prior = .ok ()) :
    prior.Apart region := by
  unfold validateApart at valid
  simp only [outcome_bind_ok] at valid
  obtain ⟨overlap, checked, valid⟩ := valid
  unfold bootRangesOverlap at checked
  rw [if_neg (by omega)] at checked
  split at checked
  · cases checked
  · cases checked
    split at valid
    · cases valid
    · rename_i disjoint
      simp only [decide_eq_true_eq] at disjoint
      unfold BootDmaRegionConfig.Apart
      omega

theorem forM_ok {α ε : Type} {check : α → Except ε Unit} {list : List α}
    (valid : list.forM check = .ok ()) : ∀ a ∈ list, check a = .ok () := by
  induction list with
  | nil => simp
  | cons first rest ih =>
    obtain ⟨_, passes, others⟩ := outcome_bind_ok.mp valid
    intro a member
    obtain rfl | member := List.mem_cons.mp member
    · exact passes
    · exact ih others a member

theorem placed_of_validateDmaRegion {earlier : List BootDmaRegionConfig}
    {region : BootDmaRegionConfig} (filled : ∀ prior ∈ earlier, prior.length ≠ 0)
    (valid : validateDmaRegion earlier region = .ok ()) :
    region.Placed ∧ ∀ prior ∈ earlier, prior.Apart region := by
  unfold validateDmaRegion at valid
  simp only [outcome_bind_ok] at valid
  obtain ⟨_, range, valid⟩ := valid
  unfold validateDeviceBootRange at range
  split at range
  · cases range
  split at range
  · cases range
  split at range
  · cases range
  split at valid
  · cases valid
  rename_i sized _ based whole
  refine ⟨⟨by omega, by simpa using based, by omega⟩, fun prior member => ?_⟩
  exact apart_of_validateApart (by omega) (filled prior member) (forM_ok valid prior member)

theorem placed_of_validateDmaRegions {earlier regions : List BootDmaRegionConfig}
    (filled : ∀ prior ∈ earlier, prior.length ≠ 0)
    (valid : validateDmaRegions earlier regions = .ok ()) :
    (∀ region ∈ regions, region.Placed ∧ ∀ prior ∈ earlier, prior.Apart region) ∧
      regions.Pairwise BootDmaRegionConfig.Apart := by
  induction regions generalizing earlier with
  | nil => simp
  | cons region rest ih =>
    unfold validateDmaRegions at valid
    simp only [outcome_bind_ok] at valid
    obtain ⟨_, first, valid⟩ := valid
    have placed := placed_of_validateDmaRegion filled first
    have allFilled : ∀ prior ∈ earlier ++ [region], prior.length ≠ 0 := by
      intro prior member
      obtain member | member := List.mem_append.mp member
      · exact filled prior member
      · rw [List.mem_singleton.mp member]
        exact placed.1.1
    obtain ⟨others, apart⟩ := ih allFilled valid
    refine ⟨fun other member => ?_, List.pairwise_cons.mpr ⟨fun other member => ?_, apart⟩⟩
    · obtain rfl | member := List.mem_cons.mp member
      · exact placed
      · obtain ⟨fits, behind⟩ := others other member
        exact ⟨fits, fun prior earlier => behind prior (List.mem_append_left _ earlier)⟩
    · exact (others other member).2 region (List.mem_append_right _ (List.mem_singleton.mpr rfl))

theorem exclusive_boot {regions : List BootDmaRegionConfig}
    (valid : validateDmaRegions [] regions = .ok ()) (hhdmOffset : Option Nat) (firstId cr3 : Nat)
    (memory : Image) : Exclusive hhdmOffset (DmaRuntime.boot firstId regions cr3 memory) := by
  obtain ⟨placed, apart⟩ := placed_of_validateDmaRegions (by simp) valid
  have region {id : KernelObjectId} {found : DmaRegionObject}
      (here : (DmaRuntime.boot firstId regions cr3 memory).region id = some found) :
      firstId ≤ id.raw ∧ ∃ config, regions[id.raw - firstId]? = some config ∧
        found = { name := config.id, base := config.base, length := config.length } := by
    simp only [DmaRuntime.boot] at here
    split at here
    · obtain ⟨config, listed, rfl⟩ := Option.map_eq_some_iff.mp here
      exact ⟨‹_›, config, listed, rfl⟩
    · cases here
  have process {pid : ProcessId} {found : DmaProcess}
      (here : (DmaRuntime.boot firstId regions cr3 memory).process pid = some found) :
      pid.raw = 1 ∧ found = { state := .running, cr3 } := by
    simp only [DmaRuntime.boot] at here
    split at here
    · cases here
      exact ⟨‹_›, rfl⟩
    · cases here
  have vacant {mapping : DmaUserMapping}
      (member : some mapping ∈ List.replicate maxObjects (none : Option DmaUserMapping)) : False :=
    nomatch List.eq_of_mem_replicate member
  refine ⟨?_, ?_, ?_, ?_, ?_, ?_, ?_, ?_, ?_, Nat.two_pos⟩
  · intro pid found here
    obtain ⟨first, _⟩ := process here
    refine ⟨?_, first ▸ Nat.one_lt_two⟩
    rintro rfl
    cases first
  · intro pid found here
    obtain ⟨_, rfl⟩ := process here
    exact List.length_replicate
  · intro pid found here i j one two atOne
    obtain ⟨_, rfl⟩ := process here
    exact (vacant (List.mem_of_getElem? atOne)).elim
  · intro pid found here mapping member
    obtain ⟨_, rfl⟩ := process here
    exact (vacant member).elim
  · intro id found here taken
    obtain ⟨_, _, _, rfl⟩ := region here
    exact absurd rfl taken
  · intro pid found here _ page frame shows
    obtain ⟨_, rfl⟩ := process here
    cases shows
  · rintro id found _ _ ⟨_, used⟩
    cases used
  · intro id found here
    obtain ⟨_, config, listed, rfl⟩ := region here
    exact (placed config (List.mem_of_getElem? listed)).1.2
  · intro id found here id' found' here' different
    obtain ⟨above, config, listed, rfl⟩ := region here
    obtain ⟨above', config', listed', rfl⟩ := region here'
    have places : id.raw - firstId ≠ id'.raw - firstId := by
      intro same
      refine different ?_
      cases id
      cases id'
      congr 1
      simp only at above above' same
      omega
    obtain ⟨inside, rfl⟩ := List.getElem?_eq_some_iff.mp listed
    obtain ⟨inside', rfl⟩ := List.getElem?_eq_some_iff.mp listed'
    rw [List.pairwise_iff_getElem] at apart
    obtain before | after := Nat.lt_or_gt_of_ne places
    · exact apart _ _ inside inside' before
    · exact (apart _ _ inside' inside after).symm

/-- A region is mapped by at most one process, the one it names, whose pages are the only ones
that show it.  Whoever gets it gets zeros, and it stays zero while nobody has it any more. -/
theorem dma_regions_exclusive {regions : List BootDmaRegionConfig}
    (valid : validateDmaRegions [] regions = .ok ()) (hhdmOffset : Option Nat) (firstId cr3 : Nat)
    (memory : Image) (events : List DmaEvent) :
    let runtime := (DmaRuntime.boot firstId regions cr3 memory).run hhdmOffset events
    (∀ id pid other, runtime.Maps pid id → runtime.Maps other id → pid = other) ∧
    (∀ id region, runtime.region id = some region → ∀ pid ≠ .empty,
      region.mappedBy = pid ↔ runtime.Maps pid id) ∧
    (∀ pid process, runtime.process pid = some process → process.state ≠ .exited →
      ∀ page frame, process.window page = some frame → ∃ id region,
        runtime.region id = some region ∧ region.mappedBy = pid ∧
        region.base ≤ frame * frameSize ∧ (frame + 1) * frameSize ≤ region.base + region.length) ∧
    (∀ id region, runtime.region id = some region → region.mappedBy = .empty →
      (∃ pid, (pid, id) ∈ runtime.accepted) → Zero runtime.memory region.base region.length) ∧
    ∀ event pid id region, ¬runtime.Maps pid id → (runtime.step hhdmOffset event).Maps pid id →
      (runtime.step hhdmOffset event).region id = some region →
      Zero (runtime.step hhdmOffset event).memory region.base region.length := by
  intro runtime
  have exclusive : Exclusive hhdmOffset runtime :=
    exclusive_run (exclusive_boot valid hhdmOffset firstId cr3 memory) events
  have owner {pid : ProcessId} {id : KernelObjectId} (maps : runtime.Maps pid id) :
      ∃ region, runtime.region id = some region ∧ region.mappedBy = pid := by
    obtain ⟨process, here, mapping, member, rfl⟩ := maps
    obtain ⟨region, known, _, _, mappedBy, _⟩ := exclusive.named pid process here mapping member
    exact ⟨region, known, mappedBy⟩
  refine ⟨?_, ?_, ?_, exclusive.clean, ?_⟩
  · intro id pid other maps alsoMaps
    obtain ⟨region, known, mappedBy⟩ := owner maps
    obtain ⟨_, same, alsoMappedBy⟩ := owner alsoMaps
    cases known.symm.trans same
    exact mappedBy.symm.trans alsoMappedBy
  · intro id region known pid named
    constructor
    · rintro rfl
      exact exclusive.owned id region known named
    · intro maps
      obtain ⟨_, same, mappedBy⟩ := owner maps
      cases known.symm.trans same
      exact mappedBy
  · intro pid process here alive page frame shows
    obtain ⟨mapping, member, starts, stops⟩ := exclusive.shown pid process here alive page frame shows
    obtain ⟨region, known, base, length, mappedBy, _⟩ :=
      exclusive.named pid process here mapping member
    refine ⟨mapping.region, region, known, mappedBy, ?_, ?_⟩
    · rwa [base]
    · rwa [base, length]
  · intro event pid id region
    exact (keeps_step exclusive event).2 pid id region

def driverRun : DmaRuntime :=
  (DmaRuntime.boot 5 [⟨"dma", 0x100000, frameSize⟩] 0x1000 fun _ => 7).run (some 0)
    [.dmaMap ⟨0, 24, some ⟨5⟩, true, true, fun _ => true, true⟩]

theorem dma_regions_exclusive_driverRun :
    driverRun.Maps ⟨1⟩ ⟨5⟩ ∧ ∀ other, driverRun.Maps other ⟨5⟩ → other = ⟨1⟩ := by
  have valid : validateDmaRegions [] [⟨"dma", 0x100000, frameSize⟩] = .ok () := by decide
  have mapped : (driverRun.process ⟨1⟩).bind (DmaProcess.dmaMapping · ⟨5⟩) ≠ none := by decide
  have maps : driverRun.Maps ⟨1⟩ ⟨5⟩ := by
    cases here : driverRun.process ⟨1⟩ with
    | none => exact absurd (by rw [here]; rfl) mapped
    | some process =>
      refine ⟨process, here, not_not.mp fun missing => mapped ?_⟩
      rw [here]
      exact DmaProcess.dmaMapping_eq_none.mpr missing
  exact ⟨maps, fun other alsoMaps => (dma_regions_exclusive valid (some 0) 5 0x1000 (fun _ => 7)
    [.dmaMap ⟨0, 24, some ⟨5⟩, true, true, fun _ => true, true⟩]).1 ⟨5⟩ other ⟨1⟩ alsoMaps maps⟩

end VertexOS.DmaMappings
