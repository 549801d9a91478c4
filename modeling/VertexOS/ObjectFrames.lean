import VertexOS.VfsMountSyscalls

/-! # What a change of the object table leaves alone -/

namespace VertexOS

open ByteStrings SlotTables

namespace ObjectTable

/-- An endpoint of the boot stays what it is. -/
def Leaves (endpoint : KernelObjectId) (table after : ObjectTable) : Prop :=
  ∀ object, table.getEndpoint endpoint = some object → object.owner = .empty →
    after.getEndpoint endpoint = some object

variable {endpoint : KernelObjectId} {table after : ObjectTable}

instance : IsTrans ObjectTable (Leaves endpoint) :=
  ⟨fun _ _ _ one two object found boot => two object (one object found boot) boot⟩

instance : Std.Refl (Leaves endpoint) := ⟨fun _ _ found _ => found⟩

theorem eq_of_endpointWithId {object : KernelObject} {found : IpcEndpoint}
    (chosen : endpointWithId endpoint object = some found) :
    object = .ipcEndpoint found ∧ found.id = endpoint := by
  cases object with
  | ipcEndpoint other =>
    simp only [endpointWithId, Option.ite_none_right_eq_some, Option.some.injEq] at chosen
    obtain ⟨isId, rfl⟩ := chosen
    exact ⟨rfl, isId⟩
  | _ => cases chosen

theorem lt_of_getEndpoint {object : IpcEndpoint} (found : table.getEndpoint endpoint = some object) :
    endpoint.raw < table.nextId := by
  obtain ⟨entry, member, chosen⟩ := mem_of_select found
  obtain ⟨rfl, rfl⟩ := eq_of_endpointWithId chosen
  exact table.id_lt _ member

section

variable {wanted : KernelObject → Bool}
  (spares : ∀ object : IpcEndpoint, object.owner = .empty → wanted (.ipcEndpoint object) = false)

include spares

theorem leaves_removeFirst : Leaves endpoint table (table.removeFirst wanted) := by
  intro object found boot
  refine select_trimEmptyTail.trans (select_clearFirst_of_kept found fun entry chosen => ?_)
  obtain ⟨rfl, _⟩ := eq_of_endpointWithId chosen
  exact spares object boot

theorem leaves_removeAll : Leaves endpoint table (table.removeAll wanted) := by
  intro object found boot
  refine select_trimEmptyTail.trans (select_clearAll_of_kept found fun entry chosen => ?_)
  obtain ⟨rfl, _⟩ := eq_of_endpointWithId chosen
  exact spares object boot

end

theorem leaves_removeOwnedEndpoints {owner : ProcessId} (someone : owner ≠ .empty) :
    Leaves endpoint table (table.removeOwnedEndpoints owner) :=
  leaves_removeAll fun _ boot => by simp [isEndpointOf, boot, someone.symm]

theorem leaves_removeOwnedEndpoint {id : KernelObjectId} {owner : ProcessId}
    (someone : owner ≠ .empty) : Leaves endpoint table (table.removeOwnedEndpoint id owner) :=
  leaves_removeFirst fun _ boot => by simp [isOwnedEndpoint, boot, someone.symm]

theorem leaves_removeFirstDynamicMount (wanted : VfsMountObject → Bool) :
    Leaves endpoint table (table.removeFirstDynamicMount wanted).2 := by
  unfold removeFirstDynamicMount
  split
  · exact refl_of (Leaves endpoint) table
  · exact leaves_removeFirst fun _ _ => rfl

section

variable {ε : Type} {full : ε} {make : KernelObjectId → KernelObject}
  {made : ∀ id, (make id).id = id} {id : KernelObjectId}

theorem endpointWithId_new {object : IpcEndpoint} (found : table.getEndpoint endpoint = some object)
    (made : ∀ id, (make id).id = id) : endpointWithId endpoint (make ⟨table.nextId⟩) = none := by
  refine Option.eq_none_iff_forall_ne_some.mpr fun other chosen => ?_
  obtain ⟨isEndpoint, isId⟩ := eq_of_endpointWithId chosen
  have same : endpoint = ⟨table.nextId⟩ := by
    rw [← made ⟨table.nextId⟩, isEndpoint, ← isId]
    rfl
  exact absurd (lt_of_getEndpoint found) (by simp [same])

theorem leaves_append (added : table.append full make made = .ok (id, after)) :
    Leaves endpoint table after := by
  intro object found _
  unfold append at added
  split at added
  · cases added
    rw [getEndpoint, lookup, select_append, ← lookup, ← getEndpoint, found, Option.some_or]
  · cases added

theorem leaves_insert (added : table.insert full make made = .ok (id, after)) :
    Leaves endpoint table after := by
  intro object found boot
  unfold insert at added
  split at added
  · rename_i fills
    cases added
    exact (select_fillFirst fills (endpointWithId_new found made)).trans found
  · exact leaves_append added object found boot

end

section

variable {wanted : KernelObject → Bool} {change : KernelObject → KernelObject}
  {kept : ∀ object, (change object).id = object.id}

theorem leaves_modifyFirst (unseen : ∀ object, wanted object = true →
      endpointWithId endpoint object = none ∧ endpointWithId endpoint (change object) = none) :
    Leaves endpoint table (table.modifyFirst wanted change kept) :=
  fun _ found _ => (select_updateFirst unseen).trans found

theorem leaves_setEndpointQueue {other : KernelObjectId} (apart : other ≠ endpoint)
    (queue : MessageQueue) : Leaves endpoint table (table.setEndpointQueue other queue) := by
  refine leaves_modifyFirst fun object isOther => ?_
  cases object with
  | ipcEndpoint found =>
    have isId : found.id = other := by simpa [endpointWithId] using isOther
    simp [endpointWithId, isId, apart]
  | _ => cases isOther

theorem getEndpoint_setEndpointQueue {object : IpcEndpoint}
    (found : table.getEndpoint endpoint = some object) (queue : MessageQueue) :
    (table.setEndpointQueue endpoint queue).getEndpoint endpoint = some { object with queue } := by
  refine select_updateFirst_self found fun entry chosen => ?_
  obtain ⟨rfl, isId⟩ := eq_of_endpointWithId chosen
  simp [endpointWithId, isId]

theorem leaves_setPortQueue (id : KernelObjectId) (queue : MessageQueue) :
    Leaves endpoint table (table.setPortQueue id queue) := by
  refine leaves_modifyFirst fun object isPort => ?_
  cases object with
  | networkPort => exact ⟨rfl, rfl⟩
  | _ => cases isPort

theorem leaves_setLineCounts (id : KernelObjectId) (pendingCount deliveredCount : Nat) :
    Leaves endpoint table (table.setLineCounts id pendingCount deliveredCount) := by
  refine leaves_modifyFirst fun object isLine => ?_
  cases object with
  | interruptLine => exact ⟨rfl, rfl⟩
  | _ => cases isLine

end

end ObjectTable

end VertexOS
