import VertexOS.ProcessSyscalls

/-! # New objects and new capabilities -/

namespace VertexOS

open FailingCalls SlotTables

namespace ObjectTable

variable {table after : ObjectTable}

/-- The table with one new object, which has the next identifier. -/
def AddsOne (table after : ObjectTable) : Prop :=
  ∃ object : KernelObject, after.nextId = table.nextId + 1 ∧ object.id = ⟨table.nextId⟩ ∧
    ∀ other, some other ∈ after.objects ↔ other = object ∨ some other ∈ table.objects

section

variable {ε : Type} {full : ε} {make : KernelObjectId → KernelObject}
  {made : ∀ id, (make id).id = id} {id : KernelObjectId}

theorem append_ok (added : table.append full make made = .ok (id, after)) :
    id = ⟨table.nextId⟩ ∧ after.nextId = table.nextId + 1 ∧
      ∀ other, some other ∈ after.objects ↔ other = make id ∨ some other ∈ table.objects := by
  unfold append at added
  split at added
  · cases added
    exact ⟨rfl, rfl, by simp [or_comm]⟩
  · cases added

theorem insert_ok (added : table.insert full make made = .ok (id, after)) :
    id = ⟨table.nextId⟩ ∧ after.nextId = table.nextId + 1 ∧
      ∀ other, some other ∈ after.objects ↔ other = make id ∨ some other ∈ table.objects := by
  unfold insert at added
  split at added
  · rename_i slots filled
    cases added
    exact ⟨rfl, rfl, fun _ => mem_of_fillFirst filled⟩
  · exact append_ok added

theorem addsOne_append (added : table.append full make made = .ok (id, after)) :
    AddsOne table after := by
  obtain ⟨isNext, next, members⟩ := append_ok added
  exact ⟨make id, next, (made id).trans isNext, members⟩

theorem addsOne_insert (added : table.insert full make made = .ok (id, after)) :
    AddsOne table after := by
  obtain ⟨isNext, next, members⟩ := insert_ok added
  exact ⟨make id, next, (made id).trans isNext, members⟩

theorem addsOne_addEndpoint {name : String} (added : table.addEndpoint name = .ok (id, after)) :
    AddsOne table after := by
  unfold addEndpoint addEndpointOwned at added
  exact addsOne_insert added

theorem addsOne_addVfsRoot {name rootPath : String}
    (added : table.addVfsRoot name rootPath = .ok (id, after)) : AddsOne table after := by
  unfold addVfsRoot at added
  split at added
  · cases added
  · obtain ⟨path, _, added⟩ := outcome_bind_ok.mp added
    exact addsOne_append added

end

end ObjectTable

theorem newCapability_ok {before after : RuntimeState} {cap : Capability}
    {object : KernelObjectId} {rights : Rights} {owner delegatedBy : ProcessId} {parentCapId : Nat}
    (made : before.newCapability object rights owner parentCapId delegatedBy = .ok (cap, after)) :
    before.ledger.allocate parentCapId = .ok (cap.id, after.ledger) ∧ cap.object = object ∧
      cap.rights = rights ∧ cap.parentCapId = parentCapId ∧
      after = { before with ledger := after.ledger } := by
  obtain ⟨⟨id, ledger⟩, allocated, result⟩ := outcome_bind_ok.mp made
  cases result
  exact ⟨allocated, rfl, rfl, rfl, rfl⟩

end VertexOS
