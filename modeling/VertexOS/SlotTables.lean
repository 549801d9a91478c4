import Mathlib.Data.List.DropRight
import Mathlib.Data.List.ReduceOption
import Mathlib.Data.Multiset.Filter
import Mathlib.Tactic

/-!
# Tables of slots

Tables of optional entries, where the first free slot is taken.
-/

namespace SlotTables

abbrev Slots (α : Type) := List (Option α)

variable {α β : Type}

def fillFirst (entry : α) : Slots α → Option (Slots α)
  | [] => none
  | none :: rest => some (some entry :: rest)
  | some other :: rest => (fillFirst entry rest).map (some other :: ·)

def clearFirst (wanted : α → Bool) : Slots α → Slots α
  | [] => []
  | none :: rest => none :: clearFirst wanted rest
  | some entry :: rest =>
    if wanted entry then none :: rest else some entry :: clearFirst wanted rest

def clearAll (wanted : α → Bool) (slots : Slots α) : Slots α :=
  slots.map (Option.filter fun entry => !wanted entry)

def changeFirst (wanted : α → Bool) (change : α → α) : List α → List α
  | [] => []
  | first :: rest =>
    if wanted first then change first :: rest else first :: changeFirst wanted change rest

def updateFirst (wanted : α → Bool) (change : α → α) (slots : Slots α) : Slots α :=
  changeFirst (Option.any wanted) (Option.map change) slots

def updateLast (wanted : α → Bool) (change : α → α) (slots : Slots α) : Slots α :=
  (updateFirst wanted change slots.reverse).reverse

def trimEmptyTail (slots : Slots α) : Slots α :=
  slots.rdropWhile Option.isNone

def select (choose : α → Option β) (slots : Slots α) : Option β :=
  slots.findSome? fun slot => slot.bind choose

section

variable (wanted : α → Bool) (change : α → α) (slots : Slots α)

theorem length_of_fillFirst {entry : α} {slots filled : Slots α}
    (fills : fillFirst entry slots = some filled) : filled.length = slots.length := by
  induction slots generalizing filled with
  | nil => cases fills
  | cons slot rest ih =>
    cases slot with
    | none =>
      cases fills
      rfl
    | some other =>
      obtain ⟨tail, tailFills, rfl⟩ := Option.map_eq_some_iff.mp fills
      simp [ih tailFills]

@[simp]
theorem length_clearFirst : (clearFirst wanted slots).length = slots.length := by
  induction slots with
  | nil => rfl
  | cons slot rest ih =>
    cases slot with
    | none => simp [clearFirst, ih]
    | some entry =>
      simp only [clearFirst]
      split <;> simp [ih]

@[simp]
theorem length_clearAll : (clearAll wanted slots).length = slots.length := by
  simp [clearAll]

@[simp]
theorem length_changeFirst (list : List α) :
    (changeFirst wanted change list).length = list.length := by
  induction list with
  | nil => rfl
  | cons first rest ih =>
    simp only [changeFirst]
    split <;> simp [ih]

@[simp]
theorem length_updateFirst : (updateFirst wanted change slots).length = slots.length :=
  length_changeFirst ..

theorem length_trimEmptyTail_le : (trimEmptyTail slots).length ≤ slots.length :=
  (List.rdropWhile_prefix _ slots).length_le

end

variable {wanted : α → Bool} {slots : Slots α}

section

variable {entry other : α}

theorem mem_of_fillFirst {filled : Slots α} (fills : fillFirst entry slots = some filled) :
    some other ∈ filled ↔ other = entry ∨ some other ∈ slots := by
  induction slots generalizing filled with
  | nil => cases fills
  | cons slot rest ih =>
    cases slot with
    | none =>
      cases fills
      simp
    | some first =>
      obtain ⟨tail, tailFills, rfl⟩ := Option.map_eq_some_iff.mp fills
      simp only [List.mem_cons, Option.some.injEq, ih tailFills]
      tauto

theorem fillFirst_eq_none {entry : α} : fillFirst entry slots = none ↔ none ∉ slots := by
  induction slots with
  | nil => simp [fillFirst]
  | cons slot rest ih => cases slot <;> simp [fillFirst, ih]

theorem mem_of_mem_clearFirst (member : some entry ∈ clearFirst wanted slots) :
    some entry ∈ slots := by
  induction slots with
  | nil => simp [clearFirst] at member
  | cons slot rest ih =>
    cases slot with
    | none =>
      simp only [clearFirst, List.mem_cons, reduceCtorEq, false_or] at member
      simp [ih member]
    | some first =>
      simp only [clearFirst] at member
      split at member
      · simp_all
      · simp only [List.mem_cons, Option.some.injEq] at member ⊢
        exact member.imp id ih

theorem mem_of_mem_clearAll (member : some entry ∈ clearAll wanted slots) : some entry ∈ slots := by
  obtain ⟨slot, inSlots, kept⟩ := List.mem_map.mp member
  obtain ⟨rfl, _⟩ := Option.filter_eq_some_iff.mp kept
  exact inSlots

theorem mem_of_mem_trimEmptyTail (member : some entry ∈ trimEmptyTail slots) : some entry ∈ slots :=
  (List.rdropWhile_prefix _ slots).subset member

theorem mem_changeFirst {change : α → α} {list : List α}
    (member : entry ∈ changeFirst wanted change list) :
    entry ∈ list ∨ ∃ old ∈ list, wanted old ∧ entry = change old := by
  induction list with
  | nil => simp [changeFirst] at member
  | cons first rest ih =>
    simp only [changeFirst] at member
    split at member
    · rename_i isWanted
      rcases List.mem_cons.mp member with rfl | inRest
      · exact .inr ⟨first, by simp, isWanted, rfl⟩
      · exact .inl (by simp [inRest])
    · rcases List.mem_cons.mp member with rfl | inRest
      · exact .inl (by simp)
      · rcases ih inRest with inRest | ⟨old, inRest, changed⟩
        · exact .inl (by simp [inRest])
        · exact .inr ⟨old, by simp [inRest], changed⟩

theorem mem_updateFirst {change : α → α} (member : some entry ∈ updateFirst wanted change slots) :
    some entry ∈ slots ∨ ∃ old, some old ∈ slots ∧ entry = change old := by
  rcases mem_changeFirst member with kept | ⟨slot, inSlots, _, changed⟩
  · exact .inl kept
  · obtain ⟨old, rfl, rfl⟩ := Option.map_eq_some_iff.mp changed.symm
    exact .inr ⟨old, inSlots, rfl⟩

end

section

variable {entry : α} {place : Nat}

theorem eq_set_of_fillFirst {new : α} {filled : Slots α} (fills : fillFirst new slots = some filled) :
    ∃ place, filled = slots.set place (some new) ∧ place < slots.length := by
  induction slots generalizing filled with
  | nil => cases fills
  | cons slot rest ih =>
    cases slot with
    | none =>
      cases fills
      exact ⟨0, rfl, Nat.succ_pos _⟩
    | some other =>
      obtain ⟨tail, tailFills, rfl⟩ := Option.map_eq_some_iff.mp fills
      obtain ⟨place, rfl, inside⟩ := ih tailFills
      exact ⟨place + 1, rfl, Nat.succ_lt_succ inside⟩

end

section

variable {change other : α → α} {list : List α}

end

section

variable {related : α → α → Prop} [Std.Refl related] {change : α → α} {list : List α}

theorem forall₂_changeFirst {wanted : α → Bool}
    (changed : ∀ first, list.find? wanted = some first → related first (change first)) :
    List.Forall₂ related list (changeFirst wanted change list) := by
  induction list with
  | nil => exact .nil
  | cons first rest ih =>
    simp only [changeFirst]
    split
    · rename_i isWanted
      exact .cons (changed first (List.find?_cons_of_pos isWanted)) (List.forall₂_refl rest)
    · rename_i unwanted
      refine .cons (refl_of related first) (ih fun other found => changed other ?_)
      rw [List.find?_cons_of_neg unwanted, found]

theorem forall₂_modify {place : Nat}
    (changed : ∀ entry, list[place]? = some entry → related entry (change entry)) :
    List.Forall₂ related list (list.modify place change) := by
  induction list generalizing place with
  | nil => simp
  | cons first rest ih =>
    cases place with
    | zero => exact .cons (changed first rfl) (List.forall₂_refl rest)
    | succ place => exact .cons (refl_of related first) (ih fun entry here => changed entry here)

end

section

variable {choose : α → Option β}

theorem mem_of_select {value : β} (found : select choose slots = some value) :
    ∃ entry, some entry ∈ slots ∧ choose entry = some value := by
  obtain ⟨slot, member, chosen⟩ := List.exists_of_findSome?_eq_some found
  obtain ⟨entry, rfl, chosen⟩ := Option.bind_eq_some_iff.mp chosen
  exact ⟨entry, member, chosen⟩

theorem select_append (left right : Slots α) :
    select choose (left ++ right) = (select choose left).or (select choose right) := by
  simp [select, List.findSome?_append]

theorem select_trimEmptyTail : select choose (trimEmptyTail slots) = select choose slots := by
  induction slots using List.reverseRecOn with
  | nil => rfl
  | append_singleton rest slot ih =>
    cases slot with
    | some entry => rw [trimEmptyTail, List.rdropWhile_concat_neg _ _ _ (by simp)]
    | none =>
      rw [trimEmptyTail, List.rdropWhile_concat_pos _ _ _ rfl, ← trimEmptyTail, ih, select_append]
      simp [select]

theorem select_clearFirst_of_kept {wanted : α → Bool} {value : β}
    (found : select choose slots = some value)
    (kept : ∀ entry, choose entry = some value → wanted entry = false) :
    select choose (clearFirst wanted slots) = some value := by
  unfold select at found ⊢
  induction slots with
  | nil => exact found
  | cons slot rest ih =>
    cases slot with
    | none => simpa [clearFirst] using ih (by simpa using found)
    | some entry =>
    cases chosen : choose entry with
    | some result =>
      obtain rfl : result = value := by simpa [chosen] using found
      simp [clearFirst, kept entry chosen, chosen]
    | none =>
      have found : rest.findSome? (fun slot => slot.bind choose) = some value := by
        simpa [chosen] using found
      simp only [clearFirst]
      split
      · simpa using found
      · simpa [chosen] using ih found

theorem select_clearAll_of_kept {wanted : α → Bool} {value : β}
    (found : select choose slots = some value)
    (kept : ∀ entry, choose entry = some value → wanted entry = false) :
    select choose (clearAll wanted slots) = some value := by
  unfold select at found ⊢
  induction slots with
  | nil => exact found
  | cons slot rest ih =>
    cases slot with
    | none => simpa [clearAll] using ih (by simpa using found)
    | some entry =>
    cases chosen : choose entry with
    | some result =>
      obtain rfl : result = value := by simpa [chosen] using found
      simp [clearAll, Option.filter_some, kept entry chosen, chosen]
    | none =>
      have found : rest.findSome? (fun slot => slot.bind choose) = some value := by
        simpa [chosen] using found
      have left := ih found
      by_cases isWanted : wanted entry = true
      · simpa [clearAll, Option.filter_some, isWanted] using left
      · simpa [clearAll, Option.filter_some, isWanted, chosen] using left

theorem select_updateFirst {wanted : α → Bool} {change : α → α}
    (unseen : ∀ entry, wanted entry = true → choose entry = none ∧ choose (change entry) = none) :
    select choose (updateFirst wanted change slots) = select choose slots := by
  unfold select updateFirst
  induction slots with
  | nil => rfl
  | cons slot rest ih =>
    simp only [changeFirst]
    split
    · cases slot with
      | none => simp_all
      | some entry =>
        obtain ⟨before, after⟩ := unseen entry (by simpa using ‹_›)
        simp [before, after]
    · simp only [List.findSome?_cons, ih]

theorem select_updateFirst_self {change : α → α} {value result : β}
    (found : select choose slots = some value)
    (changed : ∀ entry, choose entry = some value → choose (change entry) = some result) :
    select choose (updateFirst (fun entry => (choose entry).isSome) change slots) = some result := by
  unfold select updateFirst at *
  induction slots with
  | nil => cases found
  | cons slot rest ih =>
    cases slot with
    | none => simpa [changeFirst] using ih (by simpa using found)
    | some entry =>
      cases chosen : choose entry with
      | none => simpa [changeFirst, chosen] using ih (by simpa [chosen] using found)
      | some other =>
        obtain rfl : other = value := by simpa [chosen] using found
        simp [changeFirst, chosen, changed entry chosen]

theorem select_fillFirst {entry : α} {filled : Slots α}
    (fills : fillFirst entry slots = some filled) (unseen : choose entry = none) :
    select choose filled = select choose slots := by
  unfold select
  induction slots generalizing filled with
  | nil => cases fills
  | cons slot rest ih =>
    cases slot with
    | none =>
      cases fills
      simp [unseen]
    | some other =>
      obtain ⟨restFilled, restFills, rfl⟩ := Option.map_eq_some_iff.mp fills
      simp only [List.findSome?_cons, ih restFills]

/-! What a function picks out of all slots does not change with entries it does not see. -/

section

variable {pick : Option α → Option β} {wanted : α → Bool} (empty : pick none = none)

include empty

omit empty

end

end

/-! ## Tables as collections

Where an entry stands is often of no interest; then a table is the collection of
its entries, with each entry as often as it is there. -/

def contents (slots : Slots α) : Multiset α := slots.reduceOption

section

variable {entry : α}

@[simp]
theorem contents_nil : contents ([] : Slots α) = 0 :=
  rfl

@[simp]
theorem contents_cons_none : contents (none :: slots) = contents slots :=
  rfl

@[simp]
theorem contents_cons_some : contents (some entry :: slots) = entry ::ₘ contents slots :=
  rfl

@[simp]
theorem contents_append (left right : Slots α) :
    contents (left ++ right) = contents left + contents right := by
  simp [contents, List.reduceOption_append]

theorem card_contents_eq_length : (contents slots).card = slots.length ↔ none ∉ slots := by
  rw [contents, Multiset.coe_card, List.reduceOption_length_eq_iff]
  simp [← Option.ne_none_iff_isSome, List.forall_mem_ne']

theorem contents_fillFirst {filled : Slots α} (fills : fillFirst entry slots = some filled) :
    contents filled = entry ::ₘ contents slots := by
  induction slots generalizing filled with
  | nil => cases fills
  | cons slot rest ih =>
    cases slot with
    | none =>
      cases fills
      rfl
    | some other =>
      obtain ⟨tail, tailFills, rfl⟩ := Option.map_eq_some_iff.mp fills
      rw [contents_cons_some, contents_cons_some, ih tailFills, Multiset.cons_swap]

theorem contents_trimEmptyTail (slots : Slots α) :
    contents (trimEmptyTail slots) = contents slots := by
  induction slots using List.reverseRecOn with
  | nil => rfl
  | append_singleton rest slot ih =>
    unfold trimEmptyTail at ih ⊢
    cases slot with
    | some other => rw [List.rdropWhile_concat_neg _ _ _ (by simp)]
    | none => rw [List.rdropWhile_concat_pos _ _ _ rfl, ih, contents_append]; simp

theorem contents_clearFirst_le (wanted : α → Bool) (slots : Slots α) :
    contents (clearFirst wanted slots) ≤ contents slots := by
  induction slots with
  | nil => rfl
  | cons slot rest ih =>
    cases slot with
    | none => simpa [clearFirst] using ih
    | some entry =>
      simp only [clearFirst]
      split
      · simpa using Multiset.le_cons_self (contents rest) entry
      · simpa using ih

theorem contents_map_updateFirst {wanted : α → Bool} {change : α → α} {part : α → β}
    (kept : ∀ entry, part (change entry) = part entry) (slots : Slots α) :
    (contents (updateFirst wanted change slots)).map part = (contents slots).map part := by
  unfold updateFirst
  induction slots with
  | nil => rfl
  | cons slot rest ih =>
    cases slot with
    | none => simpa [changeFirst] using ih
    | some entry =>
      simp only [changeFirst]
      split
      · simp [kept]
      · simpa using ih

theorem contents_clearAll (slots : Slots α) :
    contents (clearAll wanted slots) = (contents slots).filter fun other => wanted other = false := by
  induction slots with
  | nil => rfl
  | cons slot rest ih =>
    unfold clearAll at ih ⊢
    cases slot with
    | none => simpa using ih
    | some other =>
    rw [List.map_cons, contents_cons_some]
    cases isWanted : wanted other with
    | false =>
      have kept : (some other).filter (fun entry => !wanted entry) = some other := by
        simp [Option.filter, isWanted]
      rw [kept, contents_cons_some, ih]
      exact (Multiset.filter_cons_of_pos (contents rest) isWanted).symm
    | true =>
      have dropped : (some other).filter (fun entry => !wanted entry) = none := by
        simp [Option.filter, isWanted]
      rw [dropped, contents_cons_none, ih]
      exact (Multiset.filter_cons_of_neg (contents rest) (by simp [isWanted])).symm

end

end SlotTables
