import Mathlib.Data.List.Basic

/-!
# Arrays that are kept compact

An array with a count, whose removals shift the rest down, refines a list.
-/

namespace CompactArrays

structure Compact (α : Type) where
  items : Nat → α
  len : Nat

namespace Compact

variable {α : Type}

def toList (array : Compact α) : List α :=
  (List.range array.len).map array.items

def push (array : Compact α) (item : α) : Compact α :=
  ⟨Function.update array.items array.len item, array.len + 1⟩

/-- Move `left` items down by a place, the first of them to `place`. -/
def shiftDown (items : Nat → α) (place : Nat) : (left : Nat) → Nat → α
  | 0 => items
  | left + 1 => shiftDown (Function.update items place (items (place + 1))) (place + 1) left

/-- Take the item at a place out, and leave a blank one behind the last. -/
def removeAt (blank : α) (array : Compact α) (place : Nat) : Compact α :=
  let items := shiftDown array.items place (array.len - 1 - place)
  ⟨Function.update items (array.len - 1) blank, array.len - 1⟩

/-- The first place from `place` on, among `left` many, whose item is wanted. -/
def positionFrom (wanted : α → Bool) (array : Compact α) (place : Nat) : (left : Nat) → Option Nat
  | 0 => none
  | left + 1 =>
    if wanted (array.items place) then some place
    else positionFrom wanted array (place + 1) left

def position (wanted : α → Bool) (array : Compact α) : Option Nat :=
  array.positionFrom wanted 0 array.len

def takeFirst (blank : α) (wanted : α → Bool) (array : Compact α) : Option (α × Compact α) :=
  (array.position wanted).map fun place => (array.items place, array.removeAt blank place)

/-- Take out every wanted item from `place` on, looking at `left` more items, and count them. -/
def removeAllFrom (blank : α) (wanted : α → Bool) (array : Compact α) (place removed : Nat) :
    (left : Nat) → Nat × Compact α
  | 0 => (removed, array)
  | left + 1 =>
    if wanted (array.items place) then
      removeAllFrom blank wanted (array.removeAt blank place) place (removed + 1) left
    else removeAllFrom blank wanted array (place + 1) removed left

def removeAll (blank : α) (wanted : α → Bool) (array : Compact α) : Nat × Compact α :=
  array.removeAllFrom blank wanted 0 0 array.len

variable (array : Compact α)

@[simp]
theorem length_toList : array.toList.length = array.len := by
  simp [toList]

theorem getElem?_toList {place : Nat} (inside : place < array.len) :
    array.toList[place]? = some (array.items place) := by
  simp [toList, inside]

@[simp]
theorem toList_push (item : α) : (array.push item).toList = array.toList ++ [item] := by
  unfold toList push
  simp only [List.range_succ, List.map_append, List.map_cons, List.map_nil, Function.update_self]
  congr 1
  refine List.map_congr_left fun place inside => ?_
  exact Function.update_of_ne (Nat.ne_of_lt (List.mem_range.mp inside)) ..

theorem shiftDown_apply (items : Nat → α) (place left index : Nat) :
    shiftDown items place left index =
      if place ≤ index ∧ index < place + left then items (index + 1) else items index := by
  induction left generalizing items place with
  | zero => rw [shiftDown, if_neg (by omega)]
  | succ left ih =>
    rw [shiftDown, ih]
    by_cases first : index = place
    · subst first
      rw [if_neg (by omega), if_pos (by omega), Function.update_self]
    · rw [Function.update_of_ne first]
      by_cases later : place + 1 ≤ index ∧ index < place + 1 + left
      · rw [if_pos later, if_pos (by omega), Function.update_of_ne (by omega)]
      · rw [if_neg later, if_neg (by omega)]

theorem items_removeAt (blank : α) {place index : Nat} (inside : index < array.len - 1) :
    (array.removeAt blank place).items index =
      if place ≤ index then array.items (index + 1) else array.items index := by
  have shifted : (array.removeAt blank place).items index =
      shiftDown array.items place (array.len - 1 - place) index :=
    Function.update_of_ne (Nat.ne_of_lt inside) ..
  rw [shifted, shiftDown_apply]
  by_cases behind : place ≤ index
  · rw [if_pos (by omega), if_pos behind]
  · rw [if_neg (by omega), if_neg behind]

theorem toList_removeAt (blank : α) {place : Nat} (inside : place < array.len) :
    (array.removeAt blank place).toList = array.toList.eraseIdx place := by
  refine List.ext_getElem? fun index => ?_
  rw [List.getElem?_eraseIdx]
  have shorter : (array.removeAt blank place).len = array.len - 1 := rfl
  by_cases kept : index < array.len - 1
  · rw [getElem?_toList _ (shorter ▸ kept), items_removeAt array blank kept]
    by_cases before : index < place
    · rw [if_pos before, if_neg (by omega), getElem?_toList _ (by omega)]
    · rw [if_neg before, if_pos (by omega), getElem?_toList _ (by omega)]
  · rw [List.getElem?_eq_none (by rw [length_toList, shorter]; omega), if_neg (by omega),
      List.getElem?_eq_none (by rw [length_toList]; omega)]

theorem positionFrom_eq (wanted : α → Bool) {place left : Nat} (all : place + left = array.len) :
    array.positionFrom wanted place left =
      ((array.toList.drop place).findIdx? wanted).map (place + ·) := by
  induction left generalizing place with
  | zero => simp [positionFrom, List.drop_eq_nil_of_le, ← all]
  | succ left ih =>
    have inside : place < array.toList.length := by rw [length_toList]; omega
    have here : array.toList[place] = array.items place := by simp [toList]
    rw [positionFrom, List.drop_eq_getElem_cons inside, List.findIdx?_cons, here]
    split
    · rfl
    rw [ih (by omega), Option.map_map]
    congr 1
    funext index
    exact Nat.add_right_comm ..

theorem position_eq (wanted : α → Bool) : array.position wanted = array.toList.findIdx? wanted := by
  rw [position, positionFrom_eq array wanted (Nat.zero_add _), List.drop_zero]
  simp

theorem takeFirst_eq (blank : α) (wanted : α → Bool) :
    (array.takeFirst blank wanted).map (Prod.map id toList) =
      (array.toList.find? wanted).map fun item => (item, array.toList.eraseP wanted) := by
  unfold takeFirst
  rw [position_eq, List.eraseP_eq_eraseIdx]
  cases found : array.toList.findIdx? wanted with
  | none =>
    have missing : array.toList.find? wanted = none := by
      rw [List.find?_eq_none]
      simpa [List.findIdx?_eq_none_iff] using found
    rw [missing]
    rfl
  | some place =>
    obtain ⟨inside, fits, first⟩ := List.findIdx?_eq_some_iff_getElem.mp found
    have item : array.toList.find? wanted = some (array.items place) := by
      refine List.find?_eq_some_iff_getElem.mpr ⟨?_, place, inside, ?_, ?_⟩
      · simpa [toList] using fits
      · simp [toList]
      · simpa using first
    rw [item]
    simp only [Option.map_some, Prod.map_apply, id_eq]
    rw [toList_removeAt array blank (by simpa using inside)]

theorem drop_removeAt (blank : α) {place : Nat} (inside : place < array.len) :
    (array.removeAt blank place).toList.take place = array.toList.take place ∧
      (array.removeAt blank place).toList.drop place = array.toList.drop (place + 1) := by
  rw [toList_removeAt array blank inside, List.eraseIdx_eq_take_drop_succ]
  have front : (array.toList.take place).length = place := by
    simp [Nat.le_of_lt inside]
  constructor
  · rw [List.take_append_of_le_length (Nat.le_of_eq front.symm), List.take_of_length_le (Nat.le_of_eq front)]
  · rw [List.drop_append_of_le_length (Nat.le_of_eq front.symm), List.drop_of_length_le (Nat.le_of_eq front), List.nil_append]

theorem removeAllFrom_eq (blank : α) (wanted : α → Bool) {place left : Nat} (removed : Nat)
    (all : place + left = array.len) :
    (array.removeAllFrom blank wanted place removed left).1 =
        removed + (array.toList.drop place).countP wanted ∧
      (array.removeAllFrom blank wanted place removed left).2.toList =
        array.toList.take place ++ (array.toList.drop place).filter fun item => !wanted item := by
  induction left generalizing array place removed with
  | zero =>
    have seen : array.toList.length ≤ place := by
      rw [length_toList]
      omega
    simp [removeAllFrom, List.drop_of_length_le seen, List.take_of_length_le seen]
  | succ left ih =>
    have inside : place < array.toList.length := by rw [length_toList]; omega
    have here : array.toList[place] = array.items place := by simp [toList]
    rw [removeAllFrom, List.drop_eq_getElem_cons inside, here]
    split <;> rename_i fits
    · obtain ⟨front, back⟩ := drop_removeAt array blank (by simpa using inside)
      have shorter : place + left = (array.removeAt blank place).len :=
        show place + left = array.len - 1 by omega
      obtain ⟨count, list⟩ := ih (array.removeAt blank place) (removed + 1) shorter
      rw [count, list, front, back]
      simp only [List.countP_cons, List.filter_cons, fits, if_true]
      exact ⟨by omega, rfl⟩
    · obtain ⟨count, list⟩ := ih array removed (show place + 1 + left = array.len by omega)
      rw [count, list, List.take_succ_eq_append_getElem inside, here]
      simp [fits]

theorem removeAll_eq (blank : α) (wanted : α → Bool) :
    (array.removeAll blank wanted).1 = array.toList.countP wanted ∧
      (array.removeAll blank wanted).2.toList = array.toList.filter fun item => !wanted item := by
  unfold removeAll
  simpa using removeAllFrom_eq array blank wanted 0 (Nat.zero_add array.len)

end Compact

end CompactArrays
