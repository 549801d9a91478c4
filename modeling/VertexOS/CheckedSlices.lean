import VertexOS.ByteImages

/-!
# Slices with checked accesses

A computation on byte slices may return an error of its own, or be stopped by the machine.
`Safe` says that it is never stopped, and what holds of the result when there is one.
-/

namespace CheckedSlices

open ByteStrings ByteImages

variable {ε α β : Type}

inductive Fault (ε : Type) where
  | error (error : ε)
  | outOfBounds
  | overflow

abbrev Checked (ε : Type) := Except (Fault ε)

def wordLimit : Nat := 2 ^ 64

def Fits (value : Nat) : Prop := value < wordLimit

instance (value : Nat) : Decidable (Fits value) := inferInstanceAs (Decidable (_ < _))

@[irreducible]
def add (left right : Nat) : Checked ε Nat :=
  if Fits (left + right) then .ok (left + right) else .error .overflow

@[irreducible]
def mul (left right : Nat) : Checked ε Nat :=
  if Fits (left * right) then .ok (left * right) else .error .overflow

@[irreducible]
def sub (left right : Nat) : Checked ε Nat :=
  if right ≤ left then .ok (left - right) else .error .overflow

@[irreducible]
def index (size position : Nat) : Checked ε Unit :=
  if position < size then .ok () else .error .outOfBounds

structure Slice where
  bytes : Image
  length : Nat

namespace Slice

variable (slice : Slice)

/-- The bytes of a part, all of which are accessed. -/
@[irreducible]
def field (offset length : Nat) : Checked ε Bytes :=
  if offset + length ≤ slice.length then .ok (readBytes slice.bytes offset length)
  else .error .outOfBounds

@[irreducible]
def byte (offset : Nat) : Checked ε UInt8 :=
  if offset < slice.length then .ok (slice.bytes offset) else .error .outOfBounds

@[irreducible]
def number (width offset : Nat) : Checked ε Nat :=
  if offset + width ≤ slice.length then .ok (readLe width slice.bytes offset)
  else .error .outOfBounds

@[irreducible]
def get (start stop : Nat) : Option Slice :=
  if start ≤ stop ∧ stop ≤ slice.length then
    some ⟨fun offset => slice.bytes (start + offset), stop - start⟩
  else none

def toBytes : Bytes := readBytes slice.bytes 0 slice.length

end Slice

/-- The computation is not stopped, and a result of it is good. -/
def Safe (good : α → Prop) : Checked ε α → Prop
  | .ok value => good value
  | .error (.error _) => True
  | .error .outOfBounds => False
  | .error .overflow => False

section

variable {good : α → Prop} {call : Checked ε α}

protected theorem Safe.pure {value : α} (holds : good value) :
    Safe good (pure value : Checked ε α) :=
  holds

protected theorem Safe.error (error : ε) : Safe good (.error (.error error) : Checked ε α) :=
  trivial

protected theorem Safe.bind {next : α → Checked ε β} {after : β → Prop} (first : Safe good call)
    (rest : ∀ value, good value → Safe after (next value)) : Safe after (call >>= next) := by
  rcases call with (_ | _ | _) | value
  · exact .error _
  · exact first.elim
  · exact first.elim
  · exact rest value first

/-- A call that is known to return goes into what comes behind it. -/
protected theorem Safe.value {next : α → Checked ε β} {after : β → Prop} {value : α}
    (known : call = .ok value) (rest : Safe after (next value)) : Safe after (call >>= next) := by
  rw [known]
  exact rest

protected theorem Safe.imp {better : α → Prop} (safe : Safe good call)
    (imp : ∀ value, good value → better value) : Safe better call := by
  rcases call with (_ | _ | _) | value
  · exact .error _
  · exact safe.elim
  · exact safe.elim
  · exact imp value safe

protected theorem Safe.ite {condition : Prop} [Decidable condition] {yes no : Checked ε α}
    (whenYes : condition → Safe good yes) (whenNo : ¬condition → Safe good no) :
    Safe good (if condition then yes else no) := by
  split
  · exact whenYes ‹_›
  · exact whenNo ‹_›

protected theorem Safe.forM {list : List α} {check : α → Checked ε PUnit} {holds : α → Prop}
    (each : ∀ value ∈ list, Safe (fun _ => holds value) (check value)) :
    Safe (fun _ => ∀ value ∈ list, holds value) (list.forM check) := by
  induction list with
  | nil => exact .pure (by simp)
  | cons first rest ih =>
    refine .bind (each first (by simp)) fun _ holdsFirst =>
      .imp (ih fun value member => each value (by simp [member])) fun _ holdsRest => ?_
    exact List.forall_mem_cons.mpr ⟨holdsFirst, holdsRest⟩

protected theorem Safe.mapM {list : List α} {call : α → Checked ε β} {result : α → β}
    {holds : α → Prop}
    (each : ∀ value ∈ list, Safe (fun made => made = result value ∧ holds value) (call value)) :
    Safe (fun made => made = list.map result ∧ ∀ value ∈ list, holds value) (list.mapM call) := by
  induction list with
  | nil => exact .pure (by simp)
  | cons first rest ih =>
    rw [List.mapM_cons]
    refine .bind (each first (by simp)) fun _ ⟨made, holdsFirst⟩ => .bind
      (ih fun value member => each value (by simp [member])) fun _ ⟨others, holdsRest⟩ => ?_
    subst made others
    exact .pure ⟨rfl, List.forall_mem_cons.mpr ⟨holdsFirst, holdsRest⟩⟩

end

section

variable {slice : Slice} {offset length width : Nat} {left right : Nat}

theorem add_ok (small : Fits (left + right)) :
    (add left right : Checked ε Nat) = .ok (left + right) := by
  unfold add
  exact if_pos small

theorem mul_ok (small : Fits (left * right)) :
    (mul left right : Checked ε Nat) = .ok (left * right) := by
  unfold mul
  exact if_pos small

theorem sub_ok (enough : right ≤ left) : (sub left right : Checked ε Nat) = .ok (left - right) := by
  unfold sub
  exact if_pos enough

theorem index_ok {size position : Nat} (inside : position < size) :
    (index size position : Checked ε Unit) = .ok () := by
  unfold index
  exact if_pos inside

theorem field_ok (inside : offset + length ≤ slice.length) :
    (slice.field offset length : Checked ε Bytes) = .ok (readBytes slice.bytes offset length) := by
  unfold Slice.field
  exact if_pos inside

theorem byte_ok (inside : offset < slice.length) :
    (slice.byte offset : Checked ε UInt8) = .ok (slice.bytes offset) := by
  unfold Slice.byte
  exact if_pos inside

theorem number_ok (inside : offset + width ≤ slice.length) :
    (slice.number width offset : Checked ε Nat) = .ok (readLe width slice.bytes offset) := by
  unfold Slice.number
  exact if_pos inside

theorem get_eq_some {start stop : Nat} {part : Slice} (found : slice.get start stop = some part) :
    stop ≤ slice.length ∧ part = ⟨fun offset => slice.bytes (start + offset), stop - start⟩ := by
  unfold Slice.get at found
  split at found
  · next inside => exact ⟨inside.2, (Option.some.inj found).symm⟩
  · cases found

end

end CheckedSlices
