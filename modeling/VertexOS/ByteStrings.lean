import Mathlib.Tactic

/-! # Byte strings -/

namespace ByteStrings

abbrev Bytes := List UInt8

def utf8 (text : String) : Bytes :=
  text.toUTF8.data.toList

theorem utf8_injective : Function.Injective utf8 := by
  intro left right same
  have arrays : left.toUTF8.data = right.toUTF8.data := Array.toList_inj.mp same
  have stored : left.toByteArray = right.toByteArray := ByteArray.ext arrays
  exact String.toByteArray_inj.mp stored

def fromUtf8? (bytes : Bytes) : Option String :=
  String.fromUTF8? ⟨bytes.toArray⟩

theorem fromUtf8?_eq_some {bytes : Bytes} {text : String} :
    fromUtf8? bytes = some text ↔ utf8 text = bytes := by
  unfold fromUtf8? String.fromUTF8?
  constructor
  · intro decoded
    split at decoded
    · cases decoded
      simp [utf8, String.toUTF8, String.fromUTF8]
    · cases decoded
  · rintro rfl
    have valid : (⟨(utf8 text).toArray⟩ : ByteArray).IsValidUTF8 := text.isValidUTF8
    rw [dif_pos valid]
    exact congrArg some (String.toByteArray_inj.mp rfl)

def leNat : Bytes → Nat
  | [] => 0
  | byte :: rest => byte.toNat + 256 * leNat rest

def leBytes : (width : Nat) → (value : Nat) → Bytes
  | 0, _ => []
  | width + 1, value => UInt8.ofNat value :: leBytes width (value / 256)

@[simp]
theorem leBytes_length (width value : Nat) : (leBytes width value).length = width := by
  induction width generalizing value with
  | zero => rfl
  | succ width ih => simp [leBytes, ih]

theorem leNat_leBytes_mod (width value : Nat) :
    leNat (leBytes width value) = value % 256 ^ width := by
  induction width generalizing value with
  | zero => simp [leBytes, leNat, Nat.mod_one]
  | succ width ih =>
    have low : (UInt8.ofNat value).toNat = value % 256 := by simp
    simp only [leBytes, leNat, ih, low, pow_succ']
    rw [Nat.mod_mul]

theorem leNat_lt (bytes : Bytes) : leNat bytes < 256 ^ bytes.length := by
  induction bytes with
  | nil => simp [leNat]
  | cons byte rest ih =>
    have low := byte.toNat_lt
    simp only [leNat, List.length_cons, pow_succ]
    omega

def readLe? (width : Nat) (bytes : Bytes) (offset : Nat) : Option Nat :=
  if offset + width ≤ bytes.length then some (leNat ((bytes.drop offset).take width)) else none

end ByteStrings
