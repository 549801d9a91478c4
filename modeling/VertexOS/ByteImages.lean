import VertexOS.ByteStrings

/-! # Byte images -/

namespace ByteImages

open ByteStrings

abbrev Image := Nat → UInt8

def readBytes (image : Image) (offset length : Nat) : Bytes :=
  (List.range length).map fun index => image (offset + index)

@[irreducible]
def readLe (width : Nat) (image : Image) (offset : Nat) : Nat :=
  leNat (readBytes image offset width)

def writeBytes (image : Image) (offset : Nat) (bytes : Bytes) : Image := fun address =>
  if offset ≤ address then (bytes[address - offset]?).getD (image address) else image address

def writeLe (width : Nat) (image : Image) (offset value : Nat) : Image :=
  writeBytes image offset (leBytes width value)

def clearBytes (image : Image) (offset length : Nat) : Image := fun address =>
  if offset ≤ address ∧ address < offset + length then 0 else image address

def copyRange (image source : Image) (offset length : Nat) : Image := fun address =>
  if offset ≤ address ∧ address < offset + length then source address else image address

section

variable {image other : Image} {offset length width : Nat}

@[simp]
theorem readBytes_length (image : Image) (offset length : Nat) :
    (readBytes image offset length).length = length := by
  simp [readBytes]

theorem readBytes_getElem {index : Nat} (inside : index < length) :
    (readBytes image offset length)[index]? = some (image (offset + index)) := by
  simp [readBytes, inside]

theorem readBytes_congr (agree : ∀ address, offset ≤ address → address < offset + length →
    image address = other address) :
    readBytes image offset length = readBytes other offset length := by
  apply List.map_congr_left
  intro index inside
  rw [List.mem_range] at inside
  exact agree _ (by omega) (by omega)

theorem readLe_congr (agree : ∀ address, offset ≤ address → address < offset + width →
    image address = other address) : readLe width image offset = readLe width other offset := by
  unfold readLe
  rw [readBytes_congr agree]

theorem readLe_lt (width : Nat) (image : Image) (offset : Nat) :
    readLe width image offset < 256 ^ width := by
  simpa [readLe] using leNat_lt (readBytes image offset width)

end

theorem copyRange_copyRange_next (image source : Image) (offset first second : Nat) :
    copyRange (copyRange image source offset first) source (offset + first) second =
      copyRange image source offset (first + second) := by
  funext address
  simp only [copyRange]
  split_ifs <;> first | rfl | omega

section

variable {image : Image} {offset address : Nat} {bytes : Bytes}

theorem writeBytes_outside (apart : address < offset ∨ offset + bytes.length ≤ address) :
    writeBytes image offset bytes address = image address := by
  unfold writeBytes
  split
  · have beyond : bytes.length ≤ address - offset := by omega
    simp [List.getElem?_eq_none beyond]
  · rfl

theorem writeBytes_inside {index : Nat} (inside : index < bytes.length) :
    writeBytes image offset bytes (offset + index) = bytes.get ⟨index, inside⟩ := by
  simp [writeBytes, inside]

theorem readBytes_writeBytes_self (image : Image) (offset : Nat) (bytes : Bytes) :
    readBytes (writeBytes image offset bytes) offset bytes.length = bytes := by
  apply List.ext_getElem
  · simp
  · intro index _ inside
    simp [readBytes, writeBytes, inside]

theorem readBytes_writeBytes_apart {start length : Nat}
    (apart : start + length ≤ offset ∨ offset + bytes.length ≤ start) :
    readBytes (writeBytes image offset bytes) start length = readBytes image start length := by
  apply readBytes_congr
  intro address above below
  exact writeBytes_outside (by omega)

theorem readLe_writeLe_mod (width value : Nat) :
    readLe width (writeLe width image offset value) offset = value % 256 ^ width := by
  have stored := readBytes_writeBytes_self image offset (leBytes width value)
  rw [leBytes_length] at stored
  unfold readLe writeLe
  rw [stored, leNat_leBytes_mod]

theorem readLe_writeLe_self (width value : Nat) (fits : value < 256 ^ width) :
    readLe width (writeLe width image offset value) offset = value := by
  rw [readLe_writeLe_mod, Nat.mod_eq_of_lt fits]

theorem readLe_writeLe_apart {width start other value : Nat}
    (apart : start + width ≤ offset ∨ offset + other ≤ start) :
    readLe width (writeLe other image offset value) start = readLe width image start := by
  unfold readLe writeLe
  rw [readBytes_writeBytes_apart (by simpa using apart)]

theorem writeLe_outside {width value : Nat} (apart : address < offset ∨ offset + width ≤ address) :
    writeLe width image offset value address = image address :=
  writeBytes_outside (by simpa using apart)

theorem readLe_writeBytes_apart {width start : Nat}
    (apart : start + width ≤ offset ∨ offset + bytes.length ≤ start) :
    readLe width (writeBytes image offset bytes) start = readLe width image start := by
  unfold readLe
  rw [readBytes_writeBytes_apart apart]

theorem readBytes_writeLe_apart {width start length value : Nat}
    (apart : start + length ≤ offset ∨ offset + width ≤ start) :
    readBytes (writeLe width image offset value) start length = readBytes image start length :=
  readBytes_writeBytes_apart (by simpa using apart)

theorem clearBytes_outside {length : Nat} (apart : address < offset ∨ offset + length ≤ address) :
    clearBytes image offset length address = image address := by
  unfold clearBytes
  rw [if_neg (by omega)]

theorem writeLe_writeLe_same {width first second : Nat} :
    writeLe width (writeLe width image offset first) offset second =
      writeLe width image offset second := by
  funext address
  by_cases inside : offset ≤ address ∧ address < offset + width
  · obtain ⟨index, rfl⟩ := Nat.exists_eq_add_of_le inside.1
    have below : index < (leBytes width second).length := by
      rw [leBytes_length]
      omega
    unfold writeLe
    rw [writeBytes_inside below, writeBytes_inside below]
  · rw [writeLe_outside (by omega), writeLe_outside (by omega), writeLe_outside (by omega)]

end

section

variable (image : Image) (start : Nat)

theorem readBytes_shift (offset length : Nat) :
    readBytes (fun address => image (start + address)) offset length =
      readBytes image (start + offset) length := by
  simp [readBytes, Nat.add_assoc]

theorem readLe_shift (width offset : Nat) :
    readLe width (fun address => image (start + address)) offset =
      readLe width image (start + offset) := by
  unfold readLe
  rw [readBytes_shift]

theorem writeBytes_shift (offset : Nat) (bytes : Bytes) :
    writeBytes (fun address => image (start + address)) offset bytes =
      fun address => writeBytes image (start + offset) bytes (start + address) := by
  funext address
  simp [writeBytes, Nat.add_sub_add_left]

end

end ByteImages
