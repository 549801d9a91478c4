import Mathlib.Data.Fintype.Card
import VertexOS.ByteStrings

/-!
# The block cache of the state service

The state service keeps eight sectors of its disk.  A write goes to the cache and on to the
disk at once; if the driver does not take it the sector stays dirty.
-/

namespace VertexOS.StateService

open ByteStrings

def blockCacheEntries : Nat := 8

structure CacheEntry where
  valid : Bool := false
  dirty : Bool := false
  sector : Nat := 0
  bytes : Bytes := List.replicate 512 0

/-- The cache, without its statistics, and the disk that the block driver writes to. -/
structure CachedDisk where
  entries : Fin blockCacheEntries → CacheEntry := fun _ => {}
  dirtyPages : Nat := 0
  device : Nat → Bytes

/-- What becomes of a write at the driver.  One that fails can leave anything in its sector. -/
inductive Writeback where
  | done
  | failed (left : Bytes)
  | notIssued

namespace CachedDisk

variable (disk : CachedDisk) (sector : Nat)

def find (suits : CacheEntry → Bool) : Option (Fin blockCacheEntries) :=
  (List.finRange blockCacheEntries).find? fun slot => suits (disk.entries slot)

def cached : Option (Fin blockCacheEntries) :=
  disk.find fun entry => entry.valid && entry.sector = sector

/-- The slot for a sector: its own, a free one, the one it prefers, or any that is clean. -/
def blockCacheSlot : Option (Fin blockCacheEntries) :=
  let preferred : Fin blockCacheEntries := ⟨sector % 8, Nat.mod_lt _ (by decide)⟩
  (disk.cached sector).or <| (disk.find fun entry => !entry.valid).or <|
    ((some preferred).filter fun slot => !(disk.entries slot).dirty).or <|
      disk.find fun entry => !entry.dirty

def put (slot : Fin blockCacheEntries) (entry : CacheEntry) : CachedDisk :=
  { disk with entries := Function.update disk.entries slot entry }

/-- Read a sector; `answers` tells whether the driver does.  Without a slot or an answer the
service exits. -/
def readBlockSectorCached (answers : Bool) : Option (Bytes × CachedDisk) :=
  match disk.cached sector with
  | some slot => some ((disk.entries slot).bytes, disk)
  | none => do
    let slot ← disk.blockCacheSlot sector
    guard answers
    return (disk.device sector, disk.put slot ⟨true, false, sector, disk.device sector⟩)

/-- The cache takes a write and hands it on.  It has fewer dirty pages than the counter can
hold. -/
def tryWriteBlockSectorCached (bytes : Bytes) (writeback : Writeback) : Bool × CachedDisk :=
  match disk.blockCacheSlot sector with
  | none => (false, disk)
  | some slot =>
    let wasDirty := (disk.entries slot).valid && (disk.entries slot).dirty
    let taken := { disk.put slot ⟨true, true, sector, bytes⟩ with
      dirtyPages := if wasDirty then disk.dirtyPages else disk.dirtyPages + 1 }
    match writeback with
    | .notIssued => (false, taken)
    | .failed left => (false, { taken with device := Function.update disk.device sector left })
    | .done => (true, { taken.put slot ⟨true, false, sector, bytes⟩ with
        dirtyPages := taken.dirtyPages - 1
        device := Function.update disk.device sector bytes })

def Dirty (slot : Fin blockCacheEntries) : Prop :=
  (disk.entries slot).valid ∧ (disk.entries slot).dirty

instance : DecidablePred disk.Dirty := fun _ => inferInstanceAs (Decidable (_ ∧ _))

def dirtySlots : Finset (Fin blockCacheEntries) := Finset.univ.filter disk.Dirty

/-- The records of the cache agree with each other, with the disk, and with the bytes that the
cache has taken last for each sector. -/
structure Sound (disk : CachedDisk) (latest : Nat → Bytes) : Prop where
  distinct : ∀ slot other, (disk.entries slot).valid → (disk.entries other).valid →
    (disk.entries slot).sector = (disk.entries other).sector → slot = other
  clean : ∀ slot, (disk.entries slot).valid → (disk.entries slot).dirty = false →
    (disk.entries slot).bytes = disk.device (disk.entries slot).sector
  current : ∀ slot, (disk.entries slot).valid →
    (disk.entries slot).bytes = latest (disk.entries slot).sector
  stored : ∀ sector, (∀ slot, disk.Dirty slot → (disk.entries slot).sector ≠ sector) →
    disk.device sector = latest sector
  counted : disk.dirtyPages = disk.dirtySlots.card

/-- The cache after some reads and writes, and what it has taken last for each sector. -/
inductive Runs : CachedDisk → (Nat → Bytes) → Prop
  | start (device : Nat → Bytes) : Runs { device } device
  | read {disk latest sector answers bytes after} (runs : Runs disk latest)
      (reads : disk.readBlockSectorCached sector answers = some (bytes, after)) :
      Runs after latest
  | write {disk latest} (runs : Runs disk latest) (sector : Nat) (bytes : Bytes)
      (writeback : Writeback) : Runs (disk.tryWriteBlockSectorCached sector bytes writeback).2
        (if (disk.blockCacheSlot sector).isSome then Function.update latest sector bytes
          else latest)

variable {disk sector} {slot : Fin blockCacheEntries} {suits : CacheEntry → Bool}
  {latest : Nat → Bytes}

theorem suits_of_find (found : disk.find suits = some slot) : suits (disk.entries slot) :=
  @List.find?_some _ (fun slot => suits (disk.entries slot)) _ _ found

theorem cached_sector (found : disk.cached sector = some slot) :
    (disk.entries slot).valid ∧ (disk.entries slot).sector = sector := by
  simpa using suits_of_find found

theorem not_cached (missing : disk.cached sector = none) (slot : Fin blockCacheEntries)
    (valid : (disk.entries slot).valid) : (disk.entries slot).sector ≠ sector := by
  simpa [valid] using List.find?_eq_none.mp missing slot (List.mem_finRange slot)

theorem blockCacheSlot_cases (found : disk.blockCacheSlot sector = some slot) :
    disk.cached sector = some slot ∨ disk.cached sector = none ∧ ¬disk.Dirty slot := by
  unfold blockCacheSlot at found
  cases own : disk.cached sector with
  | some other => simpa [own] using found
  | none =>
    refine .inr ⟨rfl, fun dirty => ?_⟩
    simp only [own, Option.none_or, Option.or_eq_some_iff, Option.filter_eq_some_iff] at found
    rcases found with free | ⟨-, ⟨-, clean⟩ | ⟨-, free⟩⟩
    · simpa [dirty.1] using suits_of_find free
    · simp [dirty.2] at clean
    · simpa [dirty.2] using suits_of_find free

theorem mem_dirtySlots : slot ∈ disk.dirtySlots ↔ disk.Dirty slot :=
  Finset.mem_filter_univ slot

theorem sector_of_dirty (found : disk.blockCacheSlot sector = some slot) (dirty : disk.Dirty slot) :
    (disk.entries slot).sector = sector := by
  rcases blockCacheSlot_cases found with own | ⟨-, clean⟩
  · exact (cached_sector own).2
  · exact absurd dirty clean

theorem Sound.fill (sound : disk.Sound latest) (found : disk.blockCacheSlot sector = some slot)
    {after : CachedDisk} {dirty : Bool} {bytes : Bytes}
    (entries : after.entries = Function.update disk.entries slot ⟨true, dirty, sector, bytes⟩)
    (kept : ∀ other, other ≠ sector → after.device other = disk.device other)
    (written : dirty = false → after.device sector = bytes)
    (counted : after.dirtyPages = if dirty then (insert slot disk.dirtySlots).card else
      (disk.dirtySlots.erase slot).card) : after.Sound (Function.update latest sector bytes) := by
  -- no other slot has the sector, and a dirty slot has no other sector
  have elsewhere : ∀ other, other ≠ slot → (disk.entries other).valid →
      (disk.entries other).sector ≠ sector := by
    intro other different valid same
    rcases blockCacheSlot_cases found with own | ⟨missing, -⟩
    · exact different (sound.distinct other slot valid (cached_sector own).1
        (same.trans (cached_sector own).2.symm))
    · exact not_cached missing other valid same
  have held := sector_of_dirty found
  have slots : after.dirtySlots = if dirty then insert slot disk.dirtySlots else
      disk.dirtySlots.erase slot := by
    ext other
    by_cases same : other = slot <;> cases dirty <;> simp [mem_dirtySlots, Dirty, entries, same]
  obtain ⟨distinct, clean, current, stored, -⟩ := sound
  refine ⟨?_, ?_, ?_, ?_, ?_⟩
  · simp only [entries, Function.update_apply]
    grind
  · simp only [entries, Function.update_apply]
    grind
  · simp only [entries, Function.update_apply]
    grind
  · simp only [entries, Dirty, Function.update_apply] at held stored ⊢
    grind
  · rw [counted, slots]
    split <;> rfl

theorem Sound.read (sound : disk.Sound latest) {answers : Bool} {bytes : Bytes}
    {after : CachedDisk} (reads : disk.readBlockSectorCached sector answers = some (bytes, after)) :
    bytes = latest sector ∧ after.Sound latest ∧
      ∀ slot, disk.Dirty slot → after.entries slot = disk.entries slot := by
  unfold readBlockSectorCached at reads
  cases own : disk.cached sector with
  | some slot =>
    obtain ⟨rfl, rfl⟩ : (disk.entries slot).bytes = bytes ∧ disk = after := by
      simpa [own] using reads
    obtain ⟨valid, rfl⟩ := cached_sector own
    exact ⟨sound.current slot valid, sound, fun _ _ => rfl⟩
  | none =>
    cases found : disk.blockCacheSlot sector with
    | none => simp [own, found] at reads
    | some slot =>
      have stored := sound.stored sector fun one held => not_cached own one held.1
      have clean : ¬disk.Dirty slot := by simpa [own] using blockCacheSlot_cases found
      obtain ⟨rfl, rfl⟩ : disk.device sector = bytes ∧
          disk.put slot ⟨true, false, sector, disk.device sector⟩ = after := by
        cases answers with
        | false => simp [own, found] at reads
        | true => simpa [own, found] using reads
      refine ⟨stored, ?_, fun one held => Function.update_of_ne ?_ ..⟩
      · have counted : disk.dirtyPages = (disk.dirtySlots.erase slot).card := by
          rw [Finset.erase_eq_of_notMem (mem_dirtySlots.not.mpr clean), sound.counted]
        have filled : (disk.put slot ⟨true, false, sector, disk.device sector⟩).Sound _ :=
          sound.fill found rfl (fun _ _ => rfl) (fun _ => rfl) counted
        simpa [stored] using filled
      · rintro rfl
        exact clean held

theorem Sound.write (sound : disk.Sound latest) (found : disk.blockCacheSlot sector = some slot)
    (bytes : Bytes) (writeback : Writeback) :
    (disk.tryWriteBlockSectorCached sector bytes writeback).2.Sound
      (Function.update latest sector bytes) := by
  have insertion : (insert slot disk.dirtySlots).card =
      if (disk.entries slot).valid && (disk.entries slot).dirty then disk.dirtyPages
      else disk.dirtyPages + 1 := by
    simp [Finset.card_insert_eq_ite, mem_dirtySlots, Dirty, sound.counted]
  simp only [tryWriteBlockSectorCached, found]
  cases writeback with
  | notIssued => exact sound.fill found rfl (fun _ _ => rfl) (by simp) insertion.symm
  | failed left =>
    refine sound.fill found rfl (fun _ other => Function.update_of_ne other ..) (by simp) ?_
    exact insertion.symm
  | done =>
    refine sound.fill found (Function.update_idem ..) (fun _ other => Function.update_of_ne other ..)
      (fun _ => Function.update_self ..) ?_
    rw [← insertion, ← Finset.erase_insert_eq_erase, if_neg (by simp)]
    exact (Finset.card_erase_of_mem (Finset.mem_insert_self ..)).symm

theorem Runs.sound (runs : Runs disk latest) : disk.Sound latest := by
  induction runs with
  | start device =>
    exact ⟨fun _ _ valid => absurd valid Bool.false_ne_true,
      fun _ valid => absurd valid Bool.false_ne_true,
      fun _ valid => absurd valid Bool.false_ne_true, fun _ _ => rfl, rfl⟩
  | read _ reads ih => exact (ih.read reads).2.1
  | write _ sector bytes writeback ih =>
    rename_i disk latest _
    cases found : disk.blockCacheSlot sector with
    | none => simpa [tryWriteBlockSectorCached, found] using ih
    | some slot => simpa using ih.write found bytes writeback

/-- The cache never holds a sector twice, a clean page is the device's, the dirty pages are
counted, a sector reads as the cache took it last, and a dirty page leaves its slot only for newer
bytes of its own sector. -/
theorem block_cache_sound (runs : Runs disk latest) : disk.Sound latest ∧
    (∀ sector answers bytes after, disk.readBlockSectorCached sector answers = some (bytes, after) →
      bytes = latest sector ∧ ∀ slot, disk.Dirty slot → after.entries slot = disk.entries slot) ∧
    ∀ sector bytes writeback slot, disk.Dirty slot →
      let after := (disk.tryWriteBlockSectorCached sector bytes writeback).2
      after.entries slot = disk.entries slot ∨
        (disk.entries slot).sector = sector ∧ (after.entries slot).valid ∧
          (after.entries slot).sector = sector ∧ (after.entries slot).bytes = bytes := by
  have sound := runs.sound
  refine ⟨sound, fun sector answers bytes after reads => ?_,
    fun sector bytes writeback slot held => ?_⟩
  · obtain ⟨same, -, kept⟩ := sound.read reads
    exact ⟨same, kept⟩
  · unfold tryWriteBlockSectorCached
    cases found : disk.blockCacheSlot sector with
    | none => exact .inl rfl
    | some taken =>
      by_cases same : slot = taken
      · subst same
        cases writeback <;> simp [put, sector_of_dirty found held]
      · cases writeback <;> simp [put, same]

theorem block_cache_sound_failed :
    let disk := (tryWriteBlockSectorCached { device := fun _ => [] } 0 [1] .notIssued).2
    disk.dirtyPages = 1 ∧ disk.dirtySlots.card = 1 := by
  have sound := (block_cache_sound ((Runs.start fun _ => []).write 0 [1] .notIssued)).1
  exact ⟨rfl, sound.counted.symm⟩

/-- A write that fails is read back all the same. -/
theorem failed_write_is_read : let disk : CachedDisk := { device := fun _ => List.replicate 512 0 }
    let (written, after) := disk.tryWriteBlockSectorCached 0 (List.replicate 512 1)
      (.failed (List.replicate 512 0))
    written = false ∧
      (after.readBlockSectorCached 0 true).map Prod.fst = some (List.replicate 512 1) := by
  decide +kernel

end CachedDisk

end VertexOS.StateService
