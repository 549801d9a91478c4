import VertexOS.FailingCalls
import VertexOS.PageFrames

/-!
# Checking a range of user memory

A walk over the page tables decides for each page of the range.
-/

namespace VertexOS.UserRanges

open FailingCalls

abbrev PageTableEntry := BitVec 64

namespace PageTableEntry

variable (entry : PageTableEntry)

def isPresent : Bool := entry.getLsbD 0
def isWritable : Bool := entry.getLsbD 1
def isUserAccessible : Bool := entry.getLsbD 2
def isHuge : Bool := entry.getLsbD 7

def address : Nat :=
  (entry &&& 0x000ffffffffff000#64).toNat

end PageTableEntry

abbrev PageTables := Nat → Nat → PageTableEntry

inductive UserAccess where
  | read
  | write
deriving DecidableEq

inductive UserRangeError where
  | overflow
  | nonCanonical
  | notPresent
  | notUserAccessible
  | notWritable
  | hugePageEncountered
deriving DecidableEq

def pageIndexes (virtualAddress : Nat) : List Nat :=
  [(virtualAddress >>> 39) % 512, (virtualAddress >>> 30) % 512, (virtualAddress >>> 21) % 512,
    (virtualAddress >>> 12) % 512]

section

variable (tables : PageTables) (access : UserAccess)

def validateWalk : (indexes : List Nat) → (table : Nat) → Except UserRangeError Unit
  | [], _ => .error .notPresent
  | index :: rest, table =>
    let entry := tables table index
    if !entry.isPresent then .error .notPresent
    else if !entry.isUserAccessible then .error .notUserAccessible
    else if entry.isHuge then .error .hugePageEncountered
    else if rest = [] then
      if access = .write ∧ !entry.isWritable then .error .notWritable else .ok ()
    else validateWalk rest entry.address

def validateUserPage (root virtualAddress : Nat) : Except UserRangeError Unit :=
  validateWalk tables access (pageIndexes virtualAddress) root

/-- The loop over the pages, for at most so many rounds. -/
def validatePages (root lastPage : Nat) : (rounds page : Nat) → Except UserRangeError Unit
  | 0, _ => .error .overflow
  | rounds + 1, page => do
    validateUserPage tables access root page
    if page = lastPage then .ok ()
    else if addressLimit ≤ page + frameSize then .error .overflow
    else validatePages root lastPage rounds (page + frameSize)

def validateUserRange (root start len : Nat) : Except UserRangeError Unit :=
  if addressLimit ≤ start + len then .error .overflow
  else if userCanonicalLimit ≤ start ∨ userCanonicalLimit < start + len then .error .nonCanonical
  else if len = 0 then .ok ()
  else validatePages tables access root (alignDown (start + len - 1))
    ((start + len) / frameSize + 1) (alignDown start)

def walk : (indexes : List Nat) → (table : Nat) → List PageTableEntry
  | [], _ => []
  | index :: rest, table => tables table index :: walk rest (tables table index).address

/-- All entries let the user in and none is that of a huge page, and the last one may be
written if this is asked for. -/
def Opens (entries : List PageTableEntry) : Prop :=
  (∀ entry ∈ entries, entry.isPresent ∧ entry.isUserAccessible ∧ !entry.isHuge) ∧
    ∀ entry ∈ entries.getLast?, access = .write → entry.isWritable

variable {tables access} {root : Nat}

theorem validateWalk_ok {indexes : List Nat} (someIndex : indexes ≠ []) {table : Nat} :
    validateWalk tables access indexes table = .ok () ↔
      Opens access (walk tables indexes table) := by
  induction indexes generalizing table with
  | nil => exact absurd rfl someIndex
  | cons index rest ih =>
    unfold validateWalk
    cases rest with
    | nil =>
      simp only [Opens, walk]
      split_ifs <;> simp_all
    | cons next rest =>
      have further := @ih (by simp) (tables table index).address
      have last : (walk tables (index :: next :: rest) table).getLast? =
          (walk tables (next :: rest) (tables table index).address).getLast? :=
        List.getLast?_cons_cons
      simp only [Opens, last]
      rw [walk, List.forall_mem_cons]
      split_ifs <;> simp_all [Opens]

theorem validatePages_ok {lastPage rounds page : Nat} (before : page ≤ lastPage)
    (near : lastPage < userCanonicalLimit) (aligned : page % frameSize = lastPage % frameSize)
    (enough : (lastPage - page) / frameSize < rounds) :
    validatePages tables access root lastPage rounds page = .ok () ↔
      ∀ count, page + count * frameSize ≤ lastPage →
        validateUserPage tables access root (page + count * frameSize) = .ok () := by
  induction rounds generalizing page with
  | zero => exact absurd enough (Nat.not_lt_zero _)
  | succ rounds ih =>
    -- the first page of the range, and all others
    rw [validatePages, outcome_bind_ok, Unique.exists_iff, ← Nat.and_forall_add_one, Nat.zero_mul,
      Nat.add_zero, forall_prop_of_true before]
    refine and_congr_right fun _ => ?_
    have size : frameSize = 4096 := rfl
    simp only [userCanonicalLimit] at near
    have limit : addressLimit = 0x10000000000000000 := rfl
    by_cases last : page = lastPage
    · rw [if_pos last]
      simp only [size, true_iff]
      omega
    · rw [size] at aligned enough
      rw [if_neg last, if_neg (by omega), ih (by omega) (by rw [size]; omega) (by rw [size]; omega)]
      simp only [Nat.add_mul, Nat.one_mul, Nat.add_assoc, Nat.add_comm]

/-- A range is accepted exactly if it is one of user memory and the walk of every page that it
meets opens. -/
theorem validateUserRange_ok (start len : Nat) :
    validateUserRange tables access root start len = .ok () ↔
      (start + len < addressLimit ∧ start < userCanonicalLimit ∧ start + len ≤ userCanonicalLimit) ∧
      ∀ address, start ≤ address → address < start + len →
        Opens access (walk tables (pageIndexes (alignDown address)) root) := by
  have opens (address : Nat) : validateUserPage tables access root address = .ok () ↔
      Opens access (walk tables (pageIndexes address) root) :=
    validateWalk_ok (by simp [pageIndexes])
  unfold validateUserRange
  split
  · simp only [reduceCtorEq, false_iff]
    omega
  split
  · simp only [reduceCtorEq, false_iff]
    omega
  rename_i fits inside
  rw [and_iff_right (by omega)]
  split
  · simp only [true_iff]
    intro address above below
    omega
  rw [validatePages_ok]
  · simp only [opens, alignDown, frameSize]
    constructor
    · intro pages address above below
      have opened := pages (address / 4096 - start / 4096) (by omega)
      rwa [show start / 4096 * 4096 + (address / 4096 - start / 4096) * 4096 =
        address / 4096 * 4096 by omega] at opened
    · intro addresses count fits
      have opened := addresses (max start (start / 4096 * 4096 + count * 4096)) (by omega)
        (by omega)
      rwa [show max start (start / 4096 * 4096 + count * 4096) / 4096 * 4096 =
        start / 4096 * 4096 + count * 4096 by omega] at opened
  all_goals
    simp only [alignDown, frameSize, userCanonicalLimit] at *
    omega

end

def readOnlyTables : PageTables := fun table _ =>
  if table < 0x3000 then BitVec.ofNat 64 (table + 0x1005) else 7

def hugeTables : PageTables := fun _ _ => 0x87

/-- A range is accepted for writing though entries above the last are read-only, and one is
refused though all its entries are present, writable and open to the user. -/
theorem validateUserRange_readOnly_huge :
    (validateUserRange readOnlyTables .write 0 0x1000 1 = .ok () ∧
      (walk readOnlyTables (pageIndexes 0x1000) 0).any fun entry => !entry.isWritable) ∧
    validateUserRange hugeTables .write 0 0x1000 1 = .error .hugePageEncountered ∧
      (walk hugeTables (pageIndexes 0x1000) 0).all fun entry =>
        entry.isPresent ∧ entry.isUserAccessible ∧ entry.isWritable := by
  decide +kernel

end VertexOS.UserRanges
