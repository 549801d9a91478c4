import Mathlib.Logic.Relation
import Mathlib.Tactic

/-!
# Forests kept as a table of parent links

A table of links gives every entry its parent.  The search for a mark climbs from an entry
to its parents.  In a table that grew at its end it needs no more steps than there are links.
-/

namespace ParentForest

variable {ι : Type}

structure Link (ι : Type) where
  child : ι
  parent : ι
deriving DecidableEq, Repr

/-- A new link has the greatest child so far, and leads to the root or to an earlier child. -/
inductive Grown [Preorder ι] (root : ι) : List (Link ι) → Prop
  | nil : Grown root []
  | snoc {table : List (Link ι)} {link : Link ι} : Grown root table →
      (∀ entry ∈ table, entry.child < link.child) →
      (link.parent = root ∨ ∃ entry ∈ table, entry.child = link.parent) →
      Grown root (table ++ [link])

section

variable [Preorder ι] {root : ι} {table : List (Link ι)}

theorem Grown.of_snoc {link : Link ι} (grown : Grown root (table ++ [link])) :
    Grown root table ∧ ∀ entry ∈ table, entry.child < link.child := by
  generalize whole : table ++ [link] = links at grown
  cases grown with
  | nil => simp at whole
  | snoc grown greatest =>
    obtain ⟨rfl, rfl⟩ := List.append_singleton_inj.mp whole
    exact ⟨grown, greatest⟩

theorem Grown.nodup (grown : Grown root table) : (table.map Link.child).Nodup := by
  induction grown with
  | nil => exact .nil
  | snoc _ greatest _ ih =>
    rw [List.map_append, List.nodup_append]
    grind

theorem Grown.parent_earlier (grown : Grown root table) : ∀ link ∈ table,
    link.parent = root ∨ ∃ entry ∈ table, entry.child = link.parent ∧ entry.child < link.child := by
  induction grown with
  | nil => simp
  | snoc _ greatest earlier ih => grind

end

variable [DecidableEq ι] (parentOf : ι → Option ι) (marked : ι → Bool)

/-- An entry without a parent ends the search as the root mark does.  No answer
means that the steps ran out. -/
def climb (root : ι) : Nat → ι → Option Bool
  | 0, _ => none
  | steps + 1, entry =>
    if entry = root then some false
    else if marked entry then some true
    else climb root steps ((parentOf entry).getD root)

variable {parentOf marked} {root start : ι}

theorem climb_succ {steps : Nat} (ends : (climb parentOf marked root steps start).isSome) :
    (climb parentOf marked root (steps + 1) start).isSome := by
  induction steps generalizing start with
  | zero => simp [climb] at ends
  | succ steps ih =>
    rw [climb] at ends ⊢
    grind

theorem Grown.climb_isSome [Preorder ι] {table : List (Link ι)} (grown : Grown root table)
    (links : ∀ link ∈ table, parentOf link.child = some link.parent)
    (known : start = root ∨ ∃ link ∈ table, link.child = start) :
    (climb parentOf marked root (table.length + 1) start).isSome := by
  induction grown generalizing start with
  | nil => simp_all [climb]
  | @snoc table last _ _ earlier ih =>
    obtain ⟨links, lastLink⟩ := List.forall_mem_append.mp links
    rw [List.length_append, List.length_singleton]
    rcases known with rfl | ⟨link, member, rfl⟩
    · simp [climb]
    · rcases List.mem_append.mp member with member | member
      · exact climb_succ (ih links (.inr ⟨link, member, rfl⟩))
      · have next := ih links earlier
        rw [climb, lastLink link member, Option.getD_some, List.mem_singleton.mp member]
        grind

end ParentForest
