import Mathlib.Data.List.Basic
import Mathlib.Logic.Relation

/-!
# Work lists over finite graphs

A search with a queue ends and finds exactly what its roots lead to.
-/

structure FiniteGraph (ι : Type) where
  nodes : List ι
  next : ι → List ι
  next_eq_nil : ∀ node, node ∉ nodes → next node = []

namespace FiniteGraph

variable {ι : Type} [DecidableEq ι] (graph : FiniteGraph ι)

def unmet (reachable : List ι) : Nat := (graph.nodes.filter (· ∉ reachable)).length

/-- A node that is met for the first time leads nowhere or is one less to meet. -/
theorem unmet_cons (node : ι) (reachable : List ι) (new : node ∉ reachable) :
    graph.unmet (node :: reachable) < graph.unmet reachable ∨
      graph.unmet (node :: reachable) = graph.unmet reachable ∧ graph.next node = [] := by
  have split : graph.nodes.filter (· ∉ node :: reachable) =
      (graph.nodes.filter (· ∉ reachable)).filter (· ≠ node) := by
    simp [List.filter_filter]
  unfold unmet
  rw [split]
  by_cases known : node ∈ graph.nodes
  · left
    apply List.length_filter_lt_length_iff_exists.mpr
    exact ⟨node, by simp [known, new], by simp⟩
  · right
    refine ⟨congrArg _ (List.filter_eq_self.mpr ?_), graph.next_eq_nil node known⟩
    grind

def search : (queue reachable : List ι) → List ι
  | [], reachable => reachable
  | node :: queue, reachable =>
    if node ∈ reachable then search queue reachable
    else search (queue ++ graph.next node) (node :: reachable)
termination_by queue reachable => (graph.unmet reachable, queue.length)
decreasing_by
  · apply Prod.Lex.right
    simp
  · rename_i new
    rcases graph.unmet_cons node reachable new with fewer | ⟨same, leaf⟩
    · exact Prod.Lex.left _ _ fewer
    · rw [same, leaf]
      apply Prod.Lex.right
      simp

def Leads (first second : ι) : Prop := second ∈ graph.next first

def ReachedFrom (queue : List ι) (last : ι) : Prop :=
  ∃ root ∈ queue, Relation.ReflTransGen graph.Leads root last

/-- What a node that was met leads to has been met or is in the queue. -/
def ClosedUpTo (queue reachable : List ι) : Prop :=
  ∀ first ∈ reachable, ∀ second ∈ graph.next first, second ∈ reachable ∨ second ∈ queue

variable {graph} {queue reachable : List ι}

omit [DecidableEq ι] in
theorem ClosedUpTo.met_or_reached (closed : graph.ClosedUpTo queue reachable) {first last : ι}
    (met : first ∈ reachable) (path : Relation.ReflTransGen graph.Leads first last) :
    last ∈ reachable ∨ graph.ReachedFrom queue last := by
  induction path using Relation.ReflTransGen.head_induction_on with
  | refl => exact .inl met
  | head step path ih =>
    rcases closed _ met _ step with again | queued
    · exact ih again
    · exact .inr ⟨_, queued, path⟩

/-- The search finds what it has met and what the queue leads to. -/
theorem ClosedUpTo.mem_search (closed : graph.ClosedUpTo queue reachable) (last : ι) :
    last ∈ graph.search queue reachable ↔ last ∈ reachable ∨ graph.ReachedFrom queue last := by
  fun_induction search graph queue reachable with
  | case1 reachable => simp [ReachedFrom]
  | case2 node queue reachable met ih =>
    have closedHere : graph.ClosedUpTo queue reachable := by
      intro first isMet second step
      rcases closed first isMet second step with again | queued
      · exact .inl again
      · grind
    rw [ih closedHere]
    constructor
    · rintro (found | ⟨root, queued, path⟩)
      · exact .inl found
      · exact .inr ⟨root, List.mem_cons_of_mem _ queued, path⟩
    · rintro (found | ⟨root, member, path⟩)
      · exact .inl found
      · rcases List.mem_cons.mp member with rfl | queued
        · exact closedHere.met_or_reached met path
        · exact .inr ⟨root, queued, path⟩
  | case3 node queue reachable new ih =>
    have closedNext : graph.ClosedUpTo (queue ++ graph.next node) (node :: reachable) := by
      intro first isMet second step
      rcases List.mem_cons.mp isMet with rfl | isMet
      · exact .inr (List.mem_append_right _ step)
      · have := closed first isMet second step
        grind
    rw [ih closedNext]
    constructor
    · rintro (found | ⟨root, member, path⟩)
      · rcases List.mem_cons.mp found with rfl | found
        · exact .inr ⟨last, List.mem_cons_self, .refl⟩
        · exact .inl found
      · rcases List.mem_append.mp member with queued | next
        · exact .inr ⟨root, List.mem_cons_of_mem _ queued, path⟩
        · exact .inr ⟨node, List.mem_cons_self, .head next path⟩
    · rintro (found | ⟨root, member, path⟩)
      · exact .inl (List.mem_cons_of_mem _ found)
      · rcases List.mem_cons.mp member with rfl | queued
        · rcases path.cases_head with rfl | ⟨second, step, path⟩
          · exact .inl List.mem_cons_self
          · exact .inr ⟨second, List.mem_append_right _ step, path⟩
        · exact .inr ⟨root, List.mem_append_left _ queued, path⟩

end FiniteGraph
