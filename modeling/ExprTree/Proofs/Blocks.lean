import ExprTree.Proofs.Lookups
import ExprTree.Proofs.Uses

/-!
The listing of a tree holds the listings of all trees below it: each node that is listed is followed
by what its own tree lists behind its root. What is listed is present, and what is listed behind a
root is strictly below it.
-/

namespace ExprTree

set_option autoImplicit false

namespace Arena

variable {arena : Arena} {depth : Nat} {id item : NodeId} {tree subtree : OrderedTree NodeId}

theorem uses_larger (used : arena.uses depth id = .ok tree) :
    arena.uses (depth + 1) id = .ok tree := by
  induction depth generalizing id tree with
  | zero => simp [uses] at used
  | succ depth induction =>
      obtain ⟨children, trees, found, each, rfl⟩ := uses_succ_ok_iff.1 used
      apply uses_succ_ok_iff.2
      exact ⟨children, trees, found, each.imp fun _ _ => induction, rfl⟩

theorem uses_of_le {deeper : Nat} (used : arena.uses depth id = .ok tree) (le : depth ≤ deeper) :
    arena.uses deeper id = .ok tree := by
  induction le with
  | refl => exact used
  | step _ induction => exact uses_larger induction

theorem uses_unique {otherDepth : Nat} {other : OrderedTree NodeId}
    (used : arena.uses depth id = .ok tree) (usedToo : arena.uses otherDepth id = .ok other) :
    tree = other := by
  have larger := uses_of_le used (Nat.le_max_left depth otherDepth)
  have largerToo := uses_of_le usedToo (Nat.le_max_right depth otherDepth)
  exact Except.ok.inj (larger.symm.trans largerToo)

/-- The subtrees in the tree of uses are the trees of uses of the nodes that they start with. -/
theorem uses_of_subtree (used : arena.uses depth id = .ok tree) (member : subtree ∈ tree.subtrees) :
    arena.uses depth subtree.label = .ok subtree := by
  induction depth generalizing id tree with
  | zero => simp [uses] at used
  | succ depth induction =>
      obtain ⟨children, trees, found, each, rfl⟩ := uses_succ_ok_iff.1 used
      rw [OrderedTree.subtrees, OrderedTree.subtrees_all_eq] at member
      rcases List.mem_cons.1 member with rfl | below
      · exact used
      · obtain ⟨tree, place, inside⟩ := List.mem_flatMap.1 below
        obtain ⟨child, _, usedChild⟩ := exists_left_of_mem each place
        -- Further down there is less depth left than at the root.
        exact uses_larger (induction usedChild inside)

theorem follows_of_uses (used : arena.uses depth id = .ok tree) :
    ∃ below, tree.preorder = id :: below ∧
      ∀ item ∈ below, Relation.TransGen arena.Follows id item := by
  induction depth generalizing id tree with
  | zero => simp [uses] at used
  | succ depth induction =>
      obtain ⟨children, trees, found, each, rfl⟩ := uses_succ_ok_iff.1 used
      refine ⟨OrderedTree.preorderAll trees, rfl, fun item member => ?_⟩
      rw [OrderedTree.preorder_all_eq] at member
      obtain ⟨tree, place, inside⟩ := List.mem_flatMap.1 member
      obtain ⟨child, listed, usedChild⟩ := exists_left_of_mem each place
      have step : arena.Follows id child := ⟨children, found, listed⟩
      obtain ⟨below, listing, leads⟩ := induction usedChild
      rw [listing] at inside
      rcases List.mem_cons.1 inside with rfl | later
      · exact .single step
      · exact .head step (leads item later)

end Arena

namespace Tree

variable {tree : Tree} {ids : List NodeId} {id : NodeId} {position : Nat}

def below (tree : Tree) (id : NodeId) : Tree := ⟨tree.forest, id⟩

theorem present_of_sequence (met : tree.sequence = .ok ids) : ∀ id ∈ ids, id.isPresent := by
  by_cases present : tree.root.isPresent
  · rw [sequence_present present] at met
    obtain ⟨uses, used, rfl⟩ := map_ok_iff.1 met
    obtain ⟨below, listing, leads⟩ := Arena.follows_of_uses used
    rw [listing, List.forall_mem_cons]
    refine ⟨present, fun id member => ?_⟩
    obtain ⟨_, _, follows⟩ := Relation.TransGen.tail'_iff.1 (leads id member)
    exact Forest.present_of_follows follows
  · rw [sequence_absent present] at met
    cases met
    simp

theorem sequence_below {uses subtree : OrderedTree NodeId} (present : tree.root.isPresent)
    (used : tree.forest.arena.uses tree.depthBound tree.root = .ok uses)
    (inside : subtree ∈ uses.subtrees) :
    (tree.below subtree.label).sequence = .ok subtree.preorder := by
  have met : tree.sequence = .ok uses.preorder := by
    rw [sequence_present present, used]
    rfl
  have listed : subtree.label ∈ uses.preorder := by
    rw [← OrderedTree.map_label_subtrees]
    exact List.mem_map_of_mem inside
  have ownPresent : (tree.below subtree.label).root.isPresent := present_of_sequence met _ listed
  rw [sequence_present ownPresent]
  exact map_ok_iff.2 ⟨subtree, Arena.uses_of_subtree used inside, rfl⟩

/-- At each position the listing goes on with the listing of the node that stands there. -/
theorem block_of_sequence (met : tree.sequence = .ok ids) (stands : ids[position]? = some id) :
    ∃ block, (tree.below id).sequence = .ok block ∧ block <+: ids.drop position := by
  by_cases present : tree.root.isPresent
  · rw [sequence_present present] at met
    obtain ⟨uses, used, rfl⟩ := map_ok_iff.1 met
    rw [← OrderedTree.map_label_subtrees, List.getElem?_map, Option.map_eq_some_iff] at stands
    obtain ⟨subtree, stands, rfl⟩ := stands
    have own := sequence_below present used (List.mem_of_getElem? stands)
    exact ⟨subtree.preorder, own, OrderedTree.block_at stands⟩
  · rw [sequence_absent present] at met
    cases met
    simp at stands

end Tree

end ExprTree
