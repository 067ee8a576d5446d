import ExprTree.Proofs.Blocks
import ExprTree.Proofs.Paths
import ExprTree.Proofs.Totality

/-!
The listing of a valid tree. It starts with the root and goes on with nodes that are older than it;
at each of its positions starts the listing of the tree below the node that stands there; and it has
each node as often as there are ways from the root to the node.
-/

namespace ExprTree

set_option autoImplicit false

theorem extract_of_prefix {Item : Type} {block items : List Item} {position : Nat}
    (starts : block <+: items.drop position) :
    items.toArray.extract position (position + block.length) = block.toArray := by
  rw [List.extract_toArray, List.extract_eq_take_drop, Nat.add_sub_cancel_left]
  rw [← List.prefix_iff_eq_take.1 starts]

namespace Tree

variable {tree : Tree} {ids : List NodeId} {id : NodeId}

theorem Rooted.older (rooted : tree.Rooted)
    (below : Relation.TransGen tree.forest.arena.Follows tree.root id) :
    tree.forest.arena.contains id ∧ id.index < tree.root.index := by
  obtain ⟨parent, followed, children, listed, member⟩ := Relation.TransGen.tail'_iff.1 below
  have reached := Forest.reaches_of_follows followed
  obtain ⟨kind, found, sound⟩ := rooted.reached parent reached
  rw [sound.children found] at listed
  cases listed
  obtain ⟨inside, older⟩ := sound.childrenPrecede id member
  have contained := Arena.contains_iff.2 ⟨(Arena.mem_offspring.1 member).1, inside⟩
  exact ⟨contained, Nat.lt_of_lt_of_le older (rooted.index_le reached)⟩

theorem listing_empty_iff (met : tree.sequence = .ok ids) : ids = [] ↔ tree.root = .absent := by
  by_cases present : tree.root.isPresent
  · obtain ⟨rest, rfl⟩ := sequence_head present met
    have notAbsent : tree.root ≠ .absent := by simpa [NodeId.isPresent] using present
    simp [notAbsent]
  · rw [sequence_absent present] at met
    cases met
    simpa [NodeId.isPresent] using present

/-- The listing of a valid tree is empty only if the tree is absent. Else it starts with the root,
what follows is in the arena and older than the root, and each node is listed once for each path
from the root to it. Where a node stands, the listing of its subtree starts. -/
theorem listing_shape (valid : tree.validate = .ok ()) :
    ∃ ids, tree.listing = .ok ids ∧
      (ids = #[] ↔ tree.root = .absent) ∧
      (tree.root ≠ .absent → ids[0]? = some tree.root) ∧
      (∀ position id, 0 < position → ids[position]? = some id →
        tree.forest.arena.contains id ∧ id.index < tree.root.index) ∧
      (∀ position id, ids[position]? = some id →
        ∃ block, (tree.below id).listing = .ok block ∧
          ids.extract position (position + block.size) = block) ∧
      (tree.root ≠ .absent →
        ∀ id, {path | tree.forest.arena.Path tree.root path id}.encard = ids.count id) := by
  obtain ⟨ids, met⟩ := sequence_of_validate valid
  refine ⟨ids.toArray, listing_of_sequence met, ?empty, ?first, ?later, ?blocks, ?counts⟩
  case empty => simpa using listing_empty_iff met
  case first =>
    intro notAbsent
    obtain ⟨rest, rfl⟩ := sequence_head (by simpa [NodeId.isPresent] using notAbsent) met
    rfl
  case later =>
    intro position id later stands
    by_cases present : tree.root.isPresent
    · rw [sequence_present present] at met
      obtain ⟨uses, used, rfl⟩ := map_ok_iff.1 met
      obtain ⟨below, listed, leads⟩ := Arena.follows_of_uses used
      -- Not at the first position, so it is one of those that the root leads to.
      rw [List.getElem?_toArray, listed, List.getElem?_cons, if_neg (by omega)] at stands
      exact (rooted_of_validate present valid).older (leads id (List.mem_of_getElem? stands))
    · rw [sequence_absent present] at met
      cases met
      simp at stands
  case blocks =>
    intro position id stands
    rw [List.getElem?_toArray] at stands
    obtain ⟨block, listed, starts⟩ := block_of_sequence met stands
    exact ⟨block.toArray, listing_of_sequence listed, extract_of_prefix starts⟩
  case counts =>
    intro notAbsent id
    rw [sequence_present (by simpa [NodeId.isPresent] using notAbsent)] at met
    obtain ⟨uses, used, rfl⟩ := map_ok_iff.1 met
    obtain ⟨paths, enumerated⟩ := Forest.paths_from_uses used
    rw [enumerated.encard id, List.count_toArray]

/-- A call whose target is a sum of a negation with itself, and whose arguments hold the negation
and its operand again. -/
def sharedCall : Tree where
  forest :=
    { arena :=
        { kinds :=
            #[.constant (.int 1), .unary .negate ⟨0⟩ .builtin, .binary .add ⟨1⟩ ⟨1⟩ .builtin,
              .methodCall ⟨2⟩ ⟨7⟩ ⟨0, 3⟩]
          types := #[.int, .int, .int, .int]
          childLists := ⟨#[⟨1⟩, ⟨0⟩, ⟨2⟩]⟩ } }
  root := ⟨3⟩

theorem listing_shape_shared_call :
    sharedCall.validate = .ok () ∧
      ∃ ids, sharedCall.listing = .ok ids ∧
        ids = #[⟨3⟩, ⟨2⟩, ⟨1⟩, ⟨0⟩, ⟨1⟩, ⟨0⟩, ⟨1⟩, ⟨0⟩, ⟨0⟩, ⟨2⟩, ⟨1⟩, ⟨0⟩, ⟨1⟩, ⟨0⟩] ∧
        (∃ block, (sharedCall.below ⟨2⟩).listing = .ok block ∧
          ids.extract 9 (9 + block.size) = block) ∧
        {path | sharedCall.forest.arena.Path ⟨3⟩ path ⟨0⟩}.encard = 6 := by
  have valid : sharedCall.validate = .ok () := by decide +kernel
  have listing : sharedCall.listing = .ok
      #[⟨3⟩, ⟨2⟩, ⟨1⟩, ⟨0⟩, ⟨1⟩, ⟨0⟩, ⟨1⟩, ⟨0⟩, ⟨0⟩, ⟨2⟩, ⟨1⟩, ⟨0⟩, ⟨1⟩, ⟨0⟩] := by
    decide +kernel
  obtain ⟨ids, listed, _, _, _, blocks, counts⟩ := listing_shape valid
  have same : ids = _ := Except.ok.inj (listed.symm.trans listing)
  refine ⟨valid, ids, listed, same, blocks 9 ⟨2⟩ (by rw [same]; rfl), ?_⟩
  rw [show (⟨3⟩ : NodeId) = sharedCall.root from rfl, counts (by decide) ⟨0⟩, same]
  rfl

end Tree

end ExprTree
