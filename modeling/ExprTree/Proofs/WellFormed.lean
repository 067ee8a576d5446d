import ExprTree.Proofs.Uses

/-!
Validation accepts a present root exactly if it is a node of the arena and all that it reaches is
sound. That an accepted walk has checked every reached node is an induction along the path to the
node; that the walk of a sound tree does not fail is the fold over its uses.
-/

namespace ExprTree

set_option autoImplicit false

def Forest.checking (forest : Forest) : Visitor Unit Refusal where
  enter id _ := forest.checkNode id
  fault := .fault

structure Tree.Rooted (tree : Tree) : Prop where
  contained : tree.forest.arena.contains tree.root
  reached : ∀ id, tree.forest.arena.Reaches tree.root id → tree.forest.Sound id

namespace Forest

theorem checked_of_visit {forest : Forest} {depth : Nat} {id : NodeId}
    (accepted : forest.checking.visit forest.arena depth id () = .ok ()) :
    forest.Sound id ∧ ∀ child, forest.arena.ChildOf id child →
      ∃ depth, forest.checking.visit forest.arena depth child () = .ok () := by
  cases depth with
  | zero => simp [Visitor.visit] at accepted
  | succ depth =>
      rw [Visitor.visit, bind_ok_iff] at accepted
      obtain ⟨_, checked, below⟩ := accepted
      have sound : forest.Sound id := check_node_ok_iff.1 checked
      refine ⟨sound, fun child step => ⟨depth, ?_⟩⟩
      obtain ⟨kind, found, own⟩ := sound
      obtain ⟨other, foundOther, member⟩ := step
      rw [found] at foundOther
      cases foundOther
      change ((forest.arena.children id).mapError _ >>= _) = _ at below
      rw [own.children found] at below
      obtain ⟨_, same, visited⟩ := bind_ok_iff.1 below
      cases same
      obtain ⟨_, visited, _⟩ := bind_ok_iff.1 visited
      exact fold_unit_ok_iff.1 visited child member

theorem sound_of_visit {forest : Forest} {depth : Nat} {id below : NodeId}
    (accepted : forest.checking.visit forest.arena depth id () = .ok ())
    (reached : forest.arena.Reaches id below) : forest.Sound below := by
  induction reached using Relation.ReflTransGen.head_induction_on generalizing depth with
  | refl => exact (checked_of_visit accepted).1
  | head step _ induction =>
      obtain ⟨depth, accepted⟩ := (checked_of_visit accepted).2 _ step
      exact induction accepted

end Forest

namespace Tree

theorem Rooted.present {tree : Tree} (rooted : tree.Rooted) : tree.root.isPresent :=
  (Arena.contains_iff.1 rooted.contained).1

theorem Rooted.inside {tree : Tree} (rooted : tree.Rooted) :
    tree.root.index < tree.forest.arena.size :=
  (Arena.contains_iff.1 rooted.contained).2

theorem Rooted.sequence {tree : Tree} (rooted : tree.Rooted) :
    ∃ ids, tree.sequence = .ok ids ∧ ∀ id ∈ ids, tree.forest.arena.Reaches tree.root id :=
  sequence_of_sound rooted.present rooted.inside rooted.reached

theorem validate_absent {tree : Tree} (absent : ¬tree.root.isPresent) :
    tree.validate = .ok () := by
  simp [validate, isAbsent, absent]

theorem validate_rooted {tree : Tree} (rooted : tree.Rooted) : tree.validate = .ok () := by
  obtain ⟨ids, met, reached⟩ := rooted.sequence
  have passed := fold_unit_ok_iff (f := fun id _ => tree.forest.checkNode id).2
    fun id member => Forest.check_node_ok_iff.2 (rooted.reached id (reached id member))
  unfold validate
  rw [if_neg (by simp [isAbsent, rooted.present]), if_neg (by simp [rooted.contained]),
    walk_of_sequence met]
  exact passed

theorem rooted_of_validate {tree : Tree} (present : tree.root.isPresent)
    (valid : tree.validate = .ok ()) : tree.Rooted := by
  unfold validate at valid
  rw [if_neg (by simp [isAbsent, present])] at valid
  split at valid
  case isTrue outside => simp at valid
  case isFalse inside =>
    rw [walk_present _ _ present] at valid
    exact ⟨by simpa using inside, fun below reached => Forest.sound_of_visit valid reached⟩

/-- Validation decides well-formedness: it accepts the absent tree, and a tree whose root is a node
of the arena that reaches only sound nodes, and nothing else. -/
theorem validate_ok_iff (tree : Tree) :
    tree.validate = .ok () ↔
      tree.root = .absent ∨
        (tree.forest.arena.contains tree.root ∧
          ∀ id, tree.forest.arena.Reaches tree.root id → tree.forest.Sound id) := by
  by_cases present : tree.root.isPresent
  · have notAbsent : tree.root ≠ .absent := by simpa [NodeId.isPresent] using present
    constructor
    · intro valid
      have rooted := rooted_of_validate present valid
      exact .inr ⟨rooted.contained, rooted.reached⟩
    · intro cases
      obtain ⟨contained, reached⟩ := cases.resolve_left notAbsent
      exact validate_rooted ⟨contained, reached⟩
  · have absent : tree.root = .absent := by simpa [NodeId.isPresent] using present
    exact iff_of_true (validate_absent present) (.inl absent)

end Tree

end ExprTree
