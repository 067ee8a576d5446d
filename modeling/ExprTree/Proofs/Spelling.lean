import ExprTree.Proofs.Agreement
import ExprTree.Proofs.WellFormed

/-!
A tree that passes validation and whose root has a type can be unfolded. The nodes that a walk
through it meets, one after the other and each with what it says and how many children it has, are
the spelling of the abstract tree.
-/

namespace ExprTree

set_option autoImplicit false

def spelling? : Option Term → List (Label × Nat)
  | none => []
  | some term => term.spelling

theorem spelling_inj {left right : Option Term} (same : spelling? left = spelling? right) :
    left = right := by
  rcases left with _ | ⟨leftLabel, lefts⟩ <;> rcases right with _ | ⟨rightLabel, rights⟩
  · rfl
  · simp [spelling?, OrderedTree.spelling] at same
  · simp [spelling?, OrderedTree.spelling] at same
  · rw [OrderedTree.spelling_injective same]

namespace Forest

def Spells (forest : Forest) : List NodeId → List (Label × Nat) → Prop :=
  List.Forall₂ fun id entry => forest.entry id = .ok entry

/-- Unfolding several children one after the other, as far as it is known for one of them. -/
theorem unfold_all_of_uses {forest : Forest} {depth : Nat} {children : List NodeId}
    {trees : List (OrderedTree NodeId)}
    (one : ∀ child uses, forest.arena.uses depth child = .ok uses →
      (∀ item ∈ uses.preorder, forest.Readable item) →
        ∃ term, forest.unfold depth child = .ok term ∧
          forest.Spells uses.preorder term.spelling)
    (each : List.Forall₂ (fun child uses => forest.arena.uses depth child = .ok uses)
      children trees)
    (readable : ∀ item ∈ OrderedTree.preorderAll trees, forest.Readable item) :
    ∃ terms, List.Forall₂ (fun child term => forest.unfold depth child = .ok term)
        children terms ∧
      forest.Spells (OrderedTree.preorderAll trees) (OrderedTree.spellingAll terms) := by
  induction each with
  | nil => exact ⟨[], .nil, .nil⟩
  | @cons child uses children trees used later induction =>
      simp only [OrderedTree.preorderAll, List.mem_append] at readable
      have first : ∀ item ∈ uses.preorder, forest.Readable item := by
        intro item member
        exact readable item (.inl member)
      have remaining : ∀ item ∈ OrderedTree.preorderAll trees, forest.Readable item := by
        intro item member
        exact readable item (.inr member)
      obtain ⟨term, unfolded, spelled⟩ := one child uses used first
      obtain ⟨terms, others, spelledLater⟩ := induction remaining
      exact ⟨term :: terms, .cons unfolded others, List.rel_append spelled spelledLater⟩

theorem unfold_of_uses {forest : Forest} {depth : Nat} {id : NodeId} {uses : OrderedTree NodeId}
    (used : forest.arena.uses depth id = .ok uses)
    (readable : ∀ item ∈ uses.preorder, forest.Readable item) :
    ∃ term, forest.unfold depth id = .ok term ∧ forest.Spells uses.preorder term.spelling := by
  induction depth generalizing id uses with
  | zero => simp [Arena.uses] at used
  | succ depth induction =>
      obtain ⟨children, trees, listed, each, rfl⟩ := Arena.uses_succ_ok_iff.1 used
      have own : forest.Readable id := readable id (by simp [OrderedTree.preorder])
      have below : ∀ item ∈ OrderedTree.preorderAll trees, forest.Readable item := by
        intro item member
        exact readable item (by simp [OrderedTree.preorder, member])
      obtain ⟨terms, unfolded, spelled⟩ :=
        unfold_all_of_uses (fun _ _ => induction) each below
      obtain ⟨label, _, labelled, _⟩ := own.entry
      obtain ⟨⟨kind, found, sound⟩, _⟩ := own
      rw [sound.children found] at listed
      cases listed
      have counted : forest.entry id = .ok (label, terms.length) := by
        rw [← unfolded.length_eq]
        exact bind_ok_iff.2 ⟨label, labelled, bind_ok_iff.2 ⟨kind, Arena.kind_ok_iff.2 found, rfl⟩⟩
      refine ⟨.node label terms, ?_, .cons counted spelled⟩
      exact unfold_succ_ok_iff.2 ⟨label, kind, terms, labelled, found, unfolded, rfl⟩

end Forest

namespace Tree

theorem Rooted.index_le {tree : Tree} {id : NodeId} (rooted : tree.Rooted)
    (reached : tree.forest.arena.Reaches tree.root id) : id.index ≤ tree.root.index := by
  induction reached with
  | refl => exact Nat.le_refl _
  | tail reached step induction =>
      obtain ⟨kind, found, sound⟩ := rooted.reached _ reached
      obtain ⟨other, foundOther, member⟩ := step
      rw [found] at foundOther
      cases foundOther
      have older := (sound.childrenPrecede _ member).2
      omega

theorem Rooted.readable {tree : Tree} (rooted : tree.Rooted)
    (typed : tree.root.index < tree.forest.arena.types.size) {id : NodeId}
    (reached : tree.forest.arena.Reaches tree.root id) : tree.forest.Readable id := by
  have below := rooted.index_le reached
  exact ⟨rooted.reached id reached, by omega⟩

def Typed (tree : Tree) : Prop :=
  tree.root.isPresent → tree.root.index < tree.forest.arena.types.size

/-- Passes validation, in an arena that has a type for each of its nodes. -/
structure WellFormed (tree : Tree) : Prop where
  valid : tree.validate = .ok ()
  aligned : tree.forest.arena.types.size = tree.forest.arena.kinds.size

instance (tree : Tree) : Decidable tree.WellFormed :=
  decidable_of_iff
    (tree.validate = .ok () ∧ tree.forest.arena.types.size = tree.forest.arena.kinds.size)
    ⟨fun ⟨valid, aligned⟩ => ⟨valid, aligned⟩, fun wellFormed => ⟨wellFormed.1, wellFormed.2⟩⟩

theorem WellFormed.typed {tree : Tree} (wellFormed : tree.WellFormed) : tree.Typed := by
  intro present
  rw [wellFormed.aligned]
  exact (rooted_of_validate present wellFormed.valid).inside

/-- The walk through a valid tree with a typed root meets readable nodes, and they spell what the
tree unfolds to. -/
theorem spelled_of_validate {tree : Tree} (valid : tree.validate = .ok ()) (typed : tree.Typed) :
    ∃ ids term, tree.sequence = .ok ids ∧ tree.unfold = .ok term ∧
      (∀ id ∈ ids, tree.forest.Readable id) ∧ tree.forest.Spells ids (spelling? term) := by
  by_cases present : tree.root.isPresent
  · have rooted := rooted_of_validate present valid
    obtain ⟨ids, met, reached⟩ := rooted.sequence
    have readable : ∀ id ∈ ids, tree.forest.Readable id := by
      intro id member
      exact rooted.readable (typed present) (reached id member)
    obtain ⟨uses, used, rfl⟩ := map_ok_iff.1 ((sequence_present present).symm.trans met)
    obtain ⟨term, unfolded, spelled⟩ := Forest.unfold_of_uses used readable
    refine ⟨uses.preorder, some term, met, ?_, readable, spelled⟩
    rw [Tree.unfold, if_neg (by simp [isAbsent, present]), unfolded]
    rfl
  · refine ⟨[], none, sequence_absent present, ?_, by simp, .nil⟩
    rw [Tree.unfold, if_pos (by simp [isAbsent, present])]

end Tree

end ExprTree
