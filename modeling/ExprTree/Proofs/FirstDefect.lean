import ExprTree.Proofs.Checks
import ExprTree.Proofs.Preorder
import ExprTree.Proofs.WellFormed

/-!
Validation is a search for the first node in pre-order that fails its checks. It goes from a node to
its children only if the node passes them, and then the children are older than the node; so the
search ends in every arena, however broken, before it is as deep as the number of its root, and it
answers with the defect that it finds. Which defect that is depends on the arena alone.
-/

namespace ExprTree

set_option autoImplicit false

namespace Forest

variable {forest : Forest} {id : NodeId} {kind : ExprKind} {ahead before left : List NodeId}
variable {refusal other : Refusal}

def Passes (forest : Forest) (id : NodeId) : Prop := forest.checkNode id = .ok ()

inductive Faulty (forest : Forest) (id : NodeId) : Refusal → Prop where
  | of {kind : ExprKind} {defect : Defect} (found : forest.arena.kinds[id.index]? = some kind)
      (fails : Check.Fails (forest.checks id kind) defect) : Faulty forest id (.malformed defect)

theorem not_faulty_of_passes (id : NodeId) (refusal : Refusal) (passes : forest.Passes id) :
    ¬forest.Faulty id refusal := by
  intro faulty
  obtain ⟨found, fails⟩ := faulty
  obtain ⟨check, member, broken, _⟩ := fails.broken
  exact broken ((judge_node found).ok_iff.1 passes check member)

theorem faulty_once (id : NodeId) (refusal other : Refusal) (faulty : forest.Faulty id refusal)
    (otherFaulty : forest.Faulty id other) : refusal = other := by
  obtain ⟨found, fails⟩ := faulty
  obtain ⟨otherFound, otherFails⟩ := otherFaulty
  rw [found] at otherFound
  cases otherFound
  rw [fails.unique otherFails]

/-- A walk that goes deeper than the number of the node it starts from searches all that is below
the node: the children of a node that passes have smaller numbers. -/
theorem search_visit {depth : Nat} (inside : id.index < forest.arena.size)
    (deep : id.index < depth) :
    forest.arena.Search forest.Passes forest.Faulty [id]
      (forest.checking.visit forest.arena depth id ()) := by
  induction depth generalizing id with
  | zero => omega
  | succ depth induction =>
      rw [Visitor.visit]
      change forest.arena.Search _ _ _ (forest.checkNode id >>= _)
      have judged := judge_node (Array.getElem?_eq_getElem inside)
      cases checked : forest.checkNode id with
      | error refusal =>
          rw [checked] at judged
          cases judged with
          | fail fails => exact .failing (.of (Array.getElem?_eq_getElem inside) fails)
      | ok =>
          -- Only now that the node has passed is it known that its children can be looked up.
          obtain ⟨kind, found, own⟩ := check_node_ok_iff.1 checked
          have below := own.children found
          apply Arena.Search.below checked below
          change forest.arena.Search _ _ _ ((forest.arena.children id).mapError _ >>= _)
          rw [below]
          change forest.arena.Search _ _ _ (_ >>= pure)
          rw [bind_pure]
          apply Arena.Search.each
          intro child member _
          obtain ⟨contained, older⟩ := own.childrenPrecede child member
          exact induction contained (by omega)

theorem reached_of_walk (walked : forest.arena.Walks ahead before left)
    (passed : ∀ id ∈ before, forest.Passes id) :
    ∀ id ∈ left, ∃ start ∈ ahead, forest.arena.Reaches start id := by
  induction walked with
  | start ahead => exact fun id member => ⟨id, member, .refl⟩
  | @step parent children rest met left listed _ induction =>
      rw [List.forall_mem_cons] at passed
      obtain ⟨kind, found, own⟩ := check_node_ok_iff.1 passed.1
      rw [own.children found] at listed
      cases listed
      intro id member
      obtain ⟨start, place, reached⟩ := induction passed.2 id member
      rcases List.mem_append.1 place with child | later
      · exact ⟨parent, by simp, .head ⟨kind, found, child⟩ reached⟩
      · exact ⟨start, by simp [later], reached⟩

end Forest

namespace Tree

variable {tree : Tree} {defect : Defect} {refusal : Refusal}

/-- The defect is the one to report, and it is there. Either the root is not in the arena, or the
nodes that come before some node in pre-order pass all their checks, and of its own checks the first
one that does not hold finds the defect. -/
inductive FirstDefect (tree : Tree) : Defect → Prop where
  | root (present : tree.root.isPresent) (outside : ¬tree.forest.arena.contains tree.root) :
      FirstDefect tree (.danglingNode tree.root tree.forest.arena.size)
  | node {before later : List NodeId} {id : NodeId} {kind : ExprKind} {defect : Defect}
      (contained : tree.forest.arena.contains tree.root)
      (walked : tree.forest.arena.Walks [tree.root] before (id :: later))
      (passed : ∀ earlier ∈ before, tree.forest.checkNode earlier = .ok ())
      (reached : tree.forest.arena.Reaches tree.root id)
      (found : tree.forest.arena.kind id = .ok kind)
      (first : Check.Fails (tree.forest.checks id kind) defect)
      (shown : tree.forest.DefectOf id kind defect) : FirstDefect tree defect

theorem validate_outside (present : tree.root.isPresent)
    (outside : ¬tree.forest.arena.contains tree.root) :
    tree.validate = .error (.malformed (.danglingNode tree.root tree.forest.arena.size)) := by
  unfold validate
  rw [if_neg (by simp [isAbsent, present]), if_pos (by simpa using outside)]

theorem validate_contained (contained : tree.forest.arena.contains tree.root) :
    tree.validate =
      tree.forest.checking.visit tree.forest.arena tree.depthBound tree.root () := by
  have present := (Arena.contains_iff.1 contained).1
  unfold validate
  rw [if_neg (by simp [isAbsent, present]), if_neg (by simp [contained]), walk_present _ _ present]
  rfl

theorem search_of_contained {depth : Nat} (contained : tree.forest.arena.contains tree.root)
    (deep : tree.root.index < depth) :
    tree.forest.arena.Search tree.forest.Passes tree.forest.Faulty [tree.root]
      (tree.forest.checking.visit tree.forest.arena depth tree.root ()) :=
  Forest.search_visit (Arena.contains_iff.1 contained).2 deep

theorem validate_search (contained : tree.forest.arena.contains tree.root) :
    tree.forest.arena.Search tree.forest.Passes tree.forest.Faulty [tree.root] tree.validate := by
  rw [validate_contained contained]
  have inside := (Arena.contains_iff.1 contained).2
  exact search_of_contained contained (Nat.lt_succ_of_lt inside)

theorem first_defect_of_search
    (contained : tree.forest.arena.contains tree.root)
    (search : tree.forest.arena.Search tree.forest.Passes tree.forest.Faulty [tree.root]
      (.error refusal : Except Refusal Unit)) :
    ∃ defect, refusal = .malformed defect ∧ tree.FirstDefect defect := by
  cases search with
  | stopped walked passed faulty =>
      obtain ⟨found, fails⟩ := faulty
      obtain ⟨start, same, reached⟩ := Forest.reached_of_walk walked passed _ List.mem_cons_self
      cases List.mem_singleton.1 same
      exact ⟨_, rfl, .node contained walked passed reached (Arena.kind_ok_iff.2 found) fails
        (Forest.defect_of_fails fails)⟩

/-- Validation gives an answer about every tree, whatever its arena holds: it accepts the tree or
names a defect, and no look-up that it makes fails. If the root is a node, its number bounds how
deep the search goes, so that one which is allowed to go deeper comes to the same. -/
theorem validate_answers (tree : Tree) :
    (tree.validate = .ok () ∨ ∃ defect, tree.validate = .error (.malformed defect)) ∧
      (tree.forest.arena.contains tree.root → ∀ depth, tree.root.index < depth →
        tree.forest.checking.visit tree.forest.arena depth tree.root () = tree.validate) := by
  constructor
  · by_cases present : tree.root.isPresent
    · by_cases contained : tree.forest.arena.contains tree.root
      · have search := validate_search contained
        generalize tree.validate = answer at search ⊢
        cases search with
        | clean => exact .inl rfl
        | stopped _ _ faulty =>
            obtain ⟨_, _⟩ := faulty
            exact .inr ⟨_, rfl⟩
      · exact .inr ⟨_, validate_outside present contained⟩
    · exact .inl (validate_absent present)
  · intro contained depth deep
    exact (search_of_contained contained deep).unique Forest.not_faulty_of_passes
      Forest.faulty_once (validate_search contained)

/-- A sum whose right operand has an unknown name. Its left operand lacks an argument and binds
members that are not there, and the argument that it has is its own operand. -/
def manyFaults : Tree where
  forest :=
    { arena :=
        { kinds :=
            #[.parameter ⟨7⟩, .unary .negate ⟨1⟩ .builtin, .new none ⟨0, 2⟩ ⟨0xFFFFFFFF, 9⟩,
              .binary .add ⟨2⟩ ⟨0⟩ .builtin]
          childLists := ⟨#[⟨1⟩, .absent]⟩ } }
  root := ⟨3⟩

theorem validate_answers_many_faults :
    manyFaults.validate = .error (.malformed (.missingChild ⟨2⟩ .args)) ∧
      ∀ depth, 3 < depth →
        manyFaults.forest.checking.visit manyFaults.forest.arena depth manyFaults.root () =
          .error (.malformed (.missingChild ⟨2⟩ .args)) := by
  have refused : manyFaults.validate = .error (.malformed (.missingChild ⟨2⟩ .args)) := by
    decide +kernel
  refine ⟨refused, fun depth deep => ?_⟩
  rw [(validate_answers manyFaults).2 (by decide) depth deep, refused]

/-- Validation refuses a tree exactly for its first defect. -/
theorem validate_error_iff (tree : Tree) (refusal : Refusal) :
    tree.validate = .error refusal ↔
      ∃ defect, refusal = .malformed defect ∧ tree.FirstDefect defect := by
  constructor
  · intro refused
    by_cases present : tree.root.isPresent
    · by_cases contained : tree.forest.arena.contains tree.root
      · have search := validate_search contained
        rw [refused] at search
        exact first_defect_of_search contained search
      · rw [validate_outside present contained] at refused
        cases refused
        exact ⟨_, rfl, .root present contained⟩
    · rw [validate_absent present] at refused
      cases refused
  · intro ⟨defect, same, first⟩
    rw [same]
    cases first with
    | root present outside => exact validate_outside present outside
    | node contained walked passed _ found first _ =>
        have faulty : tree.forest.Faulty _ _ := .of (Arena.kind_ok_iff.1 found) first
        exact (validate_search contained).unique Forest.not_faulty_of_passes Forest.faulty_once
          (.stopped walked passed faulty)

end Tree

end ExprTree
