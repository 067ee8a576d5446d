import ExprTree.Proofs.Hashing
import ExprTree.Proofs.Matching
import ExprTree.Proofs.Reachability

/-!
When the walks through valid trees give an answer. Listing always does. Validation does not look at
the table of types, which a document may give fewer entries than there are nodes: hashing fails
exactly if the root has no type, and comparison if the two roots agree in kind and one of them has
no type. The type of a root is then what is missing, and nothing else ever is.
-/

namespace ExprTree

set_option autoImplicit false

namespace Comparison

variable {comparison : Comparison} {left right : NodeId} {leftKind rightKind : ExprKind}
  {position : Nat}

theorem step_kinds_apart (candidate : comparison.candidates[position]? = some right)
    (leftIs : comparison.left.arena.kinds[left.index]? = some leftKind)
    (rightIs : comparison.right.arena.kinds[right.index]? = some rightKind)
    (apart : leftKind.nodeKind ≠ rightKind.nodeKind) :
    comparison.step left position =
      .error (.differ (.kind left right leftKind.nodeKind rightKind.nodeKind) position) := by
  simp [step, candidate, headDifference, Arena.kind_ok_iff.2 leftIs, Arena.kind_ok_iff.2 rightIs,
    apart, bind, Except.bind, map_error_ok, pure, Except.pure]

theorem step_untyped (candidate : comparison.candidates[position]? = some right)
    (leftIs : comparison.left.arena.kinds[left.index]? = some leftKind)
    (rightIs : comparison.right.arena.kinds[right.index]? = some rightKind)
    (same : leftKind.nodeKind = rightKind.nodeKind)
    (untyped : comparison.left.arena.types.size ≤ left.index ∨
      comparison.right.arena.types.size ≤ right.index) :
    comparison.step left position = .error (.fault (.outOfBounds .types)) := by
  simp only [step, candidate, headDifference, Arena.kind_ok_iff.2 leftIs,
    Arena.kind_ok_iff.2 rightIs, same, bind, Except.bind, bne_self_eq_false, Bool.false_eq_true,
    if_false]
  by_cases leftUntyped : comparison.left.arena.types.size ≤ left.index
  · rw [Arena.type_untyped leftUntyped]
    rfl
  · have rightUntyped := untyped.resolve_left leftUntyped
    rw [Arena.type_typed (Nat.lt_of_not_le leftUntyped), Arena.type_untyped rightUntyped]
    rfl

end Comparison

namespace Tree

variable {tree left right : Tree}

def rootKind? (tree : Tree) : Option NodeKind :=
  if tree.isAbsent then none
  else tree.forest.arena.kinds[tree.root.index]?.map ExprKind.nodeKind

theorem root_kind_present (valid : tree.validate = .ok ()) (present : tree.root.isPresent) :
    ∃ kind, tree.forest.arena.kinds[tree.root.index]? = some kind ∧
      tree.rootKind? = some kind.nodeKind := by
  obtain ⟨kind, found, _⟩ := (rooted_of_validate present valid).reached _ .refl
  refine ⟨kind, found, ?_⟩
  rw [rootKind?, if_neg (by simp [isAbsent, present]), found]
  rfl

theorem root_kind_some_iff (valid : tree.validate = .ok ()) :
    tree.rootKind?.isSome ↔ tree.root.isPresent := by
  by_cases present : tree.root.isPresent
  · obtain ⟨kind, _, found⟩ := root_kind_present valid present
    simp [found, present]
  · simp [rootKind?, isAbsent, present]

theorem sequence_of_validate (valid : tree.validate = .ok ()) :
    ∃ ids, tree.sequence = .ok ids := by
  by_cases present : tree.root.isPresent
  · obtain ⟨ids, met, _⟩ := (rooted_of_validate present valid).sequence
    exact ⟨ids, met⟩
  · exact ⟨[], sequence_absent present⟩

theorem untyped_iff :
    ¬tree.Typed ↔ tree.root.isPresent ∧ tree.forest.arena.types.size ≤ tree.root.index := by
  rw [Typed, Classical.not_imp, Nat.not_lt]

theorem hash_typed (valid : tree.validate = .ok ()) (typed : tree.Typed) :
    ∃ hash, tree.hash = .ok hash := by
  obtain ⟨term, _, hash⟩ := hash_spec valid typed
  exact ⟨_, hash⟩

theorem hash_untyped (valid : tree.validate = .ok ()) (untyped : ¬tree.Typed) :
    tree.hash = .error (.outOfBounds .types) := by
  obtain ⟨present, short⟩ := untyped_iff.1 untyped
  obtain ⟨ids, met⟩ := sequence_of_validate valid
  obtain ⟨rest, rfl⟩ := sequence_head present met
  obtain ⟨kind, found, _⟩ := root_kind_present valid present
  have failed : tree.forest.nodeWrites tree.root = .error (.outOfBounds .types) := by
    rw [Forest.nodeWrites, Arena.kind_ok_iff.2 found, Arena.type_untyped short]
    rfl
  have walked := walk_of_sequence met (writing tree.forest) (fun fault => fault) #[]
  rw [List.foldlM_cons, writing, failed] at walked
  rw [hash, Tree.writes, if_neg (by simp [isAbsent, present])]
  change ((tree.walk { enter := writing tree.forest, fault := fun fault => fault } #[] >>= _) >>= _)
    = _
  rw [walked]
  rfl

theorem compare_first (leftValid : left.validate = .ok ()) (rightValid : right.validate = .ok ())
    (present : left.root.isPresent) {candidates : List NodeId}
    (met : right.sequence = .ok candidates) :
    ∃ rest : List NodeId, left.compare right =
      Comparison.conclude ⟨left.forest, right.forest, candidates.toArray⟩
        (Comparison.step ⟨left.forest, right.forest, candidates.toArray⟩ left.root 0 >>=
          rest.foldlM fun matched id =>
            Comparison.step ⟨left.forest, right.forest, candidates.toArray⟩ id matched) := by
  obtain ⟨ids, leftMet⟩ := sequence_of_validate leftValid
  obtain ⟨rest, rfl⟩ := sequence_head present leftMet
  refine ⟨rest, ?_⟩
  rw [compare_eq leftValid rightValid (listing_of_sequence met), Comparison.visitor,
    walk_of_sequence leftMet, List.foldlM_cons]

theorem compare_kinds_apart (leftValid : left.validate = .ok ())
    (rightValid : right.validate = .ok ()) (apart : left.rootKind? ≠ right.rootKind?) :
    ∃ report, left.compare right = .ok report := by
  obtain ⟨candidates, met⟩ := sequence_of_validate rightValid
  by_cases present : left.root.isPresent
  · obtain ⟨leftKind, leftFound, leftIs⟩ := root_kind_present leftValid present
    obtain ⟨rest, compared⟩ := compare_first leftValid rightValid present met
    rw [compared]
    by_cases rightPresent : right.root.isPresent
    · obtain ⟨rightKind, rightFound, rightIs⟩ := root_kind_present rightValid rightPresent
      obtain ⟨others, rfl⟩ := sequence_head rightPresent met
      have kinds : leftKind.nodeKind ≠ rightKind.nodeKind := by
        intro same
        rw [leftIs, rightIs, same] at apart
        exact apart rfl
      rw [Comparison.step_kinds_apart (by simp) leftFound rightFound kinds]
      exact ⟨_, rfl⟩
    · rw [sequence_absent rightPresent] at met
      cases met
      exact ⟨⟨.error (.missingCandidate left.root), 0⟩, rfl⟩
  · refine ⟨⟨Comparison.finish ⟨left.forest, right.forest, candidates.toArray⟩ 0, 0⟩, ?_⟩
    rw [compare_eq leftValid rightValid (listing_of_sequence met), walk_absent present]
    rfl

theorem compare_untyped (leftValid : left.validate = .ok ()) (rightValid : right.validate = .ok ())
    (same : left.rootKind? = right.rootKind?) (untyped : ¬(left.Typed ∧ right.Typed)) :
    left.compare right = .error (.fault (.outOfBounds .types)) := by
  have together : left.root.isPresent ↔ right.root.isPresent := by
    rw [← root_kind_some_iff leftValid, ← root_kind_some_iff rightValid, same]
  have apart := Classical.not_and_iff_not_or_not.1 untyped
  have leftPresent : left.root.isPresent := by
    rcases apart with leftUntyped | rightUntyped
    · exact (untyped_iff.1 leftUntyped).1
    · exact together.2 (untyped_iff.1 rightUntyped).1
  have rightPresent := together.1 leftPresent
  obtain ⟨candidates, met⟩ := sequence_of_validate rightValid
  obtain ⟨others, rfl⟩ := sequence_head rightPresent met
  obtain ⟨leftKind, leftFound, leftIs⟩ := root_kind_present leftValid leftPresent
  obtain ⟨rightKind, rightFound, rightIs⟩ := root_kind_present rightValid rightPresent
  have kinds : leftKind.nodeKind = rightKind.nodeKind := by
    rw [leftIs, rightIs] at same
    exact Option.some.inj same
  have short : left.forest.arena.types.size ≤ left.root.index ∨
      right.forest.arena.types.size ≤ right.root.index := by
    rcases apart with leftUntyped | rightUntyped
    · exact .inl (untyped_iff.1 leftUntyped).2
    · exact .inr (untyped_iff.1 rightUntyped).2
  obtain ⟨rest, compared⟩ := compare_first leftValid rightValid leftPresent met
  rw [compared, Comparison.step_untyped (by simp) leftFound rightFound kinds short]
  rfl

theorem compare_answers (leftValid : left.validate = .ok ()) (rightValid : right.validate = .ok ())
    (typed : left.rootKind? = right.rootKind? → left.Typed ∧ right.Typed) :
    ∃ report, left.compare right = .ok report := by
  by_cases same : left.rootKind? = right.rootKind?
  · obtain ⟨report, _, _, reported, _⟩ :=
      compare_spec leftValid rightValid (typed same).1 (typed same).2
    exact ⟨report, reported⟩
  · exact compare_kinds_apart leftValid rightValid same

/-- Valid trees are always listed. Their hash exists exactly if the root, where there is one, has a
type, and their comparison gives a report exactly if the roots differ in kind or both have types; a
type out of bounds is the only thing that can go wrong. -/
theorem valid_walks_answer (leftValid : left.validate = .ok ())
    (rightValid : right.validate = .ok ()) :
    (∃ ids, left.listing = .ok ids) ∧
    ((∃ hash, left.hash = .ok hash) ↔ left.Typed) ∧
    (∀ fault, left.hash = .error fault → fault = .outOfBounds .types) ∧
    ((∃ report, left.compare right = .ok report) ↔
      (left.rootKind? = right.rootKind? → left.Typed ∧ right.Typed)) ∧
    ∀ refusal, left.compare right = .error refusal → refusal = .fault (.outOfBounds .types) := by
  have listed : ∃ ids, left.listing = .ok ids := by
    obtain ⟨ids, met⟩ := sequence_of_validate leftValid
    exact ⟨_, listing_of_sequence met⟩
  have hashed := answers_iff (hash_typed leftValid) (hash_untyped leftValid)
  have compared := answers_iff (compare_answers leftValid rightValid) (by
    intro refused
    obtain ⟨same, untyped⟩ := Classical.not_imp.1 refused
    exact compare_untyped leftValid rightValid same untyped)
  exact ⟨listed, hashed.1, hashed.2, compared.1, compared.2⟩

end Tree

/-- An arena as a document may give it: with one node and no types. -/
def untypedArena : Workspace :=
  Workspace.performAll {}
    [.readArena (.record
      [("kinds", .list [.record [("Constant", .record [("Int", .int 1)])]]), ("types", .list []),
       ("expr_lists", .list []), ("member_lists", .list []), ("interner", .list [.text ""])])]

theorem untyped_arena_held :
    ∃ tree ∈ untypedArena.tree? ⟨0⟩ ⟨0⟩,
      tree.validate = .ok () ∧ tree.hash = .error (.outOfBounds .types) := by
  decide +kernel

namespace Tree

theorem valid_walks_answer_untyped_arena :
    ∃ tree, untypedArena.tree? ⟨0⟩ ⟨0⟩ = some tree ∧ tree.validate = .ok () ∧
      (∃ ids, tree.listing = .ok ids) ∧
      ((∃ hash, tree.hash = .ok hash) ↔ tree.Typed) ∧
      (∀ fault, tree.hash = .error fault → fault = .outOfBounds .types) ∧
      ((∃ report, tree.compare tree = .ok report) ↔
        (tree.rootKind? = tree.rootKind? → tree.Typed ∧ tree.Typed)) ∧
      ∀ refusal, tree.compare tree = .error refusal → refusal = .fault (.outOfBounds .types) := by
  obtain ⟨tree, held, valid, _⟩ := untyped_arena_held
  exact ⟨tree, held, valid, valid_walks_answer valid valid⟩

/-- Validity alone is not enough for a hash, not even for trees that actions lead to. -/
theorem valid_without_hash :
    ¬∀ (workspace : Workspace) (handle : ArenaHandle) (root : NodeId) (tree : Tree),
      workspace.Reachable → workspace.tree? handle root = some tree → tree.validate = .ok () →
        ∃ hash, tree.hash = .ok hash := by
  intro promised
  obtain ⟨tree, held, valid, failed⟩ := untyped_arena_held
  obtain ⟨hash, found⟩ := promised untypedArena ⟨0⟩ ⟨0⟩ tree ⟨_, rfl⟩ held valid
  rw [failed] at found
  cases found

end Tree

end ExprTree
