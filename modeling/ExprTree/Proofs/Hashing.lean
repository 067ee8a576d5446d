import ExprTree.Proofs.Spelling

/-!
The writes of a tree that can be read are those of its spelling, entry by entry. The hash is thus a
function of the abstract tree: neither places in the arena nor sharing nor the numbers of names have
a part in it.
-/

namespace ExprTree

set_option autoImplicit false

def entryWrites (entry : Label × Nat) : List Write := writes (entry.1.profile entry.2)

def termWrites : Option Term → List Write
  | none => writes NodeId.absent
  | some term => term.spelling.flatMap entryWrites

theorem Forest.Readable.node_writes {forest : Forest} {id : NodeId} {entry : Label × Nat}
    (readable : forest.Readable id) (entered : forest.entry id = .ok entry) :
    forest.nodeWrites id = .ok (entryWrites entry) := by
  obtain ⟨label, count, _, own, _, profiled⟩ := readable.entry
  rw [own] at entered
  cases entered
  rw [node_writes_eq, profiled]
  rfl

namespace Tree

def writing (forest : Forest) (id : NodeId) (sequence : Array Write) :
    Except Fault (Array Write) := do
  return sequence ++ (← forest.nodeWrites id)

theorem fold_writing {forest : Forest} {ids : List NodeId} {entries : List (Label × Nat)}
    (readable : ∀ id ∈ ids, forest.Readable id) (spelled : forest.Spells ids entries)
    (sequence : Array Write) :
    ids.foldlM (fun sequence id => writing forest id sequence) sequence =
      .ok (sequence ++ entries.flatMap entryWrites) := by
  induction spelled generalizing sequence with
  | nil => simp [pure, Except.pure]
  | @cons id entry ids entries entered later induction =>
      have written := (readable id (by simp)).node_writes entered
      have stepped : writing forest id sequence = .ok (sequence ++ entryWrites entry) := by
        rw [writing, written]
        rfl
      rw [List.foldlM_cons, stepped]
      change ids.foldlM _ (sequence ++ entryWrites entry) = _
      rw [induction fun id member => readable id (by simp [member])]
      simp [← Array.toList_inj]

theorem writes_spec {tree : Tree} (valid : tree.validate = .ok ()) (typed : tree.Typed) :
    ∃ term, tree.unfold = .ok term ∧ tree.writes = .ok (termWrites term) := by
  obtain ⟨ids, term, met, unfolded, readable, spelled⟩ := spelled_of_validate valid typed
  refine ⟨term, unfolded, ?_⟩
  by_cases present : tree.root.isPresent
  · rw [Tree.unfold, if_neg (by simp [isAbsent, present])] at unfolded
    obtain ⟨given, _, rfl⟩ := map_ok_iff.1 unfolded
    rw [Tree.writes, if_neg (by simp [isAbsent, present])]
    change (tree.walk { enter := writing tree.forest, fault := fun fault => fault } #[] >>=
      fun sequence => pure sequence.toList) = _
    rw [walk_of_sequence met, fold_writing readable spelled]
    simp [pure, Except.pure, bind, Except.bind, termWrites, spelling?]
  · have absent : tree.root = .absent := by simpa [NodeId.isPresent] using present
    rw [Tree.unfold, if_pos (by simp [isAbsent, present])] at unfolded
    cases unfolded
    rw [Tree.writes, if_pos (by simp [isAbsent, present]), absent]
    rfl

theorem hash_spec {tree : Tree} (valid : tree.validate = .ok ()) (typed : tree.Typed) :
    ∃ term, tree.unfold = .ok term ∧ tree.hash = .ok (Digest.foldWrites (termWrites term)) := by
  obtain ⟨term, unfolded, written⟩ := writes_spec valid typed
  refine ⟨term, unfolded, ?_⟩
  rw [hash, written]
  rfl

end Tree

end ExprTree
