import ExprTree.Proofs.Hashing
import ExprTree.Proofs.Matching
import ExprTree.Proofs.Reachability

/-!
Equality of trees is equality of what they unfold to, and equal trees have equal hashes: in every
workspace that actions lead to, whichever arenas hold the two trees and whether or not these share
an interner.
-/

namespace ExprTree

set_option autoImplicit false

/-- Two arenas that hold the same sum of a string with itself. In the first one the operand is
shared, and is not the first string. -/
def twoArenas : Workspace :=
  Workspace.performAll {}
    [.newArena none, .build ⟨0⟩ (.string "y"), .build ⟨0⟩ (.string "x"),
     .build ⟨0⟩ (.binary .add ⟨1⟩ ⟨1⟩ .builtin .string),
     .newArena none, .build ⟨1⟩ (.string "x"), .build ⟨1⟩ (.string "x"),
     .build ⟨1⟩ (.binary .add ⟨0⟩ ⟨1⟩ .builtin .string)]

theorem two_arenas_reachable : twoArenas.Reachable := ⟨_, rfl⟩

theorem two_arenas_held :
    ∃ left ∈ twoArenas.tree? ⟨0⟩ ⟨2⟩, ∃ right ∈ twoArenas.tree? ⟨1⟩ ⟨2⟩,
      left.WellFormed ∧ right.WellFormed ∧ left.isEqual right = .ok true := by
  decide +kernel

theorem Comparison.Report.is_equal_iff (report : Comparison.Report) :
    report.isEqual ↔ report.result = .ok () := by
  rw [isEqual]
  split
  case h_1 equal => simp [equal]
  case h_2 differ => simp [differ]

namespace Tree

variable {workspace : Workspace} {leftHandle rightHandle : ArenaHandle}
  {leftRoot rightRoot : NodeId} {left right : Tree}

theorem is_equal_of_compare {report : Comparison.Report}
    (compared : left.compare right = .ok report) : left.isEqual right = .ok report.isEqual :=
  bind_ok_iff.2 ⟨report, compared, rfl⟩

theorem is_equal_true_iff :
    left.isEqual right = .ok true ↔
      ∃ report, left.compare right = .ok report ∧ report.result = .ok () := by
  constructor
  · intro equal
    obtain ⟨report, compared, same⟩ := bind_ok_iff.1 equal
    exact ⟨report, compared, report.is_equal_iff.1 (Except.ok.inj same)⟩
  · intro ⟨report, compared, equal⟩
    rw [is_equal_of_compare compared, report.is_equal_iff.2 equal]

/-- Comparing two well-formed trees gives a report, and it says that they are equal exactly if they
unfold to the same abstract tree. -/
theorem compare_ok_iff (reachable : workspace.Reachable)
    (leftHeld : workspace.tree? leftHandle leftRoot = some left)
    (rightHeld : workspace.tree? rightHandle rightRoot = some right)
    (leftWellFormed : left.WellFormed) (rightWellFormed : right.WellFormed) :
    ∃ report leftTerm rightTerm, left.compare right = .ok report ∧
      left.unfold = .ok leftTerm ∧ right.unfold = .ok rightTerm ∧
      (report.result = .ok () ↔ leftTerm = rightTerm) := by
  obtain ⟨report, leftTerm, rightTerm, compared, leftUnfolded, rightUnfolded, exactly⟩ :=
    compare_spec leftWellFormed.valid rightWellFormed.valid leftWellFormed.typed
      rightWellFormed.typed
  have compatible := reachable.compatible leftHeld rightHeld
  exact ⟨report, leftTerm, rightTerm, compared, leftUnfolded, rightUnfolded, exactly compatible⟩

theorem compare_ok_iff_two_arenas :
    ∃ left right report leftTerm rightTerm, twoArenas.Reachable ∧
      twoArenas.tree? ⟨0⟩ ⟨2⟩ = some left ∧ twoArenas.tree? ⟨1⟩ ⟨2⟩ = some right ∧
      left.WellFormed ∧ right.WellFormed ∧ left.compare right = .ok report ∧
      left.unfold = .ok leftTerm ∧ right.unfold = .ok rightTerm ∧
      (report.result = .ok () ↔ leftTerm = rightTerm) := by
  obtain ⟨left, leftHeld, right, rightHeld, leftWellFormed, rightWellFormed, _⟩ := two_arenas_held
  obtain ⟨report, leftTerm, rightTerm, conclusion⟩ :=
    compare_ok_iff two_arenas_reachable leftHeld rightHeld leftWellFormed rightWellFormed
  exact ⟨left, right, report, leftTerm, rightTerm, two_arenas_reachable, leftHeld, rightHeld,
    leftWellFormed, rightWellFormed, conclusion⟩

/-- Well-formed trees that are reported to be equal have a hash, and the same one. -/
theorem hash_eq_of_equal (reachable : workspace.Reachable)
    (leftHeld : workspace.tree? leftHandle leftRoot = some left)
    (rightHeld : workspace.tree? rightHandle rightRoot = some right)
    (leftWellFormed : left.WellFormed) (rightWellFormed : right.WellFormed)
    {report : Comparison.Report} (compared : left.compare right = .ok report)
    (equal : report.result = .ok ()) :
    ∃ hash, left.hash = .ok hash ∧ right.hash = .ok hash := by
  obtain ⟨other, leftTerm, rightTerm, reported, leftUnfolded, rightUnfolded, exactly⟩ :=
    compare_spec leftWellFormed.valid rightWellFormed.valid leftWellFormed.typed
      rightWellFormed.typed
  rw [reported] at compared
  cases compared
  have same := (exactly (reachable.compatible leftHeld rightHeld)).1 equal
  obtain ⟨leftGiven, leftIs, leftHash⟩ := hash_spec leftWellFormed.valid leftWellFormed.typed
  obtain ⟨rightGiven, rightIs, rightHash⟩ := hash_spec rightWellFormed.valid rightWellFormed.typed
  rw [leftUnfolded] at leftIs
  rw [rightUnfolded, ← same] at rightIs
  cases leftIs
  cases rightIs
  exact ⟨_, leftHash, rightHash⟩

theorem hash_eq_of_equal_two_arenas :
    ∃ left right report hash, twoArenas.Reachable ∧
      twoArenas.tree? ⟨0⟩ ⟨2⟩ = some left ∧ twoArenas.tree? ⟨1⟩ ⟨2⟩ = some right ∧
      left.WellFormed ∧ right.WellFormed ∧ left.compare right = .ok report ∧
      report.result = .ok () ∧ left.hash = .ok hash ∧ right.hash = .ok hash := by
  obtain ⟨left, leftHeld, right, rightHeld, leftWellFormed, rightWellFormed, same⟩ :=
    two_arenas_held
  obtain ⟨report, compared, equal⟩ := is_equal_true_iff.1 same
  obtain ⟨hash, leftHash, rightHash⟩ := hash_eq_of_equal two_arenas_reachable leftHeld rightHeld
    leftWellFormed rightWellFormed compared equal
  exact ⟨left, right, report, hash, two_arenas_reachable, leftHeld, rightHeld, leftWellFormed,
    rightWellFormed, compared, equal, leftHash, rightHash⟩

end Tree

end ExprTree
