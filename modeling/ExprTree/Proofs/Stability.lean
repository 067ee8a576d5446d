import ExprTree.Proofs.Equality
import ExprTree.Proofs.Growth

/-!
Nothing that happens later changes a well-formed tree. What is added to its arena or to its
interner, by whichever handle and however ill formed, stands behind all that the tree is made of; so
its listing, its hash and its comparisons with other such trees have the same outcome ever after.
-/

namespace ExprTree

set_option autoImplicit false

namespace Workspace

variable {before after : Workspace}

theorem Extends.forest (grown : before.Extends after) {handle : ArenaHandle} {forest : Forest}
    (held : before.forest? handle = some forest) :
    ∃ later, after.forest? handle = some later ∧ forest.Extends later := by
  obtain ⟨found, named⟩ := forest_held_iff.1 held
  obtain ⟨⟨arena, home⟩, foundLater, arenaGrown, same⟩ := grown.arenas _ _ found
  obtain ⟨names, namedLater, namesGrown⟩ := grown.interners _ _ named
  simp only at same
  refine ⟨⟨arena, names, home⟩, forest_held_iff.2 ⟨foundLater, ?_⟩, arenaGrown, namesGrown, same⟩
  rw [same]
  exact namedLater

end Workspace

namespace Tree

variable {workspace : Workspace} {leftHandle rightHandle : ArenaHandle}
  {leftRoot rightRoot : NodeId} {left right : Tree}

theorem WellFormed.extends {before after : Forest} {root : NodeId}
    (wellFormed : WellFormed ⟨before, root⟩) (grown : before.Extends after) :
    WellFormed ⟨after, root⟩ where
  valid := validate_kept grown.kept wellFormed.valid
  aligned := grown.arena.aligned.1 wellFormed.aligned

theorem WellFormed.later {handle : ArenaHandle} {root : NodeId} {tree : Tree}
    (wellFormed : tree.WellFormed) (held : workspace.tree? handle root = some tree)
    (actions : List Action) :
    ∃ later, (workspace.performAll actions).tree? handle root = some later ∧ later.WellFormed ∧
      tree.SameReadings later := by
  obtain ⟨forest, own⟩ := tree
  obtain ⟨found, rfl⟩ := Workspace.tree_held_iff.1 held
  have workspaceGrown := Workspace.tracks_extends.perform_all workspace actions
  obtain ⟨grown, foundLater, forestGrown⟩ := workspaceGrown.forest found
  exact ⟨⟨grown, own⟩, Workspace.tree_held_iff.2 ⟨foundLater, rfl⟩, wellFormed.extends forestGrown,
    same_readings_kept forestGrown.kept wellFormed.valid wellFormed.typed⟩

/-- Whatever is done later, well-formed trees stay well formed, with the same listings and hashes,
and comparing two of them gives the same report as before. -/
theorem well_formed_stable (reachable : workspace.Reachable)
    (leftHeld : workspace.tree? leftHandle leftRoot = some left)
    (rightHeld : workspace.tree? rightHandle rightRoot = some right)
    (leftWellFormed : left.WellFormed) (rightWellFormed : right.WellFormed)
    (actions : List Action) :
    ∃ leftLater rightLater ids hash report,
      (workspace.performAll actions).tree? leftHandle leftRoot = some leftLater ∧
      (workspace.performAll actions).tree? rightHandle rightRoot = some rightLater ∧
      leftLater.WellFormed ∧ rightLater.WellFormed ∧
      left.listing = .ok ids ∧ leftLater.listing = .ok ids ∧
      left.hash = .ok hash ∧ leftLater.hash = .ok hash ∧
      left.compare right = .ok report ∧ leftLater.compare rightLater = .ok report := by
  obtain ⟨leftLater, leftHeldLater, leftStays, leftSame⟩ := leftWellFormed.later leftHeld actions
  obtain ⟨rightLater, rightHeldLater, rightStays, rightSame⟩ :=
    rightWellFormed.later rightHeld actions
  have compatible := reachable.compatible leftHeld rightHeld
  have compatibleLater :=
    (reachable.perform_all actions).compatible leftHeldLater rightHeldLater
  obtain ⟨ids, listed, listedLater⟩ := leftSame.listing
  obtain ⟨hash, hashed, hashedLater⟩ := leftSame.hash
  obtain ⟨report, compared, comparedLater⟩ :=
    leftSame.compare rightSame compatible compatibleLater
  exact ⟨leftLater, rightLater, ids, hash, report, leftHeldLater, rightHeldLater, leftStays,
    rightStays, listed, listedLater, hashed, hashedLater, compared, comparedLater⟩

/-- Additions of every sort to two arenas: a copy, nodes and lists that refer to nothing, lists that
are too long for a span, alone and within a build, and new strings. -/
def additions : List Action :=
  [.copyArena ⟨0⟩, .push ⟨0⟩ ⟨.unary .not .absent .builtin, .bool⟩,
   .push ⟨1⟩ ⟨.parameter ⟨9⟩, .int⟩, .pushChildren ⟨0⟩ (List.replicate UInt16.size ⟨0⟩),
   .pushMembers ⟨2⟩ (List.replicate UInt16.size ⟨0⟩),
   .build ⟨1⟩ (.invoke ⟨7⟩ (List.replicate UInt16.size ⟨0⟩) .int), .build ⟨2⟩ (.string "z"),
   .shareInterner ⟨1⟩, .intern ⟨0⟩ "w"]

theorem well_formed_stable_two_arenas :
    ∃ left right leftLater rightLater ids hash report, twoArenas.Reachable ∧
      twoArenas.tree? ⟨0⟩ ⟨2⟩ = some left ∧ twoArenas.tree? ⟨1⟩ ⟨2⟩ = some right ∧
      left.WellFormed ∧ right.WellFormed ∧
      (twoArenas.performAll additions).tree? ⟨0⟩ ⟨2⟩ = some leftLater ∧
      (twoArenas.performAll additions).tree? ⟨1⟩ ⟨2⟩ = some rightLater ∧
      leftLater.WellFormed ∧ rightLater.WellFormed ∧
      left.listing = .ok ids ∧ leftLater.listing = .ok ids ∧
      left.hash = .ok hash ∧ leftLater.hash = .ok hash ∧
      left.compare right = .ok report ∧ leftLater.compare rightLater = .ok report := by
  obtain ⟨left, leftHeld, right, rightHeld, leftWellFormed, rightWellFormed, _⟩ := two_arenas_held
  obtain ⟨leftLater, rightLater, ids, hash, report, conclusion⟩ := well_formed_stable
    two_arenas_reachable leftHeld rightHeld leftWellFormed rightWellFormed additions
  exact ⟨left, right, leftLater, rightLater, ids, hash, report, two_arenas_reachable, leftHeld,
    rightHeld, leftWellFormed, rightWellFormed, conclusion⟩

end Tree

end ExprTree
