import ExprTree.Proofs.Preservation
import ExprTree.Proofs.Reachability

/-!
Names of one interner are compared as numbers, names of two interners as strings. Whichever is done,
the outcome is the same: a tree can be stored anew, with the names that another interner gives to
its strings, and neither a comparison, in which it may stand on either side, nor its hash will tell.
-/

namespace ExprTree

set_option autoImplicit false

/-- The second forest has what the first one has, with other names for the same strings. A name that
stands for nothing may become any name. -/
structure Forest.Renamed (before after : Forest) : Prop where
  kinds : List.Forall₂ (ExprKind.Renamed (before.SameText after)) before.arena.kinds.toList
    after.arena.kinds.toList
  types : after.arena.types = before.arena.types
  childLists : after.arena.childLists = before.arena.childLists
  memberLists : after.arena.memberLists = before.arena.memberLists

theorem kept_of_forall₂ {Item : Type} {relation : Item → Item → Prop} {before after : Array Item}
    (each : List.Forall₂ relation before.toList after.toList) : KeptBy relation before after := by
  intro position item found
  obtain ⟨inside, rfl⟩ := Array.getElem?_eq_some_iff.1 found
  have sizes : before.size = after.size := each.length_eq
  have insideAfter : position < after.size := by omega
  exact ⟨after[position], Array.getElem?_eq_getElem insideAfter, each.get inside insideAfter⟩

theorem Forest.Renamed.kept {before after : Forest} (renamed : before.Renamed after) :
    before.KeptIn after where
  kinds := kept_of_forall₂ renamed.kinds
  types := by
    rw [renamed.types]
    intro position type found
    exact ⟨type, found, rfl⟩
  childLists := by
    rw [renamed.childLists]
    exact List.prefix_refl _
  memberLists := by
    rw [renamed.memberLists]
    exact List.prefix_refl _

/-- Three arenas. The first two share an interner; the third one holds the same tree as the first,
with an interner that numbers the two strings the other way round. -/
def swappedNames : Workspace :=
  Workspace.performAll {}
    [.newArena none, .build ⟨0⟩ (.string "y"), .build ⟨0⟩ (.parameter "x" .string),
     .build ⟨0⟩ (.binary .add ⟨1⟩ ⟨0⟩ .builtin .string),
     .shareInterner ⟨0⟩, .newArena (some ⟨0⟩), .build ⟨1⟩ (.string "y"),
     .build ⟨1⟩ (.parameter "z" .string), .build ⟨1⟩ (.binary .add ⟨1⟩ ⟨0⟩ .builtin .string),
     .newArena none, .shareInterner ⟨2⟩, .intern ⟨1⟩ "x", .build ⟨2⟩ (.string "y"),
     .build ⟨2⟩ (.parameter "x" .string), .build ⟨2⟩ (.binary .add ⟨1⟩ ⟨0⟩ .builtin .string)]

theorem swapped_names_reachable : swappedNames.Reachable := ⟨_, rfl⟩

theorem swapped_names_held :
    ∃ left ∈ swappedNames.tree? ⟨0⟩ ⟨2⟩, ∃ right ∈ swappedNames.tree? ⟨1⟩ ⟨2⟩,
      ∃ renamed ∈ swappedNames.tree? ⟨2⟩ ⟨2⟩, left.WellFormed ∧ right.WellFormed ∧
        left.forest.arena.kinds = #[.constant (.text ⟨1⟩), .parameter ⟨2⟩,
          .binary .add ⟨1⟩ ⟨0⟩ .builtin] ∧
        renamed.forest.arena.kinds = #[.constant (.text ⟨2⟩), .parameter ⟨1⟩,
          .binary .add ⟨1⟩ ⟨0⟩ .builtin] ∧
        renamed.forest.arena.types = left.forest.arena.types ∧
        renamed.forest.arena.childLists.entries = left.forest.arena.childLists.entries ∧
        renamed.forest.arena.memberLists.entries = left.forest.arena.memberLists.entries ∧
        left.forest.text ⟨1⟩ = .ok "y" ∧ renamed.forest.text ⟨2⟩ = .ok "y" ∧
        left.forest.text ⟨2⟩ = .ok "x" ∧ renamed.forest.text ⟨1⟩ = .ok "x" := by
  decide +kernel

theorem same_text_of_found {before after : Forest} {name other : Name} {text : String}
    (found : before.text name = .ok text) (otherFound : after.text other = .ok text) :
    before.SameText after name other := by
  intro given givenFound
  rw [found] at givenFound
  cases givenFound
  exact otherFound

theorem swapped_names_renamed :
    ∃ left ∈ swappedNames.tree? ⟨0⟩ ⟨2⟩, ∃ right ∈ swappedNames.tree? ⟨1⟩ ⟨2⟩,
      ∃ renamed ∈ swappedNames.tree? ⟨2⟩ ⟨2⟩, left.WellFormed ∧ right.WellFormed ∧
        left.forest.Renamed renamed.forest := by
  obtain ⟨left, leftHeld, right, rightHeld, renamed, renamedHeld, leftWellFormed, rightWellFormed,
    kinds, renamedKinds, types, childLists, memberLists, y, renamedY, x, renamedX⟩ :=
    swapped_names_held
  refine ⟨left, leftHeld, right, rightHeld, renamed, renamedHeld, leftWellFormed, rightWellFormed,
    ?_, types, congrArg ListTable.mk childLists, congrArg ListTable.mk memberLists⟩
  rw [kinds, renamedKinds]
  exact .cons (.text (same_text_of_found y renamedY))
    (.cons (.parameter (same_text_of_found x renamedX)) (.cons (.nameless rfl) .nil))

namespace Tree

variable {workspace : Workspace} {leftHandle renamedHandle rightHandle : ArenaHandle}
  {root rightRoot : NodeId} {left renamed right : Tree}

/-- Storing a tree with names of another interner changes no outcome. A comparison with a third
tree, on either side, gives the same report, whichever of the trees share their interner; and the
hash is the same. -/
theorem renamed_same_outcome (reachable : workspace.Reachable)
    (leftHeld : workspace.tree? leftHandle root = some left)
    (renamedHeld : workspace.tree? renamedHandle root = some renamed)
    (rightHeld : workspace.tree? rightHandle rightRoot = some right)
    (leftWellFormed : left.WellFormed) (rightWellFormed : right.WellFormed)
    (alike : left.forest.Renamed renamed.forest) :
    ∃ report reverse hash, left.compare right = .ok report ∧ renamed.compare right = .ok report ∧
      right.compare left = .ok reverse ∧ right.compare renamed = .ok reverse ∧
      left.hash = .ok hash ∧ renamed.hash = .ok hash := by
  have same : left.SameReadings renamed := by
    have restored : Tree.mk renamed.forest left.root = renamed := by
      rw [(Workspace.tree_held_iff.1 leftHeld).2, ← (Workspace.tree_held_iff.1 renamedHeld).2]
    rw [← restored]
    exact same_readings_kept alike.kept leftWellFormed.valid leftWellFormed.typed
  have rightSame := SameReadings.refl rightWellFormed.valid rightWellFormed.typed
  obtain ⟨report, compared, renamedCompared⟩ := same.compare rightSame
    (reachable.compatible leftHeld rightHeld) (reachable.compatible renamedHeld rightHeld)
  obtain ⟨reverse, reversed, renamedReversed⟩ := rightSame.compare same
    (reachable.compatible rightHeld leftHeld) (reachable.compatible rightHeld renamedHeld)
  obtain ⟨hash, hashed, renamedHashed⟩ := same.hash
  exact ⟨report, reverse, hash, compared, renamedCompared, reversed, renamedReversed, hashed,
    renamedHashed⟩

theorem renamed_same_outcome_swapped_names :
    ∃ left right renamed report reverse hash, swappedNames.Reachable ∧
      swappedNames.tree? ⟨0⟩ ⟨2⟩ = some left ∧ swappedNames.tree? ⟨2⟩ ⟨2⟩ = some renamed ∧
      swappedNames.tree? ⟨1⟩ ⟨2⟩ = some right ∧ left.WellFormed ∧ right.WellFormed ∧
      left.forest.Renamed renamed.forest ∧
      left.compare right = .ok report ∧ renamed.compare right = .ok report ∧
      right.compare left = .ok reverse ∧ right.compare renamed = .ok reverse ∧
      left.hash = .ok hash ∧ renamed.hash = .ok hash := by
  obtain ⟨left, leftHeld, right, rightHeld, renamed, renamedHeld, leftWellFormed, rightWellFormed,
    alike⟩ := swapped_names_renamed
  obtain ⟨report, reverse, hash, conclusion⟩ := renamed_same_outcome swapped_names_reachable
    leftHeld renamedHeld rightHeld leftWellFormed rightWellFormed alike
  exact ⟨left, right, renamed, report, reverse, hash, swapped_names_reachable, leftHeld,
    renamedHeld, rightHeld, leftWellFormed, rightWellFormed, alike, conclusion⟩

end Tree

end ExprTree
