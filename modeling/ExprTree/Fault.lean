import ExprTree.Slot

/-!
What can go wrong while a tree is read. None of it happens in a well-formed tree.
-/

namespace ExprTree

set_option autoImplicit false

inductive Table where
  | nodes | types | childLists | memberLists | names
deriving DecidableEq

inductive Fault where
  /-- A child that must be there is absent. -/
  | missingChild (parent : NodeId) (slot : Slot)
  /-- An entry past the end of a table. -/
  | outOfBounds (table : Table)
  /-- A node below itself: the walk would not come to an end. -/
  | endless
deriving DecidableEq

namespace Fault

def missingText (parent : NodeId) (place : String) : String :=
  inspect parent ++ ": required child `" ++ place ++ "` is absent"

/-- The text of a fault that has one. Entries of lists are not told apart by their list. -/
def message? : Fault → Option String
  | .missingChild parent slot =>
      some (missingText parent (if slot.isList then "list element" else slot.name))
  | .outOfBounds _ | .endless => none

end Fault

end ExprTree
