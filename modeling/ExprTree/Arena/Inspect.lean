import ExprTree.Arena
import ExprTree.Node.Inspect

/-! Inspection text of a forest: all its tables, and how many strings its interner has. -/

namespace ExprTree

set_option autoImplicit false

instance : Inspect Forest where
  inspect forest := Inspect.named "ExprArena"
    [("kinds", inspect forest.arena.kinds.toList), ("types", inspect forest.arena.types.toList),
     ("expr_lists", inspect forest.arena.childLists),
     ("member_lists", inspect forest.arena.memberLists), ("interner", inspect forest.names)]

end ExprTree
