import ExprTree.Walk

/-!
Which trees are well formed. Every node reachable from the root passes the checks of its own slots:
what must be there is there, every child is a node of the arena and older than its parent, lists and
members lie inside their tables, and names belong to the interner. Since children are older than
their parents, nothing is below itself.
-/

namespace ExprTree

set_option autoImplicit false

inductive Defect where
  | danglingNode (id : NodeId) (size : Nat)
  | missingChild (parent : NodeId) (slot : Slot)
  | forwardReference (parent child : NodeId)
  | rangeOutOfBounds (parent : NodeId) (slot : Slot) (start stop : Nat)
  | memberArityMismatch (parent : NodeId) (members args : Nat)
  | nonParameterParam (parent param : NodeId)
  | unknownName (id : NodeId) (name : Name)
deriving DecidableEq

def Defect.message : Defect → String
  | .danglingNode id size =>
      inspect id ++ " is not a node of this arena (" ++ inspect size ++ " nodes)"
  | .missingChild parent slot => Fault.missingText parent slot.name
  | .forwardReference parent child =>
      inspect parent ++ ": child " ++ inspect child ++ " was not allocated before its parent"
  | .rangeOutOfBounds parent slot start stop =>
      inspect parent ++ ": `" ++ slot.name ++ "` range " ++ inspect start ++ ".." ++
        inspect stop ++ " is out of bounds"
  | .memberArityMismatch parent members args =>
      inspect parent ++ ": " ++ inspect members ++ " bound members for " ++ inspect args ++
        " constructor arguments"
  | .nonParameterParam parent param =>
      inspect parent ++ ": lambda parameter " ++ inspect param ++ " is not a Parameter node"
  | .unknownName id name =>
      inspect id ++ ": " ++ inspect name ++ " was not interned by this arena's interner"

/-- Why something is not done with a tree: it is not well formed, or reading it failed. The second
is kept apart because a check that comes first can rule it out. -/
inductive Refusal where
  | malformed (defect : Defect)
  | fault (fault : Fault)
deriving DecidableEq

namespace Forest

def checkChild (forest : Forest) (parent child : NodeId) : Except Refusal Unit :=
  if !forest.arena.contains child then
    .error (.malformed (.danglingNode child forest.arena.size))
  else if parent.raw ≤ child.raw then .error (.malformed (.forwardReference parent child))
  else .ok ()

def checkRequired (forest : Forest) (parent : NodeId) (slot : Slot) (child : NodeId) :
    Except Refusal Unit :=
  if child.isPresent then forest.checkChild parent child
  else .error (.malformed (.missingChild parent slot))

def checkField (forest : Forest) (parent : NodeId) : ChildField → Except Refusal Unit
  | .optional _ child => if child.isPresent then forest.checkChild parent child else .ok ()
  | .required slot child => forest.checkRequired parent slot child
  | .list slot range =>
      if forest.arena.childLists.contains range then do
        let children ← (forest.arena.childList range).mapError .fault
        children.forM (forest.checkRequired parent slot)
      else .error (.malformed (.rangeOutOfBounds parent slot range.first range.stop))

def checkParam (forest : Forest) (parent param : NodeId) : Except Refusal Unit := do
  let kind ← (forest.arena.kind param).mapError .fault
  if kind.isParameter then .ok () else .error (.malformed (.nonParameterParam parent param))

def checkName (forest : Forest) (id : NodeId) (name : Name) : Except Refusal Unit :=
  if forest.names.contains name then .ok () else .error (.malformed (.unknownName id name))

/-- What a kind asks beyond the presence of its children. -/
def checkContent (forest : Forest) (id : NodeId) : ExprKind → Except Refusal Unit
  | .constant (.text name) | .parameter name => forest.checkName id name
  | .new _ args members =>
      if !forest.arena.memberLists.contains members then
        .error (.malformed (.rangeOutOfBounds id .members members.first members.stop))
      else if !members.isEmpty && members.size != args.size then
        .error (.malformed (.memberArityMismatch id members.size args.size))
      else .ok ()
  | .lambda _ params => do
      let params ← (forest.arena.childList params).mapError .fault
      params.forM (forest.checkParam id)
  | _ => .ok ()

def checkNode (forest : Forest) (id : NodeId) : Except Refusal Unit := do
  let kind ← (forest.arena.kind id).mapError .fault
  kind.fields.forM (forest.checkField id)
  forest.checkContent id kind

end Forest

/-- Succeeds on well-formed trees, to which the absent tree belongs; otherwise gives the first
defect in pre-order. -/
def Tree.validate (tree : Tree) : Except Refusal Unit :=
  if tree.isAbsent then .ok ()
  else if !tree.forest.arena.contains tree.root then
    .error (.malformed (.danglingNode tree.root tree.forest.arena.size))
  else
    tree.walk { enter := fun id _ => tree.forest.checkNode id, fault := Refusal.fault } ()

end ExprTree
