import ExprTree.Attribute
import ExprTree.Digest.Fold
import ExprTree.Walk

/-!
The hash of a tree. A node writes its kind, its type and its attributes, and then its children
write. Numbers of nodes, places in tables and names are not written, names being replaced by their
strings: the writes depend on nothing but the structure of the tree.
-/

namespace ExprTree

set_option autoImplicit false

namespace Forest

def valueWrites (forest : Forest) : AttributeValue → Except Fault (List Write)
  | .literal (.text name) => do
      return .tag (ConstValue.text name).ctorIdx :: writes (← forest.text name)
  | .literal value => .ok (writes value)
  | .name name => do return writes (← forest.text name)
  | .member id => .ok (writes id)
  | .method id => .ok (writes id)
  | .operatorMethod id => .ok (writes id)
  | .ctor id => .ok (writes id)
  | .type type => .ok (writes type)
  | .flag value => .ok (writes value)
  | .count value => .ok [.count value]

def nodeWrites (forest : Forest) (id : NodeId) : Except Fault (List Write) := do
  let kind ← forest.arena.kind id
  let type ← forest.arena.type id
  let attributes ← forest.arena.attributes kind
  let parts ← attributes.mapM fun (_, value) => forest.valueWrites value
  return writes kind.nodeKind ++ writes type ++ parts.flatten

end Forest

namespace Tree

/-- All writes of a tree. The absent tree writes the number that stands for no node. -/
def writes (tree : Tree) : Except Fault (List Write) :=
  if tree.isAbsent then .ok (ExprTree.writes tree.root)
  else do
    let sequence ← tree.walk
      { enter := fun id (sequence : Array Write) => do
          return sequence ++ (← tree.forest.nodeWrites id)
        fault := fun fault => fault } #[]
    return sequence.toList

def hash (tree : Tree) : Except Fault UInt64 := do
  return Digest.foldWrites (← tree.writes)

end Tree

end ExprTree
