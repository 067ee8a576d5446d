import ExprTree.Node

/-!
Where the children of a node are. `ExprKind.fields` is the one place that says which children a kind
of node has and in which order; every walk and every check goes through it.
-/

namespace ExprTree

set_option autoImplicit false

inductive Slot where
  | target | operand | left | right | test | ifTrue | ifFalse | callee | body
  | args | params | elements | bounds
  /-- Not a place for children: the members that a construction sets. -/
  | members
deriving DecidableEq

namespace Slot

def name : Slot → String
  | .target => "target"
  | .operand => "operand"
  | .left => "left"
  | .right => "right"
  | .test => "test"
  | .ifTrue => "if_true"
  | .ifFalse => "if_false"
  | .callee => "callee"
  | .body => "body"
  | .args => "args"
  | .params => "params"
  | .elements => "elements"
  | .bounds => "bounds"
  | .members => "members"

def isList : Slot → Bool
  | .args | .params | .elements | .bounds | .members => true
  | _ => false

end Slot

inductive ChildField where
  | optional (slot : Slot) (child : NodeId)
  | required (slot : Slot) (child : NodeId)
  | list (slot : Slot) (range : NodeRange)
deriving DecidableEq

def ExprKind.fields : ExprKind → List ChildField
  | .constant _ => []
  | .memberAccess target _ => [.optional .target target]
  | .methodCall target _ args => [.optional .target target, .list .args args]
  | .parameter _ => []
  | .typeIs operand _ => [.required .operand operand]
  | .binary _ left right _ => [.required .left left, .required .right right]
  | .unary _ operand _ => [.required .operand operand]
  | .new _ args _ => [.list .args args]
  | .conditional test ifTrue ifFalse =>
      [.required .test test, .required .ifTrue ifTrue, .required .ifFalse ifFalse]
  | .invoke callee args => [.required .callee callee, .list .args args]
  | .lambda body params => [.required .body body, .list .params params]
  | .newArrayInit elements => [.list .elements elements]
  | .newArrayBounds bounds => [.list .bounds bounds]

end ExprTree
