import ExprTree.Operator
import ExprTree.TypeId

/-!
Nodes of expression trees. An `ExprKind` holds what a node says itself and where its children are:
by number, or as a span of the arena's table of child lists. Its `NodeKind` is what remains when
everything but the operator is forgotten.
-/

namespace ExprTree

set_option autoImplicit false

/-- A literal. A float is kept as its IEEE 754 bits, so that equal literals are those with equal
bits: a NaN equals itself, and the two zeros differ. -/
inductive ConstValue where
  | null
  | bool (value : Bool)
  | int (value : Int64)
  | float (bits : UInt64)
  | char (value : Char)
  | text (name : Name)
deriving DecidableEq

namespace ConstValue

def floatBits? : ConstValue → Option UInt64
  | .float bits => some bits
  | _ => none

end ConstValue

/-- Node numbers may be absent only as the target of a member access or a method call, which is then
one of a static member. -/
inductive ExprKind where
  | constant (value : ConstValue)
  | memberAccess (target : NodeId) (member : MemberId)
  | methodCall (target : NodeId) (method : MethodId) (args : NodeRange)
  | parameter (name : Name)
  /-- Whether the operand is of the tested type. -/
  | typeIs (operand : NodeId) (tested : TypeId)
  | binary (op : BinaryOp) (left right : NodeId) (info : OperatorInfo)
  | unary (op : UnaryOp) (operand : NodeId) (info : OperatorInfo)
  /-- A constructor call, or the default value of a type if there is no constructor. The members, if
  there are any, are set from the arguments one by one. -/
  | new (ctor : Option CtorId) (args : NodeRange) (members : MemberRange)
  | conditional (test ifTrue ifFalse : NodeId)
  | invoke (callee : NodeId) (args : NodeRange)
  | lambda (body : NodeId) (params : NodeRange)
  /-- An array given by its elements. -/
  | newArrayInit (elements : NodeRange)
  /-- An array given by its sizes. -/
  | newArrayBounds (bounds : NodeRange)
deriving DecidableEq

inductive NodeKind where
  | constant
  | memberAccess
  | methodCall
  | parameter
  | typeIs
  | binary (op : BinaryOp)
  | unary (op : UnaryOp)
  | new
  | conditional
  | invoke
  | lambda
  | newArrayInit
  | newArrayBounds
deriving DecidableEq

namespace NodeKind

def name : NodeKind → String
  | .constant => "Constant"
  | .memberAccess => "MemberAccess"
  | .methodCall => "MethodCall"
  | .parameter => "Parameter"
  | .typeIs => "TypeIs"
  | .binary _ => "Binary"
  | .unary _ => "Unary"
  | .new => "New"
  | .conditional => "Conditional"
  | .invoke => "Invoke"
  | .lambda => "Lambda"
  | .newArrayInit => "NewArrayInit"
  | .newArrayBounds => "NewArrayBounds"

/-- The kind as messages show it, a binary operator by its symbol. -/
def display : NodeKind → String
  | .binary op => Inspect.positional "Binary" [op.symbol]
  | .unary op => Inspect.positional "Unary" [op.name]
  | kind => kind.name

end NodeKind

namespace ExprKind

def nodeKind : ExprKind → NodeKind
  | .constant .. => .constant
  | .memberAccess .. => .memberAccess
  | .methodCall .. => .methodCall
  | .parameter .. => .parameter
  | .typeIs .. => .typeIs
  | .binary op .. => .binary op
  | .unary op .. => .unary op
  | .new .. => .new
  | .conditional .. => .conditional
  | .invoke .. => .invoke
  | .lambda .. => .lambda
  | .newArrayInit .. => .newArrayInit
  | .newArrayBounds .. => .newArrayBounds

def name (kind : ExprKind) : String := kind.nodeKind.name

def isConstant : ExprKind → Bool
  | .constant .. => true
  | _ => false

def isParameter : ExprKind → Bool
  | .parameter .. => true
  | _ => false

def isConditional : ExprKind → Bool
  | .conditional .. => true
  | _ => false

def isLambda : ExprKind → Bool
  | .lambda .. => true
  | _ => false

end ExprKind

structure Node where
  kind : ExprKind
  type : TypeId
deriving DecidableEq

end ExprTree
