import ExprTree.Arena
import ExprTree.Node.Inspect
import ExprTree.Node.Digest

/-!
What a node says besides its kind, its type and its children. Each kind has a fixed list of
attributes, the lengths of child lists among them: with equal attributes, two nodes of one kind
have equally many children in the same slots. Comparison and hashing both read this list.
-/

namespace ExprTree

set_option autoImplicit false

inductive Attribute where
  | value | member | method
  /-- Whether there is a target. -/
  | target
  /-- The length of the node's child list. -/
  | arity
  | parameterName | typeOperand | operatorMethod | lifted | liftedToNull | ctor | boundMemberCount
  | boundMember (index : Nat)
deriving DecidableEq

namespace Attribute

def name : Attribute → String
  | .value => "Value"
  | .member => "Member"
  | .method => "Method"
  | .target => "Target"
  | .arity => "Arity"
  | .parameterName => "ParameterName"
  | .typeOperand => "TypeOperand"
  | .operatorMethod => "OperatorMethod"
  | .lifted => "Lifted"
  | .liftedToNull => "LiftedToNull"
  | .ctor => "Constructor"
  | .boundMemberCount => "BoundMemberCount"
  | .boundMember _ => "BoundMember"

def display : Attribute → String
  | .value => "literal value"
  | .member => "member"
  | .method => "method"
  | .target => "target presence"
  | .arity => "list length"
  | .parameterName => "parameter name"
  | .typeOperand => "tested type"
  | .operatorMethod => "operator method"
  | .lifted => "lifting"
  | .liftedToNull => "lifting to null"
  | .ctor => "constructor"
  | .boundMemberCount => "bound member count"
  | .boundMember index => "bound member #" ++ inspect index

/-- All attributes in the order of their numbers, with `index` for the last one. -/
def all (index : Nat) : List Attribute :=
  [.value, .member, .method, .target, .arity, .parameterName, .typeOperand, .operatorMethod,
   .lifted, .liftedToNull, .ctor, .boundMemberCount, .boundMember index]

end Attribute

instance : Inspect Attribute where
  inspect kind :=
    match kind with
    | .boundMember index => Inspect.named kind.name [("index", inspect index)]
    | _ => kind.name

instance : Digest Attribute where
  writes kind := .tag kind.ctorIdx ::
    match kind with
    | .boundMember index => [.count index]
    | _ => []

inductive AttributeValue where
  | literal (value : ConstValue)
  | name (name : Name)
  | member (id : MemberId)
  | method (id : MethodId)
  | operatorMethod (id : Option MethodId)
  | ctor (id : Option CtorId)
  | type (type : TypeId)
  | flag (value : Bool)
  | count (value : Nat)
deriving DecidableEq

def OperatorInfo.attributes (info : OperatorInfo) : List (Attribute × AttributeValue) :=
  [(.operatorMethod, .operatorMethod info.method), (.lifted, .flag info.lifted),
   (.liftedToNull, .flag info.liftedToNull)]

/-- The attributes that a node gives by itself, in the order in which they are compared. -/
def ExprKind.ownAttributes : ExprKind → List (Attribute × AttributeValue)
  | .constant value => [(.value, .literal value)]
  | .memberAccess target member => [(.member, .member member), (.target, .flag target.isPresent)]
  | .methodCall target method args =>
      [(.method, .method method), (.target, .flag target.isPresent), (.arity, .count args.size)]
  | .parameter name => [(.parameterName, .name name)]
  | .typeIs _ tested => [(.typeOperand, .type tested)]
  | .binary _ _ _ info => info.attributes
  | .unary _ _ info => info.attributes
  | .new ctor args _ => [(.ctor, .ctor ctor), (.arity, .count args.size)]
  | .conditional .. => []
  | .invoke _ list | .lambda _ list | .newArrayInit list | .newArrayBounds list =>
      [(.arity, .count list.size)]

/-- The attributes that are kept in the table of members. They come after the others, and the table
is not read before. -/
def Arena.boundAttributes (arena : Arena) :
    ExprKind → Except Fault (List (Attribute × AttributeValue))
  | .new _ _ members => do
      let bound ← arena.memberList members
      return (.boundMemberCount, .count bound.length) ::
        bound.mapIdx fun index member => (.boundMember index, .member member)
  | _ => .ok []

def Arena.attributes (arena : Arena) (kind : ExprKind) :
    Except Fault (List (Attribute × AttributeValue)) :=
  (arena.boundAttributes kind).map (kind.ownAttributes ++ ·)

end ExprTree
