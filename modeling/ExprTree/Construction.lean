import ExprTree.Arena

/-!
Building trees bottom up, one node at a time. A `Construction` says what the node is in terms of
its children, with strings for names and lists for spans; building it interns the strings, stores
the lists and adds the node. Building that fails keeps what was stored by then.
-/

namespace ExprTree

set_option autoImplicit false

/-- One node to be built. Where no type is given, the construction fixes it. -/
inductive Construction where
  | constant (value : ConstValue) (type : TypeId)
  | int (value : Int64)
  | float (bits : UInt64)
  | bool (value : Bool)
  | string (text : String)
  | null (type : TypeId)
  | parameter (name : String) (type : TypeId)
  /-- Without a target, a static member; so with methods. -/
  | member (target : Option NodeId) (member : MemberId) (type : TypeId)
  | call (target : Option NodeId) (method : MethodId) (args : List NodeId) (type : TypeId)
  | invoke (callee : NodeId) (args : List NodeId) (type : TypeId)
  | typeIs (operand : NodeId) (tested : TypeId)
  | binary (op : BinaryOp) (left right : NodeId) (info : OperatorInfo) (type : TypeId)
  | unary (op : UnaryOp) (operand : NodeId) (info : OperatorInfo) (type : TypeId)
  | conditional (test ifTrue ifFalse : NodeId) (type : TypeId)
  | new (ctor : Option CtorId) (args : List NodeId) (members : List MemberId) (type : TypeId)
  | newArray (elements : List NodeId) (type : TypeId)
  | newArrayBounds (bounds : List NodeId) (type : TypeId)
  | lambda (body : NodeId) (params : List NodeId) (type : TypeId)
deriving DecidableEq

inductive BuildError where
  | push (error : Arena.PushError)
  | intern (error : InternError)
deriving DecidableEq

def BuildError.message : BuildError → String
  | .push error => error.message
  | .intern error => error.message

/-- A computation that adds to a forest. What it has added stays when it fails. -/
abbrev Build := ExceptT BuildError (StateM Forest)

namespace Build

def intern (text : String) : Build Name := fun forest =>
  match forest with
  | ⟨arena, names, home⟩ =>
      let (grown, result) := names.intern text
      (result.mapError .intern, ⟨arena, grown, home⟩)

def onArena {Result : Type} (change : Arena → Arena × Except Arena.PushError Result) :
    Build Result := fun forest =>
  match forest with
  | ⟨arena, names, home⟩ =>
      let (grown, result) := change arena
      (result.mapError .push, ⟨grown, names, home⟩)

def node (kind : ExprKind) (type : TypeId) : Build NodeId := onArena (·.push ⟨kind, type⟩)

def children (children : List NodeId) : Build NodeRange := onArena (·.pushChildren children)

def members (members : List MemberId) : Build MemberRange := onArena (·.pushMembers members)

end Build

open Build in
/-- Adds the node, its list of children before its list of members. -/
def Construction.build : Construction → Build NodeId
  | .constant value type => node (.constant value) type
  | .int value => node (.constant (.int value)) .int
  | .float bits => node (.constant (.float bits)) .double
  | .bool value => node (.constant (.bool value)) .bool
  | .string text => do node (.constant (.text (← intern text))) .string
  | .null type => node (.constant .null) type
  | .parameter name type => do node (.parameter (← intern name)) type
  | .member target id type => node (.memberAccess (target.getD .absent) id) type
  | .call target method args type => do
      node (.methodCall (target.getD .absent) method (← children args)) type
  | .invoke callee args type => do node (.invoke callee (← children args)) type
  | .typeIs operand tested => node (.typeIs operand tested) .bool
  | .binary op left right info type => node (.binary op left right info) type
  | .unary op operand info type => node (.unary op operand info) type
  | .conditional test ifTrue ifFalse type => node (.conditional test ifTrue ifFalse) type
  | .new ctor args bound type => do node (.new ctor (← children args) (← members bound)) type
  | .newArray elements type => do node (.newArrayInit (← children elements)) type
  | .newArrayBounds bounds type => do node (.newArrayBounds (← children bounds)) type
  | .lambda body params type => do node (.lambda body (← children params)) type

end ExprTree
