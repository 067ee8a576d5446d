import ExprTree.Node

/-! Writes of literals, kinds and nodes taken by themselves, with every number in them. -/

namespace ExprTree

set_option autoImplicit false

instance : Digest ConstValue where
  writes value := .tag value.ctorIdx ::
    match value with
    | .null => []
    | .bool value => writes value
    | .int value => writes value
    | .float bits => writes bits
    | .char value => writes value
    | .text name => writes name

instance : Digest NodeKind where
  writes kind := .tag kind.ctorIdx ::
    match kind with
    | .binary op => writes op
    | .unary op => writes op
    | _ => []

instance : Digest ExprKind where
  writes kind := .tag kind.ctorIdx ::
    match kind with
    | .constant value => writes value
    | .memberAccess target member => writes target ++ writes member
    | .methodCall target method args => writes target ++ writes method ++ writes args
    | .parameter name => writes name
    | .typeIs operand tested => writes operand ++ writes tested
    | .binary op left right info => writes op ++ writes left ++ writes right ++ writes info
    | .unary op operand info => writes op ++ writes operand ++ writes info
    | .new ctor args members => writes ctor ++ writes args ++ writes members
    | .conditional test ifTrue ifFalse => writes test ++ writes ifTrue ++ writes ifFalse
    | .invoke callee args => writes callee ++ writes args
    | .lambda body params => writes body ++ writes params
    | .newArrayInit elements => writes elements
    | .newArrayBounds bounds => writes bounds

instance : Digest Node where
  writes node := writes node.kind ++ writes node.type

end ExprTree
