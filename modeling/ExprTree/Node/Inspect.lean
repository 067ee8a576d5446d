import ExprTree.Node

/-! Inspection text of literals, kinds and nodes. -/

namespace ExprTree

set_option autoImplicit false

instance : Inspect ConstValue where
  inspect
    | .null => "Null"
    | .bool value => Inspect.positional "Bool" [inspect value]
    | .int value => Inspect.positional "Int" [inspect value]
    | .float bits => Inspect.positional "Float" [inspect bits]
    | .char value => Inspect.positional "Char" [inspect value]
    | .text name => Inspect.positional "Str" [inspect name]

instance : Inspect NodeKind where
  inspect
    | .binary op => Inspect.positional "Binary" [inspect op]
    | .unary op => Inspect.positional "Unary" [inspect op]
    | kind => kind.name

/-- The named fields of a kind, in order. A literal is shown by position instead. -/
def ExprKind.inspectFields : ExprKind → List (String × String)
  | .constant _ => []
  | .memberAccess target member => [("target", inspect target), ("member", inspect member)]
  | .methodCall target method args =>
      [("target", inspect target), ("method", inspect method), ("args", inspect args)]
  | .parameter name => [("name", inspect name)]
  | .typeIs operand tested => [("operand", inspect operand), ("type_operand", inspect tested)]
  | .binary op left right info =>
      [("op", inspect op), ("left", inspect left), ("right", inspect right),
       ("operator", inspect info)]
  | .unary op operand info =>
      [("op", inspect op), ("operand", inspect operand), ("operator", inspect info)]
  | .new ctor args members =>
      [("ctor", inspect ctor), ("args", inspect args), ("members", inspect members)]
  | .conditional test ifTrue ifFalse =>
      [("test", inspect test), ("if_true", inspect ifTrue), ("if_false", inspect ifFalse)]
  | .invoke callee args => [("callee", inspect callee), ("args", inspect args)]
  | .lambda body params => [("body", inspect body), ("params", inspect params)]
  | .newArrayInit elements => [("elements", inspect elements)]
  | .newArrayBounds bounds => [("bounds", inspect bounds)]

instance : Inspect ExprKind where
  inspect kind :=
    match kind with
    | .constant value => Inspect.positional kind.name [inspect value]
    | _ => Inspect.named kind.name kind.inspectFields

instance : Inspect Node where
  inspect node := inspect node.kind ++ " : " ++ inspect node.type

end ExprTree
