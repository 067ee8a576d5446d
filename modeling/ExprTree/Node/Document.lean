import ExprTree.Node

/-! Literals, kinds and nodes as documents: each alternative under its name, with named fields. -/

namespace ExprTree

set_option autoImplicit false

instance : Codec ConstValue where
  encode
    | .null => .text "Null"
    | .bool value => .tagged "Bool" (encode value)
    | .int value => .tagged "Int" (encode value)
    | .float bits => .tagged "Float" (encode bits)
    | .char value => .tagged "Char" (encode value)
    | .text name => .tagged "Str" (encode name)
  decode document := do
    let (tag, content) ← document.alternative
    match tag with
    | "Null" => Document.noContent content; return .null
    | "Bool" => return .bool (← Document.content content)
    | "Int" => return .int (← Document.content content)
    | "Float" => return .float (← Document.content content)
    | "Char" => return .char (← Document.content content)
    | "Str" => return .text (← Document.content content)
    | _ => .error .malformed

namespace NodeKind

def plain : List NodeKind :=
  [.constant, .memberAccess, .methodCall, .parameter, .typeIs, .new, .conditional, .invoke, .lambda,
   .newArrayInit, .newArrayBounds]

end NodeKind

instance : Codec NodeKind where
  encode
    | .binary op => .tagged "Binary" (encode op)
    | .unary op => .tagged "Unary" (encode op)
    | kind => .text kind.name
  decode document := do
    let (tag, content) ← document.alternative
    match tag with
    | "Binary" => return .binary (← Document.content content)
    | "Unary" => return .unary (← Document.content content)
    | _ =>
      Document.noContent content
      match NodeKind.plain.find? fun kind => kind.name == tag with
      | some kind => .ok kind
      | none => .error .malformed

namespace ExprKind

/-- The content of an alternative: a literal, or a record of the fields. -/
def encodeContent : ExprKind → Document
  | .constant value => encode value
  | .memberAccess target member => .record [("target", encode target), ("member", encode member)]
  | .methodCall target method args =>
      .record [("target", encode target), ("method", encode method), ("args", encode args)]
  | .parameter name => .record [("name", encode name)]
  | .typeIs operand tested =>
      .record [("operand", encode operand), ("type_operand", encode tested)]
  | .binary op left right info =>
      .record [("op", encode op), ("left", encode left), ("right", encode right),
        ("operator", encode info)]
  | .unary op operand info =>
      .record [("op", encode op), ("operand", encode operand), ("operator", encode info)]
  | .new ctor args members =>
      .record [("ctor", encode ctor), ("args", encode args), ("members", encode members)]
  | .conditional test ifTrue ifFalse =>
      .record [("test", encode test), ("if_true", encode ifTrue), ("if_false", encode ifFalse)]
  | .invoke callee args => .record [("callee", encode callee), ("args", encode args)]
  | .lambda body params => .record [("body", encode body), ("params", encode params)]
  | .newArrayInit elements => .record [("elements", encode elements)]
  | .newArrayBounds bounds => .record [("bounds", encode bounds)]

/-- A constructor that is not mentioned is none. -/
def decodeFields (tag : String) (fields : Fields) : Except DecodeError ExprKind := do
  match tag with
  | "MemberAccess" => return .memberAccess (← fields.read "target") (← fields.read "member")
  | "MethodCall" =>
      return .methodCall (← fields.read "target") (← fields.read "method")
        (← fields.read "args")
  | "Parameter" => return .parameter (← fields.read "name")
  | "TypeIs" => return .typeIs (← fields.read "operand") (← fields.read "type_operand")
  | "Binary" =>
      return .binary (← fields.read "op") (← fields.read "left") (← fields.read "right")
        (← fields.read "operator")
  | "Unary" =>
      return .unary (← fields.read "op") (← fields.read "operand") (← fields.read "operator")
  | "New" =>
      let ctor : Option (Option CtorId) ← fields.read? "ctor"
      return .new ctor.join (← fields.read "args") (← fields.read "members")
  | "Conditional" =>
      return .conditional (← fields.read "test") (← fields.read "if_true")
        (← fields.read "if_false")
  | "Invoke" => return .invoke (← fields.read "callee") (← fields.read "args")
  | "Lambda" => return .lambda (← fields.read "body") (← fields.read "params")
  | "NewArrayInit" => return .newArrayInit (← fields.read "elements")
  | "NewArrayBounds" => return .newArrayBounds (← fields.read "bounds")
  | _ => .error .malformed

end ExprKind

instance : Codec ExprKind where
  encode kind := .tagged kind.name kind.encodeContent
  decode document := do
    let (tag, content) ← document.alternative
    match tag with
    | "Constant" => return .constant (← Document.content content)
    | _ => ExprKind.decodeFields tag (← Document.contentFields content)

instance : Codec Node where
  encode node := .record [("kind", encode node.kind), ("ty", encode node.type)]
  decode := Document.readFields ["kind", "ty"] fun fields => do
    return ⟨← fields.read "kind", ← fields.read "ty"⟩

end ExprTree
