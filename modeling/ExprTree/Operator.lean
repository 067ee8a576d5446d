import ExprTree.Id

/-!
Operators of binary and unary nodes, and what is known about how an operator is carried out.
-/

namespace ExprTree

set_option autoImplicit false

inductive BinaryOp where
  | add | addChecked | subtract | subtractChecked | multiply | multiplyChecked
  | divide | modulo | power
  | equal | notEqual | lessThan | lessThanOrEqual | greaterThan | greaterThanOrEqual
  | andAlso | orElse
  | and | or | exclusiveOr | leftShift | rightShift
  | coalesce | arrayIndex
deriving DecidableEq

namespace BinaryOp

/-- All operators, in the order of their numbers. -/
def all : List BinaryOp :=
  [.add, .addChecked, .subtract, .subtractChecked, .multiply, .multiplyChecked, .divide, .modulo,
   .power, .equal, .notEqual, .lessThan, .lessThanOrEqual, .greaterThan, .greaterThanOrEqual,
   .andAlso, .orElse, .and, .or, .exclusiveOr, .leftShift, .rightShift, .coalesce, .arrayIndex]

def name : BinaryOp → String
  | .add => "Add"
  | .addChecked => "AddChecked"
  | .subtract => "Subtract"
  | .subtractChecked => "SubtractChecked"
  | .multiply => "Multiply"
  | .multiplyChecked => "MultiplyChecked"
  | .divide => "Divide"
  | .modulo => "Modulo"
  | .power => "Power"
  | .equal => "Equal"
  | .notEqual => "NotEqual"
  | .lessThan => "LessThan"
  | .lessThanOrEqual => "LessThanOrEqual"
  | .greaterThan => "GreaterThan"
  | .greaterThanOrEqual => "GreaterThanOrEqual"
  | .andAlso => "AndAlso"
  | .orElse => "OrElse"
  | .and => "And"
  | .or => "Or"
  | .exclusiveOr => "ExclusiveOr"
  | .leftShift => "LeftShift"
  | .rightShift => "RightShift"
  | .coalesce => "Coalesce"
  | .arrayIndex => "ArrayIndex"

/-- The customary symbol, which checked and unchecked arithmetic share. -/
def symbol : BinaryOp → String
  | .add | .addChecked => "+"
  | .subtract | .subtractChecked => "-"
  | .multiply | .multiplyChecked => "*"
  | .divide => "/"
  | .modulo => "%"
  | .power => "**"
  | .equal => "=="
  | .notEqual => "!="
  | .lessThan => "<"
  | .lessThanOrEqual => "<="
  | .greaterThan => ">"
  | .greaterThanOrEqual => ">="
  | .andAlso => "&&"
  | .orElse => "||"
  | .and => "&"
  | .or => "|"
  | .exclusiveOr => "^"
  | .leftShift => "<<"
  | .rightShift => ">>"
  | .coalesce => "??"
  | .arrayIndex => "[]"

def ofName? (text : String) : Option BinaryOp :=
  all.find? fun op => op.name == text

theorem all_at_tag (op : BinaryOp) : all[op.ctorIdx]? = some op := by
  cases op <;> rfl

theorem of_name_name (op : BinaryOp) : ofName? op.name = some op := by
  cases op <;> decide

end BinaryOp

inductive UnaryOp where
  | negate | negateChecked | unaryPlus | not
  /-- Conversion to the static type of the node; so is `typeAs`, which gives null on failure. -/
  | convert | convertChecked | typeAs
  | arrayLength | quote
deriving DecidableEq

namespace UnaryOp

/-- All operators, in the order of their numbers. -/
def all : List UnaryOp :=
  [.negate, .negateChecked, .unaryPlus, .not, .convert, .convertChecked, .typeAs, .arrayLength,
   .quote]

def name : UnaryOp → String
  | .negate => "Negate"
  | .negateChecked => "NegateChecked"
  | .unaryPlus => "UnaryPlus"
  | .not => "Not"
  | .convert => "Convert"
  | .convertChecked => "ConvertChecked"
  | .typeAs => "TypeAs"
  | .arrayLength => "ArrayLength"
  | .quote => "Quote"

def ofName? (text : String) : Option UnaryOp :=
  all.find? fun op => op.name == text

theorem all_at_tag (op : UnaryOp) : all[op.ctorIdx]? = some op := by
  cases op <;> rfl

theorem of_name_name (op : UnaryOp) : ofName? op.name = some op := by
  cases op <;> decide

end UnaryOp

structure OperatorInfo where
  /-- The method that implements it; none for an operator of the language. -/
  method : Option MethodId := none
  /-- The operands may be null, and the operator is applied only if none is. -/
  lifted : Bool := false
  /-- The result of the lifted operator may itself be null. -/
  liftedToNull : Bool := false
deriving DecidableEq

namespace OperatorInfo

def builtin : OperatorInfo := {}

instance : Inhabited OperatorInfo := ⟨builtin⟩

def liftedBuiltin (toNull : Bool) : OperatorInfo :=
  { lifted := true, liftedToNull := toNull }

def userDefined (method : MethodId) : OperatorInfo :=
  { method := some method }

end OperatorInfo

instance : Inspect BinaryOp where
  inspect := BinaryOp.name

instance : Inspect UnaryOp where
  inspect := UnaryOp.name

instance : Inspect OperatorInfo where
  inspect info := Inspect.named "OperatorInfo"
    [("method", inspect info.method), ("is_lifted", inspect info.lifted),
     ("is_lifted_to_null", inspect info.liftedToNull)]

instance : Codec BinaryOp where
  encode op := .text op.name
  decode document := do
    let (tag, content) ← document.alternative
    Document.noContent content
    match BinaryOp.ofName? tag with
    | some op => .ok op
    | none => .error .malformed

instance : Codec UnaryOp where
  encode op := .text op.name
  decode document := do
    let (tag, content) ← document.alternative
    Document.noContent content
    match UnaryOp.ofName? tag with
    | some op => .ok op
    | none => .error .malformed

instance : Codec OperatorInfo where
  encode info := .record
    [("method", encode info.method), ("is_lifted", encode info.lifted),
     ("is_lifted_to_null", encode info.liftedToNull)]
  decode := Document.readFields ["method", "is_lifted", "is_lifted_to_null"] fun fields => do
    let method : Option (Option MethodId) ← fields.read? "method"
    return ⟨method.join, ← fields.read "is_lifted", ← fields.read "is_lifted_to_null"⟩

instance : Digest BinaryOp where
  writes op := [.tag op.ctorIdx]

instance : Digest UnaryOp where
  writes op := [.tag op.ctorIdx]

instance : Digest OperatorInfo where
  writes info := writes info.method ++ writes info.lifted ++ writes info.liftedToNull

end ExprTree
