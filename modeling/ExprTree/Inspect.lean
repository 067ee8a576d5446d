import ExprTree.Text.Quoted

/-!
Inspection text: one line that shows a value with its constructor and field names. Three layouts
cover every type of the library: positional fields in parentheses, named fields in braces, and
lists in brackets.
-/

namespace ExprTree

set_option autoImplicit false

class Inspect (α : Type) where
  inspect : α → String

export Inspect (inspect)

namespace Inspect

def commaSeparated (parts : List String) : String :=
  String.intercalate ", " parts

def positional (name : String) (parts : List String) : String :=
  name ++ "(" ++ commaSeparated parts ++ ")"

def named (name : String) (fields : List (String × String)) : String :=
  name ++ " \x7b " ++ commaSeparated (fields.map fun field => field.1 ++ ": " ++ field.2) ++ " \x7d"

def abridged (name : String) (fields : List (String × String)) : String :=
  name ++ " \x7b " ++
    commaSeparated ((fields.map fun field => field.1 ++ ": " ++ field.2) ++ [".."]) ++ " \x7d"

end Inspect

instance : Inspect Bool where
  inspect value := if value then "true" else "false"

instance : Inspect Nat where
  inspect value := toString value

instance : Inspect UInt64 where
  inspect value := toString value.toNat

instance : Inspect Int64 where
  inspect value := toString value.toInt

instance : Inspect Char where
  inspect := Text.quotedChar

instance : Inspect String where
  inspect := Text.quotedString

instance {α : Type} [Inspect α] : Inspect (Option α) where
  inspect
    | none => "None"
    | some value => Inspect.positional "Some" [inspect value]

instance {α : Type} [Inspect α] : Inspect (List α) where
  inspect values := "[" ++ Inspect.commaSeparated (values.map inspect) ++ "]"

end ExprTree
