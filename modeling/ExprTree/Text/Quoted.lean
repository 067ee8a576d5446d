import ExprTree.Text.Printable

/-!
Quoted characters and strings. A character that shows nothing by itself, or that would join its
neighbour, is written by its number; the enclosing quote, the backslash and four control
characters have short forms. The quote of the other kind needs none.
-/

namespace ExprTree.Text

set_option autoImplicit false

def numbered (character : Char) : String :=
  "\\u\x7b" ++ String.ofList (Nat.toDigits 16 character.toNat) ++ "\x7d"

/-- One character inside quotes of the kind `quote`. -/
def escaped (quote character : Char) : String :=
  if character = '\x00' then "\\0"
  else if character = '\t' then "\\t"
  else if character = '\n' then "\\n"
  else if character = '\r' then "\\r"
  else if character = '\\' then "\\\\"
  else if character = quote then "\\" ++ quote.toString
  else if isPrintable character then character.toString
  else numbered character

def quotedChar (character : Char) : String :=
  "'" ++ escaped '\'' character ++ "'"

def quotedString (text : String) : String :=
  "\"" ++ String.join (text.toList.map (escaped '"')) ++ "\""

end ExprTree.Text
