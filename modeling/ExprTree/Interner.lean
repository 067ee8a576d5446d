import ExprTree.Id
import Std.Data.TreeMap

/-!
Interners give each string a number, its `Name`, and keep it for good. The strings stand in an array
in the order of their names; the index leads from a string back to its name. The empty string is
there from the start.
-/

namespace ExprTree

set_option autoImplicit false

structure Interner where
  strings : Array String
  index : Std.TreeMap String Name

/-- One number fewer than a `Name` could hold, so that the count of strings fits as well. -/
def Interner.capacity : Nat := UInt32.size - 1

inductive InternError where
  | overflow (count : Nat)
deriving DecidableEq

def InternError.message : InternError → String
  | .overflow count =>
      "interner exceeded capacity: " ++ inspect count ++ " strings, max is " ++
        inspect Interner.capacity

namespace Interner

def fresh : Interner where
  strings := #[""]
  index := (∅ : Std.TreeMap String Name).insert "" .empty

instance : Inhabited Interner := ⟨fresh⟩

def size (interner : Interner) : Nat := interner.strings.size

def isEmpty (interner : Interner) : Bool := interner.strings.isEmpty

def intern (interner : Interner) (text : String) : Interner × Except InternError Name :=
  match interner.index[text]? with
  | some name => (interner, .ok name)
  | none =>
      let count := interner.strings.size
      if count < capacity then
        let name : Name := ⟨.ofNat count⟩
        (⟨interner.strings.push text, interner.index.insert text name⟩, .ok name)
      else (interner, .error (.overflow count))

def lookup? (interner : Interner) (name : Name) : Option String :=
  interner.strings[name.index]?

def contains (interner : Interner) (name : Name) : Bool :=
  name.index < interner.strings.size

def internAll (interner : Interner) : List String → Interner × Except InternError (List Name)
  | [] => (interner, .ok [])
  | text :: rest =>
      match interner.intern text with
      | (grown, .error error) => (grown, .error error)
      | (grown, .ok name) =>
          match grown.internAll rest with
          | (final, .error error) => (final, .error error)
          | (final, .ok names) => (final, .ok (name :: names))

inductive ReadError where
  /-- The string at the position was given an earlier name. -/
  | repeated (text : String) (position : Nat)
  | full (error : InternError)
deriving DecidableEq

def ReadError.message : ReadError → String
  | .repeated text position =>
      "interned string " ++ inspect text ++ " at position " ++ inspect position ++ " is not unique"
  | .full error => error.message

/-- Interns strings that are to stand at the positions from `position` on. -/
def readFrom (interner : Interner) (position : Nat) : List String → Except ReadError Interner
  | [] => .ok interner
  | text :: rest =>
      match interner.intern text with
      | (_, .error error) => .error (.full error)
      | (grown, .ok name) =>
          if name.index = position then grown.readFrom (position + 1) rest
          else .error (.repeated text position)

/-- The interner with the given strings under their positions as names. No string at all stands for
a fresh interner. -/
def ofStrings (texts : List String) : Except ReadError Interner :=
  fresh.readFrom 0 texts

end Interner

instance : Inspect Interner where
  inspect interner := Inspect.abridged "SharedInterner" [("len", inspect interner.size)]

instance : Codec Interner where
  encode interner := encode interner.strings.toList
  decode document := do
    let texts : List String ← decode document
    match Interner.ofStrings texts with
    | .ok interner => .ok interner
    | .error error => .error (.rejected error.message)

end ExprTree
