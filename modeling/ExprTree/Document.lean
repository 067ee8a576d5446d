/-!
Documents are the form in which values leave the library and come back: null, truth values,
numbers, texts, lists and records. `Codec` pairs the two directions for one type. Reading never
converts between kinds of document, and a number is an integer only if it is written as one.
-/

namespace ExprTree

set_option autoImplicit false

inductive Document where
  | null
  | bool (value : Bool)
  | int (value : Int)
  /-- A number written with a fractional part: `mantissa` divided by ten to the power `places`. -/
  | decimal (mantissa : Int) (places : Nat)
  | text (value : String)
  | list (items : List Document)
  | record (fields : List (String × Document))
deriving Inhabited

inductive DecodeError where
  /-- It does not have the form of the type. -/
  | malformed
  /-- It has the form, and the type itself objects for the reason given. -/
  | rejected (reason : String)
deriving DecidableEq

class Codec (α : Type) where
  encode : α → Document
  decode : Document → Except DecodeError α

export Codec (encode decode)

namespace Document

/-- A number from zero up to `bound`, which itself is too large. -/
def natBelow (bound : Nat) : Document → Except DecodeError Nat
  | .int value => if 0 ≤ value ∧ value < bound then .ok value.toNat else .error .malformed
  | _ => .error .malformed

end Document

instance : Codec Bool where
  encode := .bool
  decode
    | .bool value => .ok value
    | _ => .error .malformed

instance : Codec UInt16 where
  encode value := .int value.toNat
  decode document := (document.natBelow UInt16.size).map UInt16.ofNat

instance : Codec UInt32 where
  encode value := .int value.toNat
  decode document := (document.natBelow UInt32.size).map UInt32.ofNat

instance : Codec UInt64 where
  encode value := .int value.toNat
  decode document := (document.natBelow UInt64.size).map UInt64.ofNat

instance : Codec Int64 where
  encode value := .int value.toInt
  decode
    | .int value =>
        if Int64.minValue.toInt ≤ value ∧ value ≤ Int64.maxValue.toInt then .ok (.ofInt value)
        else .error .malformed
    | _ => .error .malformed

instance : Codec String where
  encode := .text
  decode
    | .text value => .ok value
    | _ => .error .malformed

/-- A character is a text that holds it and nothing else. -/
instance : Codec Char where
  encode value := .text value.toString
  decode
    | .text value =>
        match value.toList with
        | [character] => .ok character
        | _ => .error .malformed
    | _ => .error .malformed

instance {α : Type} [Codec α] : Codec (Option α) where
  encode
    | none => .null
    | some value => encode value
  decode
    | .null => .ok none
    | document => (decode document).map some

instance {α : Type} [Codec α] : Codec (List α) where
  encode values := .list (values.map encode)
  decode
    | .list items => items.mapM decode
    | _ => .error .malformed

abbrev Fields := List (String × Document)

namespace Fields

/-- A field that may be missing. One that is there has to be readable. -/
def read? {α : Type} [Codec α] (fields : Fields) (name : String) :
    Except DecodeError (Option α) :=
  match fields.lookup name with
  | none => .ok none
  | some document => (decode document).map some

def read {α : Type} [Codec α] (fields : Fields) (name : String) : Except DecodeError α := do
  match ← fields.read? name with
  | some value => .ok value
  | none => .error .malformed

end Fields

namespace Document

/-- What `read` makes of the fields of a record. A list stands for the record whose fields, in the
order of `names`, are its items: those that are there are read before their number is checked.
Fields that are not asked for do no harm in a record. -/
def readFields {α : Type} (names : List String) (read : Fields → Except DecodeError α) :
    Document → Except DecodeError α
  | .record fields => read fields
  | .list items => do
      let value ← read (names.zip items)
      if items.length = names.length then .ok value else .error .malformed
  | _ => .error .malformed

/-- One alternative of a choice. An alternative without content is its bare tag; one with
content is the record with the tag as its only field. -/
def tagged (tag : String) (content : Document) : Document :=
  .record [(tag, content)]

def alternative : Document → Except DecodeError (String × Option Document)
  | .text tag => .ok (tag, none)
  | .record [(tag, content)] => .ok (tag, some content)
  | _ => .error .malformed

def noContent : Option Document → Except DecodeError Unit
  | none | some .null => .ok ()
  | _ => .error .malformed

def content {α : Type} [Codec α] : Option Document → Except DecodeError α
  | some document => decode document
  | none => .error .malformed

/-- The content of an alternative with named fields, which a list cannot stand for. -/
def contentFields : Option Document → Except DecodeError Fields
  | some (.record fields) => .ok fields
  | _ => .error .malformed

end Document

end ExprTree
