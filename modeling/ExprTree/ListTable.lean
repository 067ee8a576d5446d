import ExprTree.Id

/-!
A side table holds many lists one after the other; each is known by its span. Entries are only ever
added at the end, so a span keeps its meaning. A list that is too long for a span is added all the
same and then refused: its entries stay, without a span that leads to them.
-/

namespace ExprTree

set_option autoImplicit false

structure ListTable (α : Type) where
  entries : Array α := #[]

namespace ListTable

variable {α : Type}

instance : Inhabited (ListTable α) := ⟨{}⟩

inductive Failure where
  /-- The table has more entries than a span can start after. -/
  | full (size : Nat)
  | tooLong (length : Nat)
deriving DecidableEq

def size (table : ListTable α) : Nat := table.entries.size

def push (table : ListTable α) (items : List α) : ListTable α × Except Failure (Span α) :=
  match table with
  | ⟨entries⟩ =>
      if items.isEmpty then (⟨entries⟩, .ok .empty)
      else
        let start := entries.size
        if start < UInt32.size then
          let length := items.length
          (⟨entries ++ items⟩,
            if length < UInt16.size then .ok ⟨.ofNat start, .ofNat length⟩
            else .error (.tooLong length))
        else (⟨entries⟩, .error (.full start))

/-- An empty span is inside every table, wherever it starts. -/
def contains (table : ListTable α) (span : Span α) : Bool :=
  span.isEmpty || span.stop ≤ table.size

def get? (table : ListTable α) (span : Span α) : Option (List α) :=
  if span.isEmpty then some []
  else if span.stop ≤ table.size then some (table.entries.extract span.first span.stop).toList
  else none

end ListTable

instance {α : Type} [Inspect α] : Inspect (ListTable α) where
  inspect table := inspect table.entries.toList

instance {α : Type} [Codec α] : Codec (ListTable α) where
  encode table := encode table.entries.toList
  decode document := do
    let entries : List α ← decode document
    return ⟨entries.toArray⟩

end ExprTree
