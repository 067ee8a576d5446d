import ExprTree.Arena
import ExprTree.Node.Document

/-!
Forests as documents: a record of the four tables and the interner's strings, so that names keep
their meaning. Reading checks each table by itself and nothing across them.
-/

namespace ExprTree.Forest

set_option autoImplicit false

def fieldNames : List String := ["kinds", "types", "expr_lists", "member_lists", "interner"]

def toDocument (forest : Forest) : Document :=
  .record
    [("kinds", encode forest.arena.kinds.toList), ("types", encode forest.arena.types.toList),
     ("expr_lists", encode forest.arena.childLists),
     ("member_lists", encode forest.arena.memberLists), ("interner", encode forest.names)]

structure Draft where
  kinds : Option (List ExprKind) := none
  types : Option (List TypeId) := none
  childLists : Option (ListTable NodeId) := none
  memberLists : Option (ListTable MemberId) := none
  names : Option Interner := none

namespace Draft

def add (draft : Draft) (field : String × Document) : Except DecodeError Draft := do
  match field.1 with
  | "kinds" => return { draft with kinds := some (← decode field.2) }
  | "types" => return { draft with types := some (← decode field.2) }
  | "expr_lists" => return { draft with childLists := some (← decode field.2) }
  | "member_lists" => return { draft with memberLists := some (← decode field.2) }
  | "interner" => return { draft with names := some (← decode field.2) }
  | _ => return draft

/-- The forest, with an interner known as `home`, if nothing is missing. -/
def complete (draft : Draft) (home : InternerId) : Except DecodeError Forest :=
  match draft with
  | ⟨some kinds, some types, some childLists, some memberLists, some names⟩ =>
      .ok ⟨⟨kinds.toArray, types.toArray, childLists, memberLists⟩, names, home⟩
  | _ => .error .malformed

end Draft

/-- The forest of a document, with an interner of its own that is known as `home`. The fields are
read in the order of the document, and only then is one that is missing noticed: of several
objections the first in this order is reported. -/
def ofDocument (home : InternerId) : Document → Except DecodeError Forest :=
  Document.readFields fieldNames fun fields => do
    (← fields.foldlM Draft.add {}).complete home

end ExprTree.Forest
