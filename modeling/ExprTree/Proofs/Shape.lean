import ExprTree.Validity
import Mathlib.Logic.Relation

/-!
What a node refers to, said by its kind alone: a target in some kinds, a fixed number of operands,
and at most one list. A node's offspring is what of this is present, in order; following it from
node to node gives the nodes that a root reaches. A node is sound if it meets the conditions that
can be told without looking at the conditions of others.
-/

namespace ExprTree

set_option autoImplicit false

namespace ExprKind

def target? : ExprKind → Option NodeId
  | .memberAccess target _ | .methodCall target _ _ => some target
  | _ => none

def operands : ExprKind → List NodeId
  | .typeIs operand _ | .unary _ operand _ => [operand]
  | .binary _ left right _ => [left, right]
  | .conditional test ifTrue ifFalse => [test, ifTrue, ifFalse]
  | .invoke callee _ => [callee]
  | .lambda body _ => [body]
  | _ => []

def list? : ExprKind → Option NodeRange
  | .methodCall _ _ list | .new _ list _ | .invoke _ list | .lambda _ list | .newArrayInit list
  | .newArrayBounds list => some list
  | _ => none

end ExprKind

namespace ListTable

variable {α : Type}

def Inside (table : ListTable α) (span : Span α) : Prop :=
  span.size = 0 ∨ span.stop ≤ table.size

def run (table : ListTable α) (span : Span α) : List α :=
  (table.entries.toList.drop span.first).take span.size

theorem is_empty_iff (span : Span α) : span.isEmpty ↔ span.size = 0 := by
  simp [Span.isEmpty, Span.size, ← UInt16.toNat_inj]

theorem contains_iff {table : ListTable α} {span : Span α} :
    table.contains span ↔ table.Inside span := by
  simp [contains, Inside, is_empty_iff]

theorem get_eq_run {table : ListTable α} {span : Span α} (inside : table.Inside span) :
    table.get? span = some (table.run span) := by
  unfold get?
  split
  case isTrue empty => simp [run, (is_empty_iff span).1 empty]
  case isFalse filled =>
    have within : span.stop ≤ table.size :=
      inside.resolve_left fun empty => filled ((is_empty_iff span).2 empty)
    rw [if_pos within, run, Array.toList_extract, List.extract_eq_take_drop]
    simp [Span.stop]

theorem get_eq_none {table : ListTable α} {span : Span α} (outside : ¬table.Inside span) :
    table.get? span = none := by
  obtain ⟨filled, past⟩ := not_or.1 outside
  unfold get?
  rw [if_neg (mt (is_empty_iff span).1 filled), if_neg past]

theorem length_run {table : ListTable α} {span : Span α} (inside : table.Inside span) :
    (table.run span).length = span.size := by
  rcases inside with empty | within
  · simp [run, empty]
  · simp only [run, List.length_take, List.length_drop, Array.length_toList]
    simp only [Span.stop, size] at within
    omega

end ListTable

namespace Arena

/-- The children of a list, absent ones included. -/
def entries (arena : Arena) (range : NodeRange) : List NodeId := arena.childLists.run range

def slots (arena : Arena) (kind : ExprKind) : List NodeId :=
  kind.target?.toList ++ kind.operands ++ (kind.list?.toList.flatMap arena.entries)

def offspring (arena : Arena) (kind : ExprKind) : List NodeId :=
  (arena.slots kind).filter NodeId.isPresent

def ChildOf (arena : Arena) (parent child : NodeId) : Prop :=
  ∃ kind, arena.kinds[parent.index]? = some kind ∧ child ∈ arena.offspring kind

def Reaches (arena : Arena) : NodeId → NodeId → Prop := Relation.ReflTransGen arena.ChildOf

def Precedes (arena : Arena) (child parent : NodeId) : Prop :=
  child.index < arena.size ∧ child.index < parent.index

theorem child_list_eq {arena : Arena} {range : NodeRange}
    (inside : arena.childLists.Inside range) :
    arena.childList range = .ok (arena.entries range) := by
  rw [childList, ListTable.get_eq_run inside, entries]

theorem member_list_eq {arena : Arena} {range : MemberRange}
    (inside : arena.memberLists.Inside range) :
    arena.memberList range = .ok (arena.memberLists.run range) := by
  rw [memberList, ListTable.get_eq_run inside]

theorem kind_ok_iff {arena : Arena} {id : NodeId} {kind : ExprKind} :
    arena.kind id = .ok kind ↔ arena.kinds[id.index]? = some kind := by
  unfold Arena.kind
  split <;> simp_all

theorem type_ok_iff {arena : Arena} {id : NodeId} {type : TypeId} :
    arena.type id = .ok type ↔ arena.types[id.index]? = some type := by
  unfold Arena.type
  split <;> simp_all

theorem type_typed {arena : Arena} {id : NodeId} (typed : id.index < arena.types.size) :
    arena.type id = .ok arena.types[id.index] := by
  rw [Arena.type, Array.getElem?_eq_getElem typed]

theorem type_untyped {arena : Arena} {id : NodeId} (untyped : arena.types.size ≤ id.index) :
    arena.type id = .error (.outOfBounds .types) := by
  rw [Arena.type, Array.getElem?_eq_none untyped]

end Arena

namespace Forest

structure SoundAs (forest : Forest) (id : NodeId) (kind : ExprKind) : Prop where
  operandsPresent : ∀ child ∈ kind.operands, child.isPresent
  entriesPresent : ∀ range ∈ kind.list?, ∀ child ∈ forest.arena.entries range, child.isPresent
  childrenPrecede : ∀ child ∈ forest.arena.offspring kind, forest.arena.Precedes child id
  listInside : ∀ range ∈ kind.list?, forest.arena.childLists.Inside range
  membersInside : ∀ ctor args members, kind = .new ctor args members →
    forest.arena.memberLists.Inside members
  membersMatch : ∀ ctor args members, kind = .new ctor args members →
    members.size = 0 ∨ members.size = args.size
  paramsNamed : ∀ body params, kind = .lambda body params →
    ∀ param ∈ forest.arena.entries params,
      ∃ name, forest.arena.kinds[param.index]? = some (.parameter name)
  namesKnown : ∀ name, kind = .parameter name ∨ kind = .constant (.text name) →
    name.index < forest.names.size

/-- The node is there and meets the conditions on its kind. -/
def Sound (forest : Forest) (id : NodeId) : Prop :=
  ∃ kind, forest.arena.kinds[id.index]? = some kind ∧ forest.SoundAs id kind

end Forest

end ExprTree
