import ExprTree.Proofs.Storing

/-!
Both side tables of an arena keep every list that they have given a span for. A span starts where
its table ended when the list was stored, and ends where the table ended then; since tables only
grow, and at the end, the span leads to the same list ever after, and spans of different lists have
no entry in common. So it is also with lists between them that were refused, whose entries stay.
-/

namespace ExprTree

set_option autoImplicit false

inductive SideTable where
  | children | members
deriving DecidableEq

namespace SideTable

abbrev Entry : SideTable → Type
  | .children => NodeId
  | .members => MemberId

def refusal : SideTable → ListTable.Failure → Arena.PushError
  | .children => .childList
  | .members => .memberList

end SideTable

def Span.positions {α : Type} (span : Span α) : List Nat := List.range' span.first span.size

inductive Addition where
  | node (node : Node)
  | list (table : SideTable) (items : List table.Entry)

namespace ListTable

variable {α : Type} {table grown later after : ListTable α} {items others : List α}
  {span other : Span α}

theorem push_refused (room : table.size < UInt32.size) (long : UInt16.size ≤ items.length) :
    table.push items = (table.append items, .error (.tooLong items.length)) := by
  have ends := table.push_ends items
  generalize table.push items = result at ends
  cases ends with
  | nothing => cases long
  | @stored _ span _ _ _ size =>
      have short : span.size < UInt16.size := span.length.toNat_lt
      omega
  | tooLong => rfl
  | full _ past => exact absurd room (Nat.not_lt_of_le past)

theorem push_bounds (pushed : table.push items = (grown, .ok span)) (filled : items ≠ []) :
    span.first = table.size ∧ span.stop = grown.size := by
  have ends := table.push_ends items
  rw [pushed] at ends
  cases ends with
  | nothing => exact absurd rfl filled
  | stored _ _ first size => exact ⟨first, by rw [Span.stop, first, size, size_append]⟩

/-- Spans that a table gives for two lists have no position in common, whatever it has got in
between. -/
theorem push_disjoint (pushed : table.push items = (grown, .ok span)) (filled : items ≠ [])
    (between : grown.Extends later) (pushedLater : later.push others = (after, .ok other))
    (filledLater : others ≠ []) : span.positions.Disjoint other.positions := by
  have stop := (push_bounds pushed filled).2
  have first := (push_bounds pushedLater filledLater).1
  have larger : grown.size ≤ later.size := between.length_le
  -- The first span ends where its table ended then, and the other one starts no earlier.
  intro position member memberLater
  obtain ⟨_, before⟩ := List.mem_range'_1.1 member
  obtain ⟨behind, _⟩ := List.mem_range'_1.1 memberLater
  simp only [Span.stop] at stop
  omega

end ListTable

namespace Arena

variable {arena grown : Arena} {table : SideTable} {items : List table.Entry}
  {span : Span table.Entry}

def side (arena : Arena) : (table : SideTable) → ListTable table.Entry
  | .children => arena.childLists
  | .members => arena.memberLists

def store (arena : Arena) :
    (table : SideTable) → List table.Entry → Arena × Except PushError (Span table.Entry)
  | .children => arena.pushChildren
  | .members => arena.pushMembers

def listAt (arena : Arena) :
    (table : SideTable) → Span table.Entry → Except Fault (List table.Entry)
  | .children => arena.childList
  | .members => arena.memberList

/-- The arena after an addition, also after one that fails. -/
def add (arena : Arena) : Addition → Arena
  | .node node => (arena.push node).1
  | .list table items => (arena.store table items).1

def addAll (arena : Arena) (additions : List Addition) : Arena := additions.foldl add arena

/-- The second arena has the list behind all that is in the table, and nothing else has changed. -/
structure GrownBy (arena : Arena) (table : SideTable) (items : List table.Entry)
    (grown : Arena) : Prop where
  appended : grown.side table = (arena.side table).append items
  others : ∀ other, other ≠ table → grown.side other = arena.side other
  kinds : grown.kinds = arena.kinds
  types : grown.types = arena.types

/-- Now and after any further additions, the span is accepted and leads to the list. -/
def Keeps (arena : Arena) (table : SideTable) (span : Span table.Entry)
    (items : List table.Entry) : Prop :=
  ∀ later, ((arena.addAll later).side table).contains span ∧
    (arena.addAll later).listAt table span = .ok items

/-! ### Storing a list -/

theorem list_at_ok (inside : (arena.side table).Inside span) :
    arena.listAt table span = .ok ((arena.side table).run span) := by
  cases table with
  | children => exact child_list_eq inside
  | members => exact member_list_eq inside

/-- Storing a list replaces its table and does nothing else. -/
theorem store_spec (arena : Arena) (table : SideTable) (items : List table.Entry) :
    ∃ grown, arena.store table items =
        (grown, ((arena.side table).push items).2.mapError table.refusal) ∧
      grown.side table = ((arena.side table).push items).1 ∧
      (∀ other, other ≠ table → grown.side other = arena.side other) ∧
      grown.kinds = arena.kinds ∧ grown.types = arena.types := by
  cases table with
  | children =>
      refine ⟨_, rfl, rfl, ?_, rfl, rfl⟩
      intro other apart
      cases other with
      | children => exact absurd rfl apart
      | members => rfl
  | members =>
      refine ⟨_, rfl, rfl, ?_, rfl, rfl⟩
      intro other apart
      cases other with
      | children => rfl
      | members => exact absurd rfl apart

theorem store_ok (stored : arena.store table items = (grown, .ok span)) :
    (arena.side table).push items = (grown.side table, .ok span) := by
  obtain ⟨other, same, own, _⟩ := arena.store_spec table items
  rw [stored, Prod.mk.injEq] at same
  obtain ⟨rfl, answered⟩ := same
  exact Prod.ext own.symm (map_error_ok_iff.1 answered.symm)

theorem store_appended {result : Except ListTable.Failure (Span table.Entry)}
    (pushed : (arena.side table).push items = ((arena.side table).append items, result)) :
    ∃ grown, arena.store table items = (grown, result.mapError table.refusal) ∧
      arena.GrownBy table items grown := by
  obtain ⟨grown, stored, own, others, kinds, types⟩ := arena.store_spec table items
  rw [pushed] at stored own
  exact ⟨grown, stored, own, others, kinds, types⟩

/-! ### Further additions -/

theorem add_extends (arena : Arena) (addition : Addition) : arena.Extends (arena.add addition) := by
  cases addition with
  | node node => exact arena.push_extends node
  | list table items =>
      cases table with
      | children => exact arena.push_children_extends items
      | members => exact arena.push_members_extends items

theorem add_all_extends (arena : Arena) (additions : List Addition) :
    arena.Extends (arena.addAll additions) := by
  induction additions generalizing arena with
  | nil => exact .refl arena
  | cons addition additions induction =>
      exact (arena.add_extends addition).trans (induction (arena.add addition))

theorem Extends.side {later : Arena} (extended : arena.Extends later) (table : SideTable) :
    (arena.side table).Extends (later.side table) := by
  cases table with
  | children => exact extended.childLists
  | members => exact extended.memberLists

theorem keeps_of_run (inside : (arena.side table).Inside span)
    (run : (arena.side table).run span = items) : arena.Keeps table span items := by
  intro later
  have extended := (arena.add_all_extends later).side table
  have insideLater := extended.inside inside
  refine ⟨ListTable.contains_iff.2 insideLater, ?_⟩
  rw [list_at_ok insideLater, extended.run inside, run]

/-- Storing an empty list changes nothing. In a table with room, a list that is not too long gets a
span, which leads to it ever after, and a list that is too long is refused; in both cases its entries
are added to the table, and nothing else changes. The spans of two lists in one table never share a
position, whatever was added to the arena between them. -/
theorem side_tables_keep_lists (arena : Arena) (table : SideTable) (items : List table.Entry) :
    (items = [] → arena.store table items = (arena, .ok .empty)) ∧
    ((arena.side table).size < UInt32.size → items.length < UInt16.size →
      ∃ grown span, arena.store table items = (grown, .ok span) ∧
        arena.GrownBy table items grown ∧ grown.Keeps table span items) ∧
    ((arena.side table).size < UInt32.size → UInt16.size ≤ items.length →
      ∃ grown, arena.store table items = (grown, .error (table.refusal (.tooLong items.length))) ∧
        arena.GrownBy table items grown) ∧
    ∀ grown span, arena.store table items = (grown, .ok span) → items ≠ [] →
      ∀ between others after other,
        (grown.addAll between).store table others = (after, .ok other) → others ≠ [] →
          span.positions.Disjoint other.positions := by
  refine ⟨?empty, ?short, ?long, ?apart⟩
  case empty =>
    intro nothing
    rw [nothing]
    cases table <;> rfl
  case short =>
    intro room short
    obtain ⟨span, pushed⟩ := ListTable.push_answers room short
    obtain ⟨grown, stored, grew⟩ := store_appended pushed
    obtain ⟨inside, run⟩ := ListTable.push_ok (store_ok stored)
    exact ⟨grown, span, stored, grew, keeps_of_run inside run⟩
  case long =>
    intro room long
    exact store_appended (ListTable.push_refused room long)
  case apart =>
    intro grown span stored filled between others after other storedLater filledLater
    have extended := (grown.add_all_extends between).side table
    exact ListTable.push_disjoint (store_ok stored) filled extended (store_ok storedLater)
      filledLater

def stocked : Arena where
  childLists := ⟨#[⟨5⟩]⟩
  memberLists := ⟨#[⟨8⟩, ⟨9⟩]⟩

def overlong : List NodeId := List.replicate UInt16.size ⟨3⟩

theorem length_overlong : overlong.length = UInt16.size := List.length_replicate

/-- A list that is too long is refused between two lists that are stored. -/
theorem side_tables_keep_lists_around_refusal :
    stocked.store .members [] = (stocked, .ok .empty) ∧
    ∃ grown span refused after other,
      stocked.store .children [⟨0⟩, ⟨1⟩] = (grown, .ok span) ∧
      stocked.GrownBy .children [⟨0⟩, ⟨1⟩] grown ∧
      grown.Keeps .children span [⟨0⟩, ⟨1⟩] ∧
      grown.store .children overlong =
        (refused, .error (.childList (.tooLong UInt16.size))) ∧
      grown.GrownBy .children overlong refused ∧
      (grown.addAll [.list .children overlong]).store .children [⟨2⟩] = (after, .ok other) ∧
      span.positions.Disjoint other.positions := by
  have room : (stocked.side .children).size < UInt32.size := by decide
  obtain ⟨grown, span, stored, grew, keeps⟩ :=
    (side_tables_keep_lists stocked .children [⟨0⟩, ⟨1⟩]).2.1 room (by decide)
  have size : (grown.side .children).size = 3 := by
    rw [grew.appended, ListTable.size_append]
    rfl
  obtain ⟨refused, refusal, grewToo⟩ :=
    (side_tables_keep_lists grown .children overlong).2.2.1 (by rw [size]; decide)
      (Nat.le_of_eq length_overlong.symm)
  have sizeToo : (refused.side .children).size = 3 + UInt16.size := by
    rw [grewToo.appended, ListTable.size_append, size, length_overlong]
  obtain ⟨after, other, storedToo, _⟩ :=
    (side_tables_keep_lists refused .children [⟨2⟩]).2.1 (by rw [sizeToo]; decide) (by decide)
  have between : grown.addAll [.list .children overlong] = refused := congrArg Prod.fst refusal
  rw [length_overlong] at refusal
  rw [← between] at storedToo
  refine ⟨(side_tables_keep_lists stocked .members []).1 rfl, grown, span, refused, after, other,
    stored, grew, keeps, refusal, grewToo, storedToo, ?_⟩
  exact (side_tables_keep_lists stocked .children [⟨0⟩, ⟨1⟩]).2.2.2 grown span stored (by decide)
    [.list .children overlong] [⟨2⟩] after other storedToo (by decide)

end Arena

end ExprTree
